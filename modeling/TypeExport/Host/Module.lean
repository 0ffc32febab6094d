import TypeExport.Host.Type

/-! # Modules of Declarations

    A module is what one descriptor file holds.  A name stands for its first declaration.

    Walking along names may lead in circles.  A walk that never enters a name twice ends, because
    each step uses up one of the declarations that it has not entered yet; `unentered` counts
    them, and `unentered_lt` is the step. -/

namespace TypeExport

/-- The declarations of one descriptor file. -/
structure HostModule where
  package : Option String := none
  types : List TypeDecl := []
  deriving Repr, BEq, Inhabited

namespace HostModule

def add (m : HostModule) (decl : TypeDecl) : HostModule := { m with types := m.types ++ [decl] }

def lookup (m : HostModule) (name : String) : Option TypeDecl := m.types.find? (·.name == name)

/-- How many declarations have a name outside `path`. -/
def unentered (m : HostModule) (path : List String) : Nat :=
  (m.types.filter fun d => d.name ∉ path).length

theorem name_of_lookup {m : HostModule} {name : String} {decl : TypeDecl}
    (h : m.lookup name = some decl) : decl.name = name := by
  simpa using List.find?_some h

theorem mem_of_lookup {m : HostModule} {name : String} {decl : TypeDecl}
    (h : m.lookup name = some decl) : decl ∈ m.types := List.mem_of_find?_eq_some h

/-- Entering one more name never leaves more declarations. -/
theorem length_filter_cons_le (ds : List TypeDecl) (name : String) (path : List String) :
    (ds.filter fun d => d.name ∉ name :: path).length ≤
      (ds.filter fun d => d.name ∉ path).length := by
  induction ds with
  | nil => simp
  | cons d ds ih => simp only [List.filter_cons]; grind

/-- Entering a declared name for the first time leaves fewer declarations. -/
theorem unentered_lt {m : HostModule} {decl : TypeDecl} {path : List String}
    (hd : decl ∈ m.types) (hn : decl.name ∉ path) :
    m.unentered (decl.name :: path) < m.unentered path := by
  unfold unentered
  generalize m.types = ds at hd
  induction ds with
  | nil => simp at hd
  | cons d ds ih =>
    have := length_filter_cons_le ds decl.name path
    simp only [List.filter_cons]
    grind

/-- Whether values of type `t` are errors to the host, where the names in `path` have been passed
    on the way to `t`: the builtin error, or an interface with a method `Error` that takes
    nothing and returns one string.  A chain of names that comes back to one of its names fails
    with that name. -/
def errorLikeFrom (m : HostModule) (path : List String) (t : HostType) : Except String Bool :=
  match t.deref with
  | .error => .ok true
  | .named name =>
    -- The name is judged before it is looked up, so a chain fails at the first name met twice.
    if name ∈ path then .error name
    else match _found : m.lookup name with
      | none => .ok false
      | some decl => m.errorLikeFrom (name :: path) decl.type
  | .interface methods => .ok <| methods.any fun method =>
      method.name == "Error" && method.signature.params.isEmpty &&
        match method.signature.results with
        | [.string] => true
        | _ => false
  | _ => .ok false
termination_by m.unentered path
decreasing_by
  have hn := name_of_lookup _found
  subst hn
  exact unentered_lt (mem_of_lookup _found) ‹_›

/-- Whether values of type `t` are errors to the host; the name that a chain of names comes back
    to, if it has no end. -/
def isErrorLike (m : HostModule) (t : HostType) : Except String Bool := m.errorLikeFrom [] t

end HostModule

end TypeExport
