import TypeExport.Host.Type
import TypeExport.Text.Blank
import TypeExport.Upsert

/-! # Enumeration and Documentation Providers

    Which declarations are enumerations, and what their documentation says, is not part of a
    shape.  A provider answers such questions about a declaration; the annotations that the
    declaration itself carries are one source, a table filled by the caller is another. -/

namespace TypeExport

/-- Why a provider has no members for a declaration. -/
inductive ProviderError where
  | notFound (name : String)
  | other (text : String)
  deriving Repr, DecidableEq

def ProviderError.message : ProviderError → String
  | .notFound name => s!"no enumeration named {name}"
  | .other text => text

/-- Tells enumerations apart and lists their members. -/
structure EnumProvider where
  /-- Whether the declaration is an enumeration. -/
  isEnum : TypeDecl → Bool
  /-- The members of an enumeration, in order. -/
  members : TypeDecl → Except ProviderError (List EnumMember)

/-- Supplies documentation; an empty text means that there is none. -/
structure DocProvider where
  forType : TypeDecl → String
  /-- Documentation of a method of an interface. -/
  forMethod : TypeDecl → HostMethod → String

/-- Members that may be missing, as an answer about the declaration `name`. -/
def membersOr (name : String) : Option (List EnumMember) → Except ProviderError (List EnumMember)
  | some members => .ok members
  | none => .error (.notFound name)

/-- Takes the annotations of the declarations.  An annotation without members still makes an
    enumeration. -/
def EnumProvider.declared : EnumProvider where
  isEnum decl := decl.enum.isSome
  members decl := membersOr decl.name decl.enum

namespace DocProvider

def none : DocProvider := ⟨fun _ => "", fun _ _ => ""⟩

/-- A documentation text without the white space around it. -/
def trimmed (docs : Option String) : String := String.ofList (Text.trim (docs.getD "").toList)

/-- Takes the documentation that declarations and methods carry. -/
def declared : DocProvider := ⟨fun decl => trimmed decl.docs, fun _ method => trimmed method.docs⟩

end DocProvider

/-- Enumerations by the name of their declaration, in the order in which the names came. -/
structure EnumTable where
  entries : List (String × List EnumMember) := []
  deriving Repr, Inhabited

namespace EnumTable

/-- Registers an enumeration, or replaces the one of that name. -/
def insert (table : EnumTable) (name : String) (members : List EnumMember) : EnumTable :=
  ⟨upsert Prod.fst (name, members) table.entries⟩

/-- The table filled with `entries` one after the other. -/
def ofList (entries : List (String × List EnumMember)) : EnumTable :=
  entries.foldl (fun table e => table.insert e.1 e.2) {}

def get? (table : EnumTable) (name : String) : Option (List EnumMember) :=
  (table.entries.find? (·.1 == name)).map (·.2)

/-- The last members entered for a name are the ones it has. -/
theorem get?_insert (table : EnumTable) (name key : String) (members : List EnumMember) :
    (table.insert name members).get? key = if name = key then some members else table.get? key := by
  rw [get?, insert, find?_upsert]
  split <;> rfl

def size (table : EnumTable) : Nat := table.entries.length

def isEmpty (table : EnumTable) : Bool := table.entries.isEmpty

/-- Takes the enumerations that a table lists under the names of the declarations. -/
def provider (table : EnumTable) : EnumProvider where
  isEnum decl := (table.get? decl.name).isSome
  members decl := membersOr decl.name (table.get? decl.name)

end EnumTable

end TypeExport
