import TypeExport.Conformance.Path
import TypeExport.Graph.Node
import TypeExport.Json.Value

/-! # Conformance of Instances

    Checks a JSON value against the declaration of a graph, by the rules that apply to object
    literals: required members are present, no other entries are, and every value has its declared
    shape.  Methods leave no trace in a value.  The first disagreement is reported; entries that are
    not declared come before all members of the same object, and members follow in the order of
    their declaration.

    A name stands for the first node of that name.  Following names costs no part of the value, but
    a name leads to an interface or an enumeration at once, and what comes after that is a part of
    the value; so the check ends on cyclic graphs too. -/

namespace TypeExport

open Json

/-! ## Section 1: Errors -/

/-- A place where an instance disagrees with the graph. -/
inductive ConformanceError where
  /-- The value there is not of the expected shape. -/
  | mismatch (path : String) (expected found : String)
  /-- A required member is not there. -/
  | missing (path : String)
  /-- An entry is there that no member declares. -/
  | unexpected (path : String)
  /-- The graph declares no interface or enumeration of this name. -/
  | unknownType (path : String) (name : String)
  /-- The graph has a node of this kind with the wrong number of parameters. -/
  | malformed (path : String) (kind : String)
  deriving Repr, DecidableEq

def ConformanceError.message : ConformanceError → String
  | .mismatch path expected found => s!"{path}: expected {expected}, found {found}"
  | .missing path => s!"{path}: required member is missing"
  | .unexpected path => s!"{path}: member is not declared"
  | .unknownType path name => s!"{path}: no declaration named {name}"
  | .malformed path kind => s!"{path}: malformed {kind} node"

def Json.Value.kind : Value → String
  | .null => "null"
  | .bool _ => "boolean"
  | .integer _ | .float _ => "number"
  | .string _ => "string"
  | .array _ => "array"
  | .object _ => "object"

namespace Conformance

/-! ## Section 2: Leaves -/

/-- Demands that `ok` holds of the value at `path`. -/
def expect (ok : Bool) (expected : String) (v : Value) (path : String) :
    Except ConformanceError Unit :=
  if ok then .ok () else .error (.mismatch path expected v.kind)

/-- Whether the literal of an enumeration member denotes `v`. -/
def denotes (m : EnumMember) (v : Value) : Bool := Value.parse m.value == some v

def checkEnum (name : String) (members : List EnumMember) (v : Value) (path : String) :
    Except ConformanceError Unit :=
  expect (members.any (denotes · v)) s!"a member of {name}" v path

/-- Whether a property of this name is declared. -/
def declares (members : List Member) (name : String) : Bool :=
  members.any fun m => !m.function && m.name == name

/-- Demands that every entry of an object is declared. -/
def checkKeys (members : List Member) (entries : List (String × Value)) (path : String) :
    Except ConformanceError Unit :=
  match entries.find? fun e => !declares members e.1 with
  | some (key, _) => .error (.unexpected (extendPath path (.member key)))
  | none => .ok ()

theorem sizeOf_lt_of_lookup {name : String} {entries : List (String × Value)} {v : Value}
    (h : Value.lookup name entries = some v) : sizeOf v < sizeOf entries := by
  obtain ⟨e, he, rfl⟩ := Option.map_eq_some_iff.1 h
  have := List.sizeOf_lt_of_mem (List.mem_of_find?_eq_some he)
  obtain ⟨k, v⟩ := e
  simp only [Prod.mk.sizeOf_spec] at this
  simp only
  omega

/-! ## Section 3: The check -/

mutual

/-- Checks a value against a node. -/
def check (graph : List TypeNode) (node : TypeNode) (v : Value) (path : String) :
    Except ConformanceError Unit :=
  match node with
  | .simple "string" => expect (v matches .string _) "string" v path
  | .simple "number" => expect (v matches .integer _ | .float _) "number" v path
  | .simple "boolean" => expect (v matches .bool _) "boolean" v path
  | .simple name =>
    match graph.find? (·.name == name) with
    | some (.interface _ _ members) => checkInterface graph members v path
    | some (.enum name _ members) => checkEnum name members v path
    | _ => .error (.unknownType path name)
  | .void => expect (v matches .null) "void" v path
  -- The arity of a node is judged before the value.
  | .array [elem] =>
    match v with
    | .array items => checkItems graph elem items 0 path
    | _ => .error (.mismatch path "array" v.kind)
  | .array _ => .error (.malformed path "array")
  | .map [_, elem] =>
    match v with
    | .object entries => checkEntries graph elem entries path
    | _ => .error (.mismatch path "map" v.kind)
  | .map _ => .error (.malformed path "map")
  | .interface _ _ members => checkInterface graph members v path
  | .enum name _ members => checkEnum name members v path
termination_by (sizeOf v, 1)

/-- Checks a value against an interface with these members. -/
def checkInterface (graph : List TypeNode) (members : List Member) (v : Value) (path : String) :
    Except ConformanceError Unit :=
  match v with
  | .object entries => do
    -- All keys are judged before any value is.
    checkKeys members entries path
    checkMembers graph (members.filter (!·.function)) entries path
  | _ => .error (.mismatch path "object" v.kind)
termination_by (sizeOf v, 0)

/-- Checks the items of an array, the first of which has position `i`. -/
def checkItems (graph : List TypeNode) (elem : TypeNode) (items : List Value) (i : Nat)
    (path : String) : Except ConformanceError Unit :=
  match items with
  | [] => .ok ()
  | item :: rest => do
    check graph elem item (extendPath path (.index i))
    checkItems graph elem rest (i + 1) path
termination_by (sizeOf items, 0)

/-- Checks the values of a map. -/
def checkEntries (graph : List TypeNode) (elem : TypeNode) (entries : List (String × Value))
    (path : String) : Except ConformanceError Unit :=
  match entries with
  | [] => .ok ()
  | (key, item) :: rest => do
    check graph elem item (extendPath path (.key key))
    checkEntries graph elem rest path
termination_by (sizeOf entries, 0)

/-- Checks the entries of an object against properties. -/
def checkMembers (graph : List TypeNode) (members : List Member) (entries : List (String × Value))
    (path : String) : Except ConformanceError Unit :=
  match members with
  | [] => .ok ()
  | m :: rest =>
    match _found : Value.lookup m.name entries with
    | some item => do
      check graph m.type item (extendPath path (.member m.name))
      checkMembers graph rest entries path
    | none =>
      if m.optional then checkMembers graph rest entries path
      else .error (.missing (extendPath path (.member m.name)))
termination_by (sizeOf entries, members.length)
decreasing_by
  · apply Prod.Lex.left
    exact sizeOf_lt_of_lookup _found
  · apply Prod.Lex.right
    simp
  · apply Prod.Lex.right
    simp

end

end Conformance

/-- Checks a value against the declaration of `graph` that `root` names. -/
def checkInstance (graph : List TypeNode) (root : String) (v : Value) :
    Except ConformanceError Unit :=
  Conformance.check graph (.simple root) v root

end TypeExport
