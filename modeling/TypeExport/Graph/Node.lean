import TypeExport.Graph.EnumMember

/-! # Type Graphs

    A type graph is a list of nodes, one per declaration of the target language.  Nodes refer to
    each other by name, so a graph may be cyclic while every node is a finite tree.

    The type of nodes admits more than a walk over declarations produces, because graphs are also
    read from files: an array or a map carries a list of parameters of any length, and a node of
    any kind may stand anywhere. -/

namespace TypeExport

mutual

inductive TypeNode where
  /-- A primitive of the target language, or the name of a declaration. -/
  | simple (name : String)
  /-- An array; well formed with one parameter. -/
  | array (params : List TypeNode)
  /-- A map; well formed with the parameters key and value. -/
  | map (params : List TypeNode)
  /-- An interface; with an empty name it stands inline. -/
  | interface (name : String) (comment : Option String) (members : List Member)
  | enum (name : String) (comment : Option String) (members : List EnumMember)
  /-- No type at all: what a method without a result returns. -/
  | void
  deriving Repr, BEq

/-- A property or a method of an interface. -/
structure Member where
  name : String
  /-- The type of a property, or what a method returns. -/
  type : TypeNode
  optional : Bool
  /-- Whether the member is a method. -/
  function : Bool
  comment : Option String
  /-- The parameters of a method. -/
  args : List Arg
  deriving Repr, BEq

structure Arg where
  name : String
  type : TypeNode
  deriving Repr, BEq

end

instance : Inhabited TypeNode := ⟨.void⟩

namespace TypeNode

def string : TypeNode := .simple "string"

/-- The primitive for numbers of every width. -/
def number : TypeNode := .simple "number"

def boolean : TypeNode := .simple "boolean"

/-- The name a node declares or refers to; empty for nodes without one. -/
def name : TypeNode → String
  | .simple name => name
  | .interface name .. => name
  | .enum name .. => name
  | .array _ | .map _ | .void => ""

/-- The label of the kind of a node, used in messages and on the wire. -/
def kind : TypeNode → String
  | .simple _ => "simple"
  | .array _ => "array"
  | .map _ => "map"
  | .interface .. => "interface"
  | .enum .. => "enum"
  | .void => "void"

/-- Whether the node is no type at all. -/
def isVoid : TypeNode → Bool
  | .void => true
  | _ => false

/-- The declaration with a comment; other nodes have none and stay as they are. -/
def withComment (text : String) : TypeNode → TypeNode
  | .interface name _ members => .interface name (some text) members
  | .enum name _ members => .enum name (some text) members
  | node => node

end TypeNode

namespace Member

def property (name : String) (type : TypeNode) : Member := ⟨name, type, false, false, none, []⟩

def method (name : String) (returns : TypeNode) (args : List Arg) : Member :=
  ⟨name, returns, false, true, none, args⟩

end Member

end TypeExport
