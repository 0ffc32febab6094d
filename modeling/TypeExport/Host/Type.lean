import TypeExport.Graph.EnumMember

/-! # Host Types

    The types of the host language, as descriptors spell them out.  Nothing here is inspected at
    run time: a declaration is a name with a shape, and a shape refers to other declarations by
    name.  A struct or an interface is anonymous unless it is the shape of a declaration. -/

namespace TypeExport

mutual

inductive HostType where
  | bool
  | int (bits : Nat) (unsigned : Bool)
  | float (bits : Nat)
  | complex (bits : Nat)
  | string
  /-- A growable sequence. -/
  | slice (elem : HostType)
  /-- A sequence of fixed length. -/
  | array (len : Nat) (elem : HostType)
  | map (key value : HostType)
  /-- One level of indirection. -/
  | pointer (elem : HostType)
  | struct (fields : List HostField)
  | interface (methods : List HostMethod)
  /-- The builtin error capability. -/
  | error
  | chan (elem : HostType)
  | func (signature : Signature)
  /-- A reference to a declaration. -/
  | named (name : String)
  deriving Repr, BEq

structure HostField where
  name : String
  type : HostType
  /-- How the field is serialized: a new name and options, separated by commas. -/
  tag : Option String
  deriving Repr, BEq

/-- A parameter of a method or function, whose name a descriptor may not know. -/
structure HostParam where
  name : Option String
  type : HostType
  deriving Repr, BEq

structure Signature where
  params : List HostParam
  results : List HostType
  variadic : Bool
  deriving Repr, BEq

structure HostMethod where
  name : String
  signature : Signature
  docs : Option String
  deriving Repr, BEq

end

instance : Inhabited HostType := ⟨.bool⟩

structure TypeDecl where
  name : String
  type : HostType
  docs : Option String
  /-- The members, if the declaration is annotated as an enumeration. -/
  enum : Option (List EnumMember)
  deriving Repr, BEq, Inhabited

namespace HostType

/-- The integer type of the usual width. -/
def word : HostType := .int 64 false

/-- The floating-point type of the usual width. -/
def double : HostType := .float 64

/-- The label of the kind of a type, used in messages and on the wire. -/
def kind : HostType → String
  | .bool => "bool"
  | .int .. => "int"
  | .float _ => "float"
  | .complex _ => "complex"
  | .string => "string"
  | .slice _ => "slice"
  | .array .. => "array"
  | .map .. => "map"
  | .pointer _ => "pointer"
  | .struct _ => "struct"
  | .interface _ => "interface"
  | .error => "error"
  | .chan _ => "chan"
  | .func _ => "func"
  | .named _ => "named"

/-- The type behind all leading pointers. -/
def deref : HostType → HostType
  | .pointer elem => elem.deref
  | t => t

end HostType

/-- A method whose parameter names are not known. -/
def HostMethod.ofTypes (name : String) (params results : List HostType) : HostMethod :=
  ⟨name, ⟨params.map (⟨none, ·⟩), results, false⟩, none⟩

end TypeExport
