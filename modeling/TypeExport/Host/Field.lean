import TypeExport.Host.Type
import TypeExport.Text.Cased

/-! # Serialization of Fields

    A tag is a list of segments separated by commas: first the name that replaces the field's own
    (when it is not empty), then options.  The option `omitempty` makes the field optional; the
    name `-` keeps it out of the serialized form, as does a name that does not begin with a
    capital. -/

namespace TypeExport

structure FieldTag where
  /-- The replacement name. -/
  rename : Option String := none
  /-- Whether the field may be left out. -/
  optional : Bool := false
  deriving Repr, DecidableEq

namespace FieldTag

def segments (tag : String) : List String :=
  (tag.toList.splitOnP (· = ',')).map String.ofList

/-- Reads a tag: a name, then options. -/
def parse (tag : String) : FieldTag :=
  match segments tag with
  | [] => {}
  | first :: options => ⟨if first = "" then none else some first, options.contains "omitempty"⟩

end FieldTag

namespace HostField

/-- Whether the field is visible outside its package: its name begins with a capital. -/
def isExported (f : HostField) : Bool :=
  match f.name.toList with
  | [] => false
  | c :: _ => Text.isUppercase c

/-- What the field's tag says; a field without a tag has neither a new name nor options. -/
def parsedTag (f : HostField) : FieldTag := (f.tag.map FieldTag.parse).getD {}

def serializedName (f : HostField) : String :=
  match f.tag.map FieldTag.segments with
  | some (first :: _) => if first = "" then f.name else first
  | _ => f.name

/-- Whether the field is part of the serialized form. -/
def isVisible (f : HostField) : Bool := f.isExported && f.serializedName != "-"

end HostField

end TypeExport
