import TypeExport.Text.Quoted

/-! # Members of an Enumeration

    A member carries its value as literal text, already written for the target language.  Host
    declarations and type graphs share this type: an annotation on a declaration becomes the
    members of an enumeration as it stands. -/

namespace TypeExport

/-- A named member and the literal text of its value. -/
structure EnumMember where
  name : String
  value : String
  deriving Repr, DecidableEq, Inhabited

namespace EnumMember

def string (name text : String) : EnumMember := ⟨name, Text.quote text⟩

def integer (name : String) (i : Int) : EnumMember := ⟨name, toString i⟩

end EnumMember

end TypeExport
