import TypeExport.Text.Alphanumeric
import TypeExport.Text.Quoted

/-! # Names of Members

    A member name stands bare if it looks like an identifier: it begins with a letter, an underscore
    or a dollar sign, and goes on with those and with numerals.  Any other name is written as a
    string literal. -/

namespace TypeExport

open Text

/-- Whether a bare name may begin with `c`. -/
def beginsName (c : Char) : Bool := isAlphabetic c || c == '_' || c == '$'

/-- Whether a bare name may go on with `c`. -/
def continuesName (c : Char) : Bool := isAlphanumeric c || c == '_' || c == '$'

def isBareName (name : String) : Bool :=
  match name.toList with
  | [] => false
  | c :: rest => beginsName c && rest.all continuesName

def memberName (name : String) : String := if isBareName name then name else quote name

end TypeExport
