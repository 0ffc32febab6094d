import TypeExport.Text.Printable

/-! # Keys in a Path

    A map key inside a path stands between double quotes.  Line breaks, tabs, the null character,
    the quote and the backslash are shown by a letter; a character that would not be seen on its own
    is shown by its code point in hexadecimal. -/

namespace TypeExport.Text

/-- A character shown by its code point, in small hexadecimal digits without padding. -/
def showCode (c : Char) : List Char :=
  '\\' :: 'u' :: '\x7b' :: Nat.toDigits 16 c.toNat ++ ['\x7d']

/-- One character of a shown key. -/
def showChar (c : Char) : List Char :=
  match c with
  | '\x00' => ['\\', '0']
  | '\t' => ['\\', 't']
  | '\r' => ['\\', 'r']
  | '\n' => ['\\', 'n']
  | '"' => ['\\', '"']
  | '\\' => ['\\', '\\']
  | c => if isCombining c || !isPrintable c then showCode c else [c]

/-- The key as a path shows it. -/
def showKey (key : String) : String :=
  String.ofList ('"' :: key.toList.flatMap showChar ++ ['"'])

end TypeExport.Text
