/-! # String Literals

    A string literal stands between double quotes.  A backslash introduces the five characters
    that may not stand for themselves: the backslash, the quote, the line feed, the carriage return
    and the tab.  Every other character stands for itself. -/

namespace TypeExport.Text

/-- The text of one character inside a literal. -/
def escapeChar : Char → List Char
  | '\\' => ['\\', '\\']
  | '"' => ['\\', '"']
  | '\n' => ['\\', 'n']
  | '\r' => ['\\', 'r']
  | '\t' => ['\\', 't']
  | c => [c]

/-- The literal that denotes `s`. -/
def quote (s : String) : String :=
  String.ofList ('"' :: s.toList.flatMap escapeChar ++ ['"'])

end TypeExport.Text
