import TypeExport.Toml.Scan

/-! # Strings in TOML

    A basic string stands between double quotes and knows escapes; a literal string stands between
    single quotes and knows none.  Between three quotes either kind may run over several lines; a
    line break right after the opening quotes does not count, every other one is a line feed, and
    one or two quotes in a row stand for themselves. -/

namespace TypeExport.Toml

open Scan

/-! ## Section 1: Escapes -/

/-- The value of a hexadecimal digit. -/
def hexValue (c : Char) : Nat :=
  if c ≤ '9' then c.toNat - '0'.toNat
  else if c ≤ 'F' then c.toNat - 'A'.toNat + 10
  else c.toNat - 'a'.toNat + 10

/-- Whether `c` is a hexadecimal digit. -/
def isHexDigit (c : Char) : Bool :=
  ('0' ≤ c && c ≤ '9') || ('a' ≤ c && c ≤ 'f') || ('A' ≤ c && c ≤ 'F')

/-- A character given by `n` hexadecimal digits. -/
def hexChar (n : Nat) : Scan Char := do
  let code := (← exactly n isHexDigit).foldl (fun v c => 16 * v + hexValue c) 0
  if code.isValidChar then return Char.ofNat code else failure

/-- An escape after its backslash. -/
def escape : Scan Char := do
  match ← one fun _ => true with
  | 'b' => return '\x08'
  | 't' => return '\t'
  | 'n' => return '\n'
  | 'f' => return '\x0c'
  | 'r' => return '\r'
  | '"' => return '"'
  | '\\' => return '\\'
  | 'u' => hexChar 4
  | 'U' => hexChar 8
  | _ => failure

/-! ## Section 2: Strings on one line -/

/-- A character that stands for itself in a basic string. -/
def basicChar : Scan Char := one fun c => isPlain c && c != '"' && c != '\\'

/-- A character that stands for itself in a literal string. -/
def literalChar : Scan Char := one fun c => isPlain c && c != '\''

/-- A basic string on one line. -/
def basic : Scan (List Char) := do
  char '"'
  let cs ← many (basicChar <|> (do char '\\'; escape))
  char '"'
  return cs

/-- A literal string on one line. -/
def literal : Scan (List Char) := do
  char '\''
  let cs ← many literalChar
  char '\''
  return cs

/-! ## Section 3: Strings over several lines -/

/-- A backslash at the end of a line: it takes the line break and all blanks and line breaks that
    follow. -/
def joinedLines : Scan Unit := do
  char '\\'
  spaces
  newline
  let _ ← many ((do let _ ← one isSpace) <|> newline)

/-- One or two quotes that do not end the string. -/
def innerQuotes (quote : Char) : Scan (List Char) := do
  let qs ← span1 (· == quote)
  guard (qs.length ≤ 2)
  return qs

/-- The quotes that end the string, after up to two that belong to it. -/
def closingQuotes (quote : Char) : Scan (List Char) := do
  let qs ← span (· == quote)
  guard (3 ≤ qs.length && qs.length ≤ 5)
  return qs.drop 3

/-- A string over several lines, made of the given pieces. -/
def multiline (quote : Char) (piece : Scan (List Char)) : Scan (List Char) := do
  let _ ← exactly 3 (· == quote)
  let _ ← optional newline
  let pieces ← many (piece <|> (do newline; return ['\n']) <|> innerQuotes quote)
  return pieces.flatten ++ (← closingQuotes quote)

/-- A basic string over several lines. -/
def multilineBasic : Scan (List Char) :=
  multiline '"' ((do return [← basicChar]) <|> (do joinedLines; return []) <|>
    (do char '\\'; return [← escape]))

/-- A literal string over several lines. -/
def multilineLiteral : Scan (List Char) := multiline '\'' (do return [← literalChar])

/-- A string of any kind. -/
def string : Scan String :=
  String.ofList <$> (multilineBasic <|> basic <|> multilineLiteral <|> literal)

end TypeExport.Toml
