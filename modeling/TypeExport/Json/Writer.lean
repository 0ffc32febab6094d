import TypeExport.Tree

/-! # Writing JSON Text

    Data is written on one line, or with one item or entry per line and two spaces of indentation
    per level.  Records keep the order of their entries.  In strings, the quote, the backslash and
    the control characters are escaped, the common ones by a letter; every other character stands
    for itself. -/

namespace TypeExport.Json

/-! ## Section 1: Strings -/

/-- One character of a string. -/
def writeChar (c : Char) : List Char :=
  match c with
  | '"' => ['\\', '"']
  | '\\' => ['\\', '\\']
  | '\x08' => ['\\', 'b']
  | '\x0c' => ['\\', 'f']
  | '\n' => ['\\', 'n']
  | '\r' => ['\\', 'r']
  | '\t' => ['\\', 't']
  | c =>
    if c.toNat < 0x20 then
      ['\\', 'u', '0', '0', Nat.digitChar (c.toNat / 16), Nat.digitChar (c.toNat % 16)]
    else [c]

/-- A string between its quotes. -/
def writeText (s : String) : String :=
  String.ofList ('"' :: s.toList.flatMap writeChar ++ ['"'])

/-! ## Section 2: Numbers -/

/-- The exact decimal value of a double with the given bits; what is not finite has no text in this
    format and becomes a null. -/
def writeFloat (bits : UInt64) : String :=
  let exponent := (bits.toNat >>> 52) % 2048
  let fraction := bits.toNat % 0x10000000000000
  let sign := if bits.toNat < Tree.negativeValues then "" else "-"
  if exponent = 2047 then "null"
  else
    let (m, e) :=
      if exponent = 0 then (fraction, 1074) else (0x10000000000000 + fraction, 1075 - exponent)
    if exponent ≤ 1075 then sign ++ toString (m * Nat.pow 5 e) ++ "e-" ++ toString e
    else sign ++ toString (m <<< (exponent - 1075)) ++ ".0"

/-! ## Section 3: Data -/

/-- How much white space is written. -/
inductive Layout where
  | compact
  /-- One line per item, at the given level. -/
  | lines (level : Nat)

namespace Layout

def deeper : Layout → Layout
  | .compact => .compact
  | .lines level => .lines (level + 1)

/-- The white space before an item or a closing bracket. -/
def lineBreak : Layout → String
  | .compact => ""
  | .lines level => "\n" ++ String.ofList (List.replicate (2 * level) ' ')

/-- What stands between a key and its value. -/
def keyMark : Layout → String
  | .compact => ":"
  | .lines _ => ": "

/-- Written items between brackets; an empty container takes no line breaks. -/
def enclose (layout : Layout) (left right : String) (items : List String) : String :=
  if items.isEmpty then left ++ right
  else
    left ++ ",".intercalate (items.map (layout.deeper.lineBreak ++ ·)) ++ layout.lineBreak ++ right

end Layout

mutual

/-- The text of a piece of data. -/
def write (layout : Layout) : Tree → String
  | .null | .unreadable => "null"
  | .bool b => if b then "true" else "false"
  | .natural n => toString n
  | .integer i => toString i
  | .float bits => writeFloat bits
  | .text s => writeText s
  | .list items => layout.enclose "[" "]" (writeItems layout.deeper items)
  | .record entries => layout.enclose "\x7b" "\x7d" (writeEntries layout.deeper entries)

def writeItems (layout : Layout) : List Tree → List String
  | [] => []
  | t :: rest => write layout t :: writeItems layout rest

def writeEntries (layout : Layout) : List (String × Tree) → List String
  | [] => []
  | (key, t) :: rest =>
    (writeText key ++ layout.keyMark ++ write layout t) :: writeEntries layout rest

end

def compact (t : Tree) : String := write .compact t

def pretty (t : Tree) : String := write (.lines 0) t

end TypeExport.Json
