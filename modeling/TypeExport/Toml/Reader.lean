import TypeExport.Toml.Scalar
import TypeExport.Toml.Table
import TypeExport.Toml.Text

/-! # Reading TOML Text

    A document is a sequence of lines: settings of a key to a value, headers that open a table,
    blank lines and comments.  A setting belongs to the table of the header before it.

    Arrays and inline tables stand inside at most 79 levels of each other, and a key has fewer
    than 80 parts. -/

namespace TypeExport.Toml

open Scan

/-! ## Section 1: Keys -/

/-- How deep arrays and inline tables may be nested, and how many parts a key may have. -/
def nestingLimit : Nat := 79

/-- Whether `c` may stand in a key without quotes. -/
def isKeyChar (c : Char) : Bool :=
  isDigit c || ('a' ≤ c && c ≤ 'z') || ('A' ≤ c && c ≤ 'Z') || c == '_' || c == '-'

/-- One part of a key. -/
def keyPart : Scan String := do
  spaces
  let cs ← basic <|> literal <|> span1 isKeyChar
  spaces
  return String.ofList cs

/-- A key with one part or more. -/
def key : Scan (List String) := do
  let first ← keyPart
  let rest ← many (do char '.'; keyPart)
  guard (rest.length < nestingLimit)
  return first :: rest

/-! ## Section 2: Values -/

/-- A key, the sign after it, and a value. -/
def setting (value : Scan Tree) : Scan (List String × Tree) := do
  let k ← key
  char '='
  spaces
  return (k, ← value)

/-- An array of values. -/
def array (value : Scan Tree) : Scan Tree := do
  char '['
  let items ← separated (do gap; let v ← value; gap; return v) (char ',')
  -- A comma may follow the last item, but cannot stand alone.
  unless items.isEmpty do
    let _ ← optional (char ',')
  gap
  char ']'
  return .list items

/-- A table on one line. -/
def inlineTable (value : Scan Tree) : Scan Tree := do
  char '\x7b'
  let settings ← separated (do let s ← setting value; spaces; return s) (char ',')
  spaces
  char '\x7d'
  match settings.foldlM (fun t s => t.assign s.1 s.2) (Table.empty .header) with
  | some t => return t.toTree
  | none => failure

/-- A value without values inside. -/
def scalar : Scan Tree :=
  (Tree.text <$> string) <|> dateTime <|> decimal <|> integer <|> special <|>
    (do word "true"; return .bool true) <|> (do word "false"; return .bool false)

/-- A value with at most `depth` levels of arrays and inline tables. -/
def value : (depth : Nat) → Scan Tree
  | 0 => scalar
  | depth + 1 => scalar <|> array (value depth) <|> inlineTable (value depth)

/-! ## Section 3: Lines -/

/-- What a line says. -/
inductive Statement where
  | nothing
  | setting (key : List String) (v : Tree)
  | header (path : List String)
  /-- The header of a new element of an array of tables. -/
  | elementHeader (path : List String)

/-- One line, from its first character that is not blank. -/
def statement : Scan Statement := do
  let s ← (do comment; newline <|> done; return .nothing)
    <|> (do newline; return .nothing)
    <|> (do word "[["; let path ← key; word "]]"; lineEnd; return .elementHeader path)
    <|> (do char '['; let path ← key; char ']'; lineEnd; return .header path)
    <|> (do let (k, v) ← setting (value nestingLimit); lineEnd; return .setting k v)
  spaces
  return s

/-- All lines of a document, after a byte order mark if there is one. -/
def document : Scan (List Statement) := do
  let _ ← optional (char '\ufeff')
  spaces
  let statements ← many statement
  done
  return statements

/-! ## Section 4: Documents -/

/-- The tables filled so far, and the path of the header before the current line. -/
structure Filling where
  root : Table := .empty .header
  current : List String := []

/-- Carries out one line. -/
def Filling.step (f : Filling) : Statement → Option Filling
  | .nothing => some f
  | .setting k v => do return { f with root := ← f.root.modify false (·.assign k v) f.current }
  | .header path => do return ⟨← f.root.openTable path, path⟩
  | .elementHeader path => do return ⟨← f.root.openElement path, path⟩

/-- The data that a document says, if it is well formed. -/
def read (text : String) : Option Tree := do
  let (statements, _) ← document.run text.toList
  let filled ← statements.foldlM Filling.step {}
  return filled.root.toTree

end TypeExport.Toml
