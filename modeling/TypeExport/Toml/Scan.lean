/-! # Scanners

    A scanner takes characters off the front of a text and gives a result, or fails and takes
    nothing.  The pieces of a format are scanners put together; an alternative is tried on the
    same text that the one before it failed on. -/

namespace TypeExport.Toml

/-- Takes characters off a text, unless it fails. -/
abbrev Scan (α : Type) := StateT (List Char) Option α

namespace Scan

/-- Succeeds at the end of the text only. -/
def done : Scan Unit := do guard (← get).isEmpty

/-- Takes one character of a class. -/
def one (p : Char → Bool) : Scan Char := fun
  | c :: rest => if p c then some (c, rest) else none
  | [] => none

/-- Takes one given character. -/
def char (c : Char) : Scan Unit := do let _ ← one (· == c)

/-- Takes a given word. -/
def word (w : String) : Scan Unit := w.toList.forM char

/-- Takes characters of a class as far as they go. -/
def span (p : Char → Bool) : Scan (List Char) := fun cs => some (cs.takeWhile p, cs.dropWhile p)

/-- Takes one character of a class or more. -/
def span1 (p : Char → Bool) : Scan (List Char) := do
  let cs ← span p
  guard !cs.isEmpty
  return cs

/-- Takes exactly `n` characters of a class. -/
def exactly (n : Nat) (p : Char → Bool) : Scan (List Char) := (List.replicate n p).mapM one

/-- Repeats `s` as long as it takes something. -/
def repeated {α : Type} (s : Scan α) (cs : List Char) : List α × List Char :=
  match s cs with
  | none => ([], cs)
  | some (a, rest) =>
    if _shorter : rest.length < cs.length then
      let (as, rest) := repeated s rest
      (a :: as, rest)
    else ([], cs)
termination_by cs.length

/-- Takes what `s` takes, any number of times. -/
def many {α : Type} (s : Scan α) : Scan (List α) := fun cs => some (repeated s cs)

/-- Takes what `s` takes, any number of times, with what `separator` takes in between. -/
def separated {α : Type} (s : Scan α) (separator : Scan Unit) : Scan (List α) := do
  match ← optional s with
  | none => return []
  | some a => return a :: (← many (do separator; s))

end Scan

/-! ## White space, line ends and comments -/

open Scan

/-- Whether `c` is a blank inside a line. -/
def isSpace (c : Char) : Bool := c == ' ' || c == '\t'

/-- Whether `c` may stand in a comment or a string: no control character but the tab. -/
def isPlain (c : Char) : Bool := c == '\t' || (' ' ≤ c && c != '\x7f')

/-- Blanks inside a line. -/
def spaces : Scan Unit := do let _ ← span isSpace

/-- The end of a line. -/
def newline : Scan Unit := char '\n' <|> word "\r\n"

/-- A comment up to the end of its line. -/
def comment : Scan Unit := do
  char '#'
  let _ ← span isPlain

/-- The rest of a line after its last item. -/
def lineEnd : Scan Unit := do
  spaces
  let _ ← optional comment
  newline <|> done

/-- Blanks, line ends and comments, as they may stand between the items of an array. -/
def gap : Scan Unit := do
  let _ ← many ((do let _ ← one isSpace) <|> newline <|> (do comment; newline))

end TypeExport.Toml
