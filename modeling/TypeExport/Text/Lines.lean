import TypeExport.Text.Blank

/-! # Lines of a Text

    A line ends at a line feed; one carriage return right before the line feed belongs to the
    line's end.  The end of the text ends the last line, and an empty remainder after the last
    line feed is no line.

    `collapseBlankLines` is the clean-up that every rendered text goes through: no white space at
    the end of a line, single blank lines between blocks, and none at either end. -/

namespace TypeExport.Text

/-- The lines of a text, without their ends. -/
def lines : List Char → List (List Char)
  | [] => []
  | '\r' :: '\n' :: rest => [] :: lines rest
  | c :: rest =>
    if c = '\n' then [] :: lines rest
    else match lines rest with
      | [] => [[c]]
      | line :: more => (c :: line) :: more

def isBlankLine (line : List Char) : Bool := line.all isBlank

/-- Writes the lines that follow one already written; `gap` tells that a blank line has been
    passed since then. -/
def writeLines (gap : Bool) : List (List Char) → List Char
  | [] => []
  | line :: more =>
    if isBlankLine line then writeLines true more
    else (if gap then ['\n'] else []) ++ trimEnd line ++ '\n' :: writeLines false more

/-- Collapses every run of blank lines into one, drops those at the two ends, and ends every line
    that is left with a line feed. -/
def collapseBlankLines (text : String) : String :=
  String.ofList (writeLines false ((lines text.toList).dropWhile isBlankLine))

end TypeExport.Text
