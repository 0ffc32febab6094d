import TypeExport.Text.CodeSet

/-! # White Space

    The characters with the standard's White_Space property, and what it means to cut them off
    the ends of a text. -/

namespace TypeExport.Text

/-- The code points with the White_Space property. -/
def blankCodes : CodeSet := .ofEnds [
  (0x9, 0xd), (0x20, 0x20), (0x85, 0x85), (0xa0, 0xa0),
  (0x1680, 0x1680), (0x2000, 0x200a), (0x2028, 0x2029), (0x202f, 0x202f),
  (0x205f, 0x205f), (0x3000, 0x3000)]

def isBlank (c : Char) : Bool := blankCodes.contains c.toNat

/-- A text without the white space at its end. -/
def trimEnd (cs : List Char) : List Char := (cs.reverse.dropWhile isBlank).reverse

def trim (cs : List Char) : List Char := trimEnd (cs.dropWhile isBlank)

end TypeExport.Text
