import TypeExport.Text.Alphanumeric
import TypeExport.Text.Cased
import TypeExport.Text.CaseMapping

/-! # Casing of Names

    A name is split into words and the words are joined again in the style asked for.

    Characters that are neither letters nor numerals separate pieces and are dropped.  Inside a
    piece a new word starts in two places: before a capital that follows small letters, and before
    the last capital of a run of capitals when a small letter follows it, so that an abbreviation
    keeps its capitals together.  Numerals and letters without case continue the word they stand
    in. -/

namespace TypeExport

open Text

/-- The casings a name may be given. -/
inductive CaseStyle where
  /-- Every word capitalized. -/
  | upperCamel
  /-- Every word but the first capitalized. -/
  | lowerCamel
  /-- Small letters, with an underscore between words. -/
  | snake
  /-- The name as it stands. -/
  | preserve
  deriving Repr, DecidableEq, Inhabited

namespace CaseStyle

/-! ## Section 1: Words -/

/-- What the characters of the current word have shown so far. -/
inductive Mode where
  /-- Nothing yet: no cased character. -/
  | fresh
  | lower
  | upper
  deriving Repr, DecidableEq

/-- The mode after `c`, as long as no word ends there. -/
def Mode.next (mode : Mode) (c : Char) : Mode :=
  if isLowercase c then .lower else if isUppercase c then .upper else mode

/-- The words of a piece.  `word` holds the current word, last character first. -/
def wordsOfPiece (mode : Mode) (word : List Char) : List Char → List (List Char)
  | [] => []
  | [c] => [(c :: word).reverse]
  | c :: d :: rest =>
    -- A capital after small letters begins a word.
    if mode.next c = .lower ∧ isUppercase d then
      (c :: word).reverse :: wordsOfPiece .fresh [] (d :: rest)
    -- So does the last capital of a run, when a small letter follows.
    else if mode = .upper ∧ isUppercase c ∧ isLowercase d then
      word.reverse :: wordsOfPiece .fresh [c] (d :: rest)
    else
      wordsOfPiece (mode.next c) (c :: word) (d :: rest)

/-- The maximal runs of letters and numerals, with empty runs between neighbouring separators. -/
def pieces (name : List Char) : List (List Char) := name.splitOnP (!isAlphanumeric ·)

def words (name : List Char) : List (List Char) := (pieces name).flatMap (wordsOfPiece .fresh [])

/-! ## Section 2: Casing words -/

/-- A word in small letters.  A capital sigma that ends the word takes its final form. -/
def lowerWord : List Char → List Char
  | [] => []
  | ['Σ'] => ['ς']
  | c :: rest => toLower c ++ lowerWord rest

/-- A word with its first character in upper case and the others in lower case. -/
def capitalize : List Char → List Char
  | [] => []
  | c :: rest => toUpper c ++ lowerWord rest

def apply : CaseStyle → String → String
  | .upperCamel, name => String.ofList ((words name.toList).flatMap capitalize)
  | .lowerCamel, name =>
    match words name.toList with
    | [] => ""
    | first :: more => String.ofList (lowerWord first ++ more.flatMap capitalize)
  | .snake, name => String.ofList (['_'].intercalate ((words name.toList).map lowerWord))
  | .preserve, name => name

/-! ## Section 3: Names of the styles -/

/-- The word by which settings name a style. -/
def label : CaseStyle → String
  | .upperCamel => "upper-camel"
  | .lowerCamel => "lower-camel"
  | .snake => "snake"
  | .preserve => "preserve"

def all : List CaseStyle := [.upperCamel, .lowerCamel, .snake, .preserve]

def ofLabel? (name : String) : Option CaseStyle := all.find? (·.label == name)

end CaseStyle

end TypeExport
