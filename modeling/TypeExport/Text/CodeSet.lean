/-! # Sets of Code Points

    A property of characters is a table of ascending runs of code points.  Each run carries the
    distance between its members: 1 for an unbroken run, 2 where capital and small letters
    alternate.  Runs never overlap, so a look-up stops at the first run that ends at or after the
    code point asked for; a small code point costs few comparisons, also when a proof evaluates
    the look-up. -/

namespace TypeExport.Text

/-- The code points `first, first + step, …, last`. -/
structure Run where
  first : Nat
  last : Nat
  step : Nat
  deriving Repr, DecidableEq

def Run.holds (r : Run) (n : Nat) : Bool :=
  r.first ≤ n && n ≤ r.last && (n - r.first) % r.step == 0

/-- Ascending runs. -/
abbrev CodeSet := List Run

def CodeSet.contains : CodeSet → Nat → Bool
  | [], _ => false
  | r :: rest, n => if n ≤ r.last then r.holds n else CodeSet.contains rest n

/-- The unbroken runs given by their ends. -/
def CodeSet.ofEnds (ends : List (Nat × Nat)) : CodeSet :=
  ends.map fun (first, last) => ⟨first, last, 1⟩

end TypeExport.Text
