import TypeExport.Tree

/-! # Numbers in JSON Text

    An integer that fits into a word is kept exactly: up to 2^64 - 1 without a sign, down to -2^63
    with one.  Every other number becomes a double, and so does negative zero.

    A double is computed from the longest leading part of the digits that fits into a word, as an
    integer, and from the power of ten that is left; one multiplication or division by a power of
    ten brings the two together.  The result may differ from the nearest double in its last digit.
    A number beyond the range of doubles denotes nothing. -/

namespace TypeExport.Json

/-- The parts of a number as written, all digits. -/
structure Numeral where
  negative : Bool
  whole : List Nat
  /-- The digits after the point; empty if there is no point. -/
  fraction : List Nat
  /-- The sign and the digits of the power of ten. -/
  exponent : Option (Bool × List Nat)
  deriving Repr, DecidableEq

/-- The value of digits in base ten. -/
def ofDigits (ds : List Nat) : Nat := ds.foldl (fun n d => 10 * n + d) 0

/-- Appends digits to `n` as long as the result stays below 2^64; returns it with the number of
    digits left over. -/
def fillWord (n : Nat) : List Nat → Nat × Nat
  | [] => (n, 0)
  | d :: ds => if 10 * n + d < Tree.wordValues then fillWord (10 * n + d) ds else (n, ds.length + 1)

/-- The double nearest to a power of ten, up to the largest one, 10^308. -/
def powerOfTen (n : Nat) : Float := Float.ofScientific 1 false n

/-- The quotient of a word `f` by 10^n, in steps that stay within the range of doubles.  Two steps
    are enough: dividing twice by the largest power brings every word to zero. -/
def divideByPower (f : Float) (n : Nat) : Float :=
  if n ≤ 308 then f / powerOfTen n
  else f / powerOfTen 308 / powerOfTen (min (n - 308) 308)

/-- The product of a word `f` and 10^e, unless it is beyond the range of doubles. -/
def scale (f : Float) (e : Int) : Option Float :=
  if e < 0 then some (divideByPower f e.natAbs)
  else if e ≤ 308 then
    let g := f * powerOfTen e.natAbs
    if g.isInf then none else some g
  else if f == 0 then some f
  else none

/-- The bits of a double; both zeros are equal numbers and get the same bits. -/
def bitsOf (f : Float) : UInt64 := if f == 0 then 0 else f.toBits

namespace Numeral

def toDouble (n : Numeral) : Option Float := do
  -- The fraction goes on filling the word even if a whole digit did not fit any more.
  let (word, dropped) := fillWord 0 n.whole
  let (word, unused) := fillWord word n.fraction
  let power := match n.exponent with
    | none => (0 : Int)
    | some (negative, digits) => if negative then -(ofDigits digits : Int) else ofDigits digits
  let f ← scale (UInt64.ofNat word).toFloat (dropped - (n.fraction.length - unused : Nat) + power)
  return if n.negative then -f else f

def toFloatTree (n : Numeral) : Tree :=
  match n.toDouble with
  | some f => .float (bitsOf f)
  | none => .unreadable

/-- The number that the numeral denotes. -/
def toTree (n : Numeral) : Tree :=
  if n.fraction.isEmpty && n.exponent.isNone then
    let i := ofDigits n.whole
    -- Negative zero is no integer: it would lose its sign.
    if !n.negative && i < Tree.wordValues then .natural i
    else if n.negative && 0 < i && i ≤ Tree.negativeValues then .integer (-(i : Int))
    else n.toFloatTree
  else n.toFloatTree

end Numeral

end TypeExport.Json
