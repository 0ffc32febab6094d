import TypeExport.Json.Number

/-! # Tokens of JSON Text

    JSON text is a sequence of tokens with blanks, tabs and line breaks between them.  Strings are
    read with their escapes; an escape names one UTF-16 unit, so a character outside the basic plane
    takes two.  A string with half of such a pair is well formed but denotes nothing. -/

namespace TypeExport.Json

inductive Token where
  | openList
  | closeList
  | openRecord
  | closeRecord
  | comma
  | colon
  /-- A truth value, a number or nothing at all. -/
  | scalar (value : Tree)
  /-- A string; nothing if half of a surrogate pair stands alone in it. -/
  | text (value : Option String)
  deriving Repr

/-! ## Section 1: Strings -/

/-- The value of a hexadecimal digit. -/
def hexDigit? (c : Char) : Option Nat :=
  if '0' ≤ c ∧ c ≤ '9' then some (c.toNat - '0'.toNat)
  else if 'a' ≤ c ∧ c ≤ 'f' then some (c.toNat - 'a'.toNat + 10)
  else if 'A' ≤ c ∧ c ≤ 'F' then some (c.toNat - 'A'.toNat + 10)
  else none

/-- The value of four hexadecimal digits. -/
def hexUnit? (a b c d : Char) : Option Nat := do
  return (((← hexDigit? a) * 16 + (← hexDigit? b)) * 16 + (← hexDigit? c)) * 16 + (← hexDigit? d)

/-- The character that a one-letter escape stands for. -/
def escaped? : Char → Option Char
  | '"' => some '"'
  | '\\' => some '\\'
  | '/' => some '/'
  | 'b' => some '\x08'
  | 'f' => some '\x0c'
  | 'n' => some '\n'
  | 'r' => some '\r'
  | 't' => some '\t'
  | _ => none

/-- Reads a string after its opening quote: its units, and what follows the closing quote.  A
    character that stands for itself gives one unit whatever its code point. -/
def stringUnits : List Char → Option (List Nat × List Char)
  | [] => none
  | '"' :: rest => some ([], rest)
  | '\\' :: 'u' :: a :: b :: c :: d :: rest => do
    let unit ← hexUnit? a b c d
    let (units, rest) ← stringUnits rest
    return (unit :: units, rest)
  | '\\' :: e :: rest => do
    let c ← escaped? e
    let (units, rest) ← stringUnits rest
    return (c.toNat :: units, rest)
  | c :: rest =>
    if c.toNat < 0x20 ∨ c = '\\' then none
    else do
      let (units, rest) ← stringUnits rest
      return (c.toNat :: units, rest)

/-- The characters that units denote. -/
def ofUnits : List Nat → Option (List Char)
  | [] => some []
  | u :: rest =>
    if 0xd800 ≤ u ∧ u < 0xdc00 then
      match rest with
      | [] => none
      | v :: rest =>
        if 0xdc00 ≤ v ∧ v < 0xe000 then
          (Char.ofNat (0x10000 + (u - 0xd800) * 0x400 + (v - 0xdc00)) :: ·) <$> ofUnits rest
        else none
    else if 0xdc00 ≤ u ∧ u < 0xe000 then none
    else (Char.ofNat u :: ·) <$> ofUnits rest

/-! ## Section 2: Numbers -/

def isDigit (c : Char) : Bool := '0' ≤ c && c ≤ '9'

def digitValue (c : Char) : Nat := c.toNat - '0'.toNat

/-- Reads digits as far as they go. -/
def digits (cs : List Char) : List Nat × List Char :=
  ((cs.takeWhile isDigit).map digitValue, cs.dropWhile isDigit)

/-- Reads one digit or more. -/
def digits1 (cs : List Char) : Option (List Nat × List Char) :=
  match digits cs with
  | ([], _) => none
  | ds => some ds

/-- Reads the digits before the point.  After a leading zero no other digit belongs to them. -/
def wholePart : List Char → Option (List Nat × List Char)
  | '0' :: rest => some ([0], rest)
  | cs => digits1 cs

/-- Reads the point and the digits after it, if there is a point. -/
def fractionPart : List Char → Option (List Nat × List Char)
  | '.' :: rest => digits1 rest
  | cs => some ([], cs)

def exponentSign : List Char → Bool × List Char
  | '-' :: rest => (true, rest)
  | '+' :: rest => (false, rest)
  | cs => (false, cs)

def exponentPart : List Char → Option (Option (Bool × List Nat) × List Char)
  | [] => some (none, [])
  | c :: rest =>
    if c = 'e' ∨ c = 'E' then do
      let (ds, rest') ← digits1 (exponentSign rest).2
      return (some ((exponentSign rest).1, ds), rest')
    else some (none, c :: rest)

/-- Reads a number without its sign. -/
def unsignedNumeral (negative : Bool) (cs : List Char) : Option (Numeral × List Char) := do
  let (whole, cs) ← wholePart cs
  let (fraction, cs) ← fractionPart cs
  let (exponent, cs) ← exponentPart cs
  return (⟨negative, whole, fraction, exponent⟩, cs)

def numeral : List Char → Option (Numeral × List Char)
  | '-' :: rest => unsignedNumeral true rest
  | cs => unsignedNumeral false cs

/-! ## Section 3: Tokens -/

/-- What follows `word`, if the text begins with it. -/
def afterWord (word : String) (cs : List Char) : Option (List Char) :=
  if word.toList.isPrefixOf cs then some (cs.drop word.length) else none

/-- Whether `c` may stand between tokens. -/
def isSeparator (c : Char) : Bool := c == ' ' || c == '\n' || c == '\t' || c == '\r'

def token (cs : List Char) : Option (Token × List Char) :=
  match cs with
  | '[' :: rest => some (.openList, rest)
  | ']' :: rest => some (.closeList, rest)
  | '\x7b' :: rest => some (.openRecord, rest)
  | '\x7d' :: rest => some (.closeRecord, rest)
  | ',' :: rest => some (.comma, rest)
  | ':' :: rest => some (.colon, rest)
  | '"' :: rest => (stringUnits rest).map fun (units, rest) =>
      (.text ((ofUnits units).map String.ofList), rest)
  | 'n' :: _ => (afterWord "null" cs).map fun rest => (.scalar .null, rest)
  | 't' :: _ => (afterWord "true" cs).map fun rest => (.scalar (.bool true), rest)
  | 'f' :: _ => (afterWord "false" cs).map fun rest => (.scalar (.bool false), rest)
  | _ => (numeral cs).map fun (n, rest) => (.scalar n.toTree, rest)

/-! ## Section 4: Progress

    A token takes at least one character off the text, so that reading tokens one after the other
    comes to an end. -/

theorem length_of_stringUnits {cs rest : List Char} {us : List Nat}
    (h : stringUnits cs = some (us, rest)) : rest.length ≤ cs.length := by
  fun_induction stringUnits cs generalizing us rest with
  | case1 => simp at h
  | case2 tail =>
    simp only [Option.some.injEq, Prod.mk.injEq] at h
    simp [← h.2]
  | case3 a b c d tail ih =>
    simp only [bind, Option.bind_eq_some_iff] at h
    obtain ⟨_, _, ⟨units, tail'⟩, h', h⟩ := h
    have := ih h'
    simp_all
    omega
  | case4 e tail _ ih =>
    simp only [bind, Option.bind_eq_some_iff] at h
    obtain ⟨_, _, ⟨units, tail'⟩, h', h⟩ := h
    have := ih h'
    simp_all
    omega
  | case5 => simp at h
  | case6 c tail _ _ _ _ ih =>
    simp only [bind, Option.bind_eq_some_iff] at h
    obtain ⟨⟨units, tail'⟩, h', h⟩ := h
    have := ih h'
    simp_all
    omega

theorem length_of_digits1 {cs rest : List Char} {ds : List Nat} (h : digits1 cs = some (ds, rest)) :
    rest.length < cs.length := by
  cases cs with
  | nil => simp [digits1, digits] at h
  | cons c cs =>
    by_cases hc : isDigit c
    · simp only [digits1, digits, List.takeWhile_cons, hc, if_true, List.map_cons,
        List.dropWhile_cons, Option.some.injEq, Prod.mk.injEq] at h
      have := (List.dropWhile_sublist (l := cs) isDigit).length_le
      simp [← h.2]
      omega
    · simp [digits1, digits, hc] at h

theorem length_of_wholePart {cs rest : List Char} {ds : List Nat}
    (h : wholePart cs = some (ds, rest)) : rest.length < cs.length := by
  unfold wholePart at h
  split at h
  · simp_all
  · exact length_of_digits1 h

theorem length_of_fractionPart {cs rest : List Char} {ds : List Nat}
    (h : fractionPart cs = some (ds, rest)) : rest.length ≤ cs.length := by
  unfold fractionPart at h
  split at h
  · have := length_of_digits1 h
    simp
    omega
  · simp_all

theorem length_exponentSign (cs : List Char) : (exponentSign cs).2.length ≤ cs.length := by
  unfold exponentSign
  split <;> simp

theorem length_of_exponentPart {cs rest : List Char} {e : Option (Bool × List Nat)}
    (h : exponentPart cs = some (e, rest)) : rest.length ≤ cs.length := by
  unfold exponentPart at h
  split at h
  · simp_all
  · rename_i c tail
    split at h
    · simp only [bind, Option.bind_eq_some_iff] at h
      obtain ⟨⟨ds, tail'⟩, h', h⟩ := h
      have := length_of_digits1 h'
      have := length_exponentSign tail
      simp_all
      omega
    · simp_all

theorem length_of_unsignedNumeral {negative : Bool} {cs rest : List Char} {n : Numeral}
    (h : unsignedNumeral negative cs = some (n, rest)) : rest.length < cs.length := by
  simp only [unsignedNumeral, bind, Option.bind_eq_some_iff] at h
  obtain ⟨⟨_, a⟩, ha, ⟨_, b⟩, hb, ⟨_, c⟩, hc, h⟩ := h
  have := length_of_wholePart ha
  have := length_of_fractionPart hb
  have := length_of_exponentPart hc
  simp_all
  omega

theorem length_of_numeral {cs rest : List Char} {n : Numeral} (h : numeral cs = some (n, rest)) :
    rest.length < cs.length := by
  unfold numeral at h
  split at h
  · have := length_of_unsignedNumeral h
    simp
    omega
  · exact length_of_unsignedNumeral h

theorem length_of_afterWord {word : String} {cs rest : List Char} (hw : word.length ≠ 0)
    (h : afterWord word cs = some rest) : rest.length < cs.length := by
  unfold afterWord at h
  split at h
  · rename_i hp
    have := (List.isPrefixOf_iff_prefix.1 hp).length_le
    simp only [Option.some.injEq] at h
    simp only [← h, List.length_drop, String.length_toList] at *
    omega
  · simp at h

theorem length_of_token {cs rest : List Char} {t : Token} (h : token cs = some (t, rest)) :
    rest.length < cs.length := by
  unfold token at h
  split at h
  case h_7 =>
    obtain ⟨⟨us, r⟩, hu, h⟩ := Option.map_eq_some_iff.1 h
    have := length_of_stringUnits hu
    simp only [Prod.mk.injEq] at h
    simp only [← h.2, List.length_cons]
    omega
  -- The three words.
  case h_8 | h_9 | h_10 =>
    obtain ⟨r, hr, h⟩ := Option.map_eq_some_iff.1 h
    have := length_of_afterWord (by decide) hr
    simp_all
  case h_11 =>
    obtain ⟨⟨n, r⟩, hn, h⟩ := Option.map_eq_some_iff.1 h
    have := length_of_numeral hn
    simp_all
  all_goals simp_all

end TypeExport.Json
