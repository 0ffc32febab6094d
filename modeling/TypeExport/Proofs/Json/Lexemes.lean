import Mathlib.Data.Nat.Digits.Defs
import TypeExport.Json.Reader
import TypeExport.Json.Writer

/-! # Written Words of JSON Text

    The smallest pieces of a written text are strings, numbers and the three words.  Each of them is
    read back as the token it was written for.  A string ends at its closing quote whatever follows;
    a number ends where the next character can belong to no number, which is what `EndsNumber` says
    of the text after it. -/

namespace TypeExport.Json

/-! ## Section 1: Strings -/

theorem hexDigit?_digitChar : ∀ n < 16, hexDigit? (Nat.digitChar n) = some n := by decide

/-- The escape of a control character names its code point. -/
theorem hexUnit?_control {n : Nat} (h : n < 0x20) :
    hexUnit? '0' '0' (Nat.digitChar (n / 16)) (Nat.digitChar (n % 16)) = some n := by
  have hhigh := hexDigit?_digitChar (n / 16) (by omega)
  have hlow := hexDigit?_digitChar (n % 16) (by omega)
  have hzero : hexDigit? '0' = some 0 := by decide
  have hsum : ((0 * 16 + 0) * 16 + n / 16) * 16 + n % 16 = n := by omega
  simp only [hexUnit?, hzero, hhigh, hlow, bind, Option.bind, pure, hsum]

/-- A written character is read as one unit, its code point. -/
theorem stringUnits_writeChar (c : Char) (rest : List Char) :
    stringUnits (writeChar c ++ rest) =
      (stringUnits rest).map fun read => (c.toNat :: read.1, read.2) := by
  unfold writeChar
  split
  -- The last rule is for all characters without an escape of their own.
  case h_8 hquote hslash _ _ _ _ _ =>
    by_cases hc : c.toNat < 0x20
    · rw [if_pos hc]
      simp only [List.cons_append, List.nil_append]
      rw [stringUnits]
      simp only [hexUnit?_control hc]
      cases stringUnits rest <;> rfl
    · rw [if_neg hc, List.singleton_append, stringUnits]
      · rw [if_neg (by rintro (h | h); exacts [hc h, hslash h])]
        cases stringUnits rest <;> rfl
      · exact hquote
      · rintro _ _ _ _ _ h
        exact absurd h hslash
      · rintro _ _ h
        exact absurd h hslash
  all_goals
    simp only [List.cons_append, List.nil_append]
    rw [stringUnits]
    · simp only [escaped?]
      cases stringUnits rest <;> rfl
    · simp

/-- A written string is read up to its closing quote, whatever follows. -/
theorem stringUnits_writeText (cs rest : List Char) :
    stringUnits (cs.flatMap writeChar ++ '"' :: rest) = some (cs.map Char.toNat, rest) := by
  induction cs with
  | nil => rw [List.flatMap_nil, List.nil_append, stringUnits]; rfl
  | cons c cs ih =>
    rw [List.flatMap_cons, List.append_assoc, stringUnits_writeChar, ih]
    rfl

/-- No character is half of a surrogate pair, so units of whole characters are read one by one. -/
theorem ofUnits_toNat (cs : List Char) : ofUnits (cs.map Char.toNat) = some cs := by
  induction cs with
  | nil => rfl
  | cons c cs ih =>
    have hvalid : c.toNat < 0xd800 ∨ 0xdfff < c.toNat ∧ c.toNat < 0x110000 := c.valid
    have hhigh : ¬ (0xd800 ≤ c.toNat ∧ c.toNat < 0xdc00) := by omega
    have hlow : ¬ (0xdc00 ≤ c.toNat ∧ c.toNat < 0xe000) := by omega
    rw [List.map_cons, ofUnits.eq_def]
    simp only [if_neg hhigh, if_neg hlow, ih, Char.ofNat_toNat]
    rfl

/-- The token of a written string. -/
theorem token_writeText (s : String) (rest : List Char) :
    token ((writeText s).toList ++ rest) = some (.text (some s), rest) := by
  have hunits := stringUnits_writeText s.toList rest
  simp only [writeText, String.toList_ofList, List.cons_append, List.append_assoc,
    List.nil_append, token, hunits, Option.map_some, ofUnits_toNat, String.ofList_toList]

/-! ## Section 2: Numbers -/

/-- A number right before such a text ends there. -/
def EndsNumber : List Char → Prop
  | [] => True
  | c :: _ => isDigit c = false ∧ c ≠ '.' ∧ c ≠ 'e' ∧ c ≠ 'E'

theorem isDigit_of_mem_toDigits {n : Nat} {c : Char} (h : c ∈ Nat.toDigits 10 n) :
    isDigit c = true := by
  have hc := Nat.isDigit_of_mem_toDigits (by decide) (by decide) h
  simpa [isDigit, Char.isDigit, Char.le_def] using hc

/-- Digits are read as far as they go. -/
theorem digits_append {ds rest : List Char} (hds : ∀ c ∈ ds, isDigit c = true)
    (hrest : EndsNumber rest) : digits (ds ++ rest) = (ds.map digitValue, rest) := by
  have hstop : rest.takeWhile isDigit = [] ∧ rest.dropWhile isDigit = rest := by
    cases rest with
    | nil => exact ⟨rfl, rfl⟩
    | cons c rest => simp [hrest.1]
  simp only [digits, List.takeWhile_append_of_pos hds, List.dropWhile_append_of_pos hds, hstop,
    List.append_nil]

/-- The digits of a number have its value. -/
theorem ofDigits_toDigits (n : Nat) :
    ofDigits ((Nat.toDigits 10 n).map digitValue) = n := by
  have h := Nat.ofDigitChars_ten_toDigits (n := n)
  rw [Nat.ofDigitChars_eq_foldl] at h
  rw [ofDigits, List.foldl_map]
  exact h

/-- Digits without a sign are a natural number, if it fits into a word. -/
theorem Numeral.toTree_natural {ds : List Nat} (h : ofDigits ds < Tree.wordValues) :
    (⟨false, ds, [], none⟩ : Numeral).toTree = .natural (ofDigits ds) := by
  simp [Numeral.toTree, h]

/-- Digits with a sign are a negative integer, if it is not zero and fits into a signed word. -/
theorem Numeral.toTree_integer {ds : List Nat} (hpos : 0 < ofDigits ds)
    (hmin : ofDigits ds ≤ Tree.negativeValues) :
    (⟨true, ds, [], none⟩ : Numeral).toTree = .integer (-(ofDigits ds : Int)) := by
  simp [Numeral.toTree, hpos, hmin]

/-- Only zero is written with a leading zero. -/
theorem toDigits_eq_zero_cons {n : Nat} {ds : List Char} (h : Nat.toDigits 10 n = '0' :: ds) :
    n = 0 ∧ ds = [] := by
  induction n using Nat.strongRecOn generalizing ds with
  | _ n ih =>
    by_cases hlt : n < 10
    · rw [Nat.toDigits_of_lt_base hlt] at h
      have hall : ∀ k < 10, Nat.digitChar k = '0' → k = 0 := by decide
      obtain ⟨hchar, hnil⟩ := List.cons.inj h
      exact ⟨hall n hlt hchar, hnil.symm⟩
    · -- A longer number begins as the number without its last digit does, and that is not zero.
      have hge : 10 ≤ n := Nat.le_of_not_lt hlt
      rw [Nat.toDigits_of_base_le (by decide) hge] at h
      cases hinit : Nat.toDigits 10 (n / 10) with
      | nil => exact absurd hinit Nat.toDigits_ne_nil
      | cons c cs =>
        rw [hinit, List.cons_append] at h
        obtain rfl := (List.cons.inj h).1
        have hzero := (ih (n / 10) (by omega) hinit).1
        omega

theorem wholePart_toDigits (n : Nat) {rest : List Char} (hrest : EndsNumber rest) :
    wholePart (Nat.toDigits 10 n ++ rest) = some ((Nat.toDigits 10 n).map digitValue, rest) := by
  have hdigits : digits (Nat.toDigits 10 n ++ rest) = _ :=
    digits_append (fun _ h => isDigit_of_mem_toDigits h) hrest
  cases hds : Nat.toDigits 10 n with
  | nil => exact absurd hds Nat.toDigits_ne_nil
  | cons c ds =>
    rw [hds] at hdigits
    -- A zero in front is the whole number; otherwise all digits are taken.
    by_cases hc : c = '0'
    · subst hc
      obtain ⟨-, rfl⟩ := toDigits_eq_zero_cons hds
      rfl
    · rw [List.cons_append] at hdigits ⊢
      rw [wholePart, digits1, hdigits]
      · rfl
      · intro _ h
        exact hc (List.cons.inj h).1

theorem fractionPart_ends {rest : List Char} (h : EndsNumber rest) :
    fractionPart rest = some ([], rest) := by
  cases rest with
  | nil => rfl
  | cons c rest =>
    rw [fractionPart]
    intro _ hc
    exact h.2.1 (List.cons.inj hc).1

theorem exponentPart_ends {rest : List Char} (h : EndsNumber rest) :
    exponentPart rest = some (none, rest) := by
  cases rest with
  | nil => rfl
  | cons c rest =>
    rw [exponentPart, if_neg]
    rintro (hc | hc)
    exacts [h.2.2.1 hc, h.2.2.2 hc]

/-- The digits of an integer are read as a numeral without a fraction and without an exponent. -/
theorem unsignedNumeral_toDigits (negative : Bool) (n : Nat) {rest : List Char}
    (h : EndsNumber rest) :
    unsignedNumeral negative (Nat.toDigits 10 n ++ rest) =
      some (⟨negative, (Nat.toDigits 10 n).map digitValue, [], none⟩, rest) := by
  simp only [unsignedNumeral, wholePart_toDigits n h, bind, Option.bind, fractionPart_ends h,
    exponentPart_ends h, pure]

/-- What begins with a digit is a number. -/
theorem token_digit {c : Char} (h : isDigit c = true) (rest : List Char) :
    token (c :: rest) =
      (unsignedNumeral false (c :: rest)).map fun read => (.scalar read.1.toTree, read.2) := by
  have hnumeral : numeral (c :: rest) = unsignedNumeral false (c :: rest) := by
    rw [numeral]
    intro _ hc
    rw [(List.cons.inj hc).1] at h
    exact absurd h (by decide)
  rw [← hnumeral, token]
  all_goals
    intro _ hc
    rw [(List.cons.inj hc).1] at h
    exact absurd h (by decide)

/-- The token of a written natural number that fits into a word. -/
theorem token_natural {n : Nat} (hn : n < Tree.wordValues) {rest : List Char}
    (h : EndsNumber rest) :
    token ((toString n).toList ++ rest) = some (.scalar (.natural n), rest) := by
  rw [Nat.toString_eq_ofList_toDigits, String.toList_ofList]
  have hread := unsignedNumeral_toDigits false n h
  cases hds : Nat.toDigits 10 n with
  | nil => exact absurd hds Nat.toDigits_ne_nil
  | cons c ds =>
    have hc : isDigit c = true := isDigit_of_mem_toDigits (by rw [hds]; exact List.mem_cons_self)
    rw [hds] at hread
    rw [List.cons_append] at hread ⊢
    have hword : ofDigits ((Nat.toDigits 10 n).map digitValue) < Tree.wordValues := by
      rwa [ofDigits_toDigits]
    have htree := Numeral.toTree_natural hword
    rw [ofDigits_toDigits, hds] at htree
    rw [token_digit hc, hread, Option.map_some, htree]

theorem toList_negative {i : Int} (h : i < 0) :
    (toString i).toList = '-' :: Nat.toDigits 10 i.natAbs := by
  have hpos : ¬ 0 ≤ i := by omega
  have habs : (-i).toNat = i.natAbs := by omega
  have hsign : "-".toList = ['-'] := rfl
  rw [Int.toString_eq_repr, Int.repr_eq_if, if_neg hpos, habs, String.toList_append,
    Nat.repr_eq_ofList_toDigits, hsign, String.toList_ofList, List.singleton_append]

/-- The token of a written negative integer that fits into a signed word. -/
theorem token_integer {i : Int} (hi : i < 0) (hmin : i.natAbs ≤ Tree.negativeValues)
    {rest : List Char} (h : EndsNumber rest) :
    token ((toString i).toList ++ rest) = some (.scalar (.integer i), rest) := by
  have hnumeral : numeral ('-' :: (Nat.toDigits 10 i.natAbs ++ rest)) = _ :=
    unsignedNumeral_toDigits true i.natAbs h
  have hpos : 0 < i.natAbs := by omega
  have hneg : -(i.natAbs : Int) = i := by omega
  rw [toList_negative hi, List.cons_append, token, hnumeral]
  · have hvalue : ofDigits ((Nat.toDigits 10 i.natAbs).map digitValue) = i.natAbs :=
      ofDigits_toDigits _
    have htree := Numeral.toTree_integer (by rwa [hvalue]) (by rwa [hvalue])
    rw [hvalue, hneg] at htree
    simp only [Option.map_some, htree]
  all_goals simp

/-! ## Section 3: Words -/

theorem afterWord_append (word : String) (rest : List Char) :
    afterWord word (word.toList ++ rest) = some rest := by
  have hprefix : word.toList.isPrefixOf (word.toList ++ rest) = true :=
    List.isPrefixOf_iff_prefix.mpr (List.prefix_append _ _)
  rw [afterWord, if_pos hprefix, ← String.length_toList, List.drop_left]

theorem token_null (rest : List Char) :
    token ("null".toList ++ rest) = some (.scalar .null, rest) := by
  have h := afterWord_append "null" rest
  simp only [String.reduceToList, List.cons_append, List.nil_append] at h ⊢
  rw [token, h]
  rfl

theorem token_bool (b : Bool) (rest : List Char) :
    token ((if b then "true" else "false").toList ++ rest) = some (.scalar (.bool b), rest) := by
  cases b with
  | true =>
    have h := afterWord_append "true" rest
    simp only [if_true, String.reduceToList, List.cons_append, List.nil_append] at h ⊢
    rw [token, h]
    rfl
  | false =>
    have h := afterWord_append "false" rest
    simp only [Bool.false_eq_true, if_false, String.reduceToList, List.cons_append,
      List.nil_append] at h ⊢
    rw [token, h]
    rfl

end TypeExport.Json
