import Mathlib
import TypeExport.Proofs.Text.Identifiers
import TypeExport.Proofs.Text.Quoting
import TypeExport.Proofs.Text.Spelling

/-! # Names of Members as Code

    A member name is written in one of two forms, and a reader has to tell which one and what it
    says.  A literal is told by its quote, and read back by its escapes.  A bare name holds nothing
    that means something else in code: no quote, no white space, no punctuation.  So no two names
    are written the same.

    Whether a bare name is an identifier is another question.  The test for bare names asks for
    letters and numerals, and identifiers are made of other classes: a name that begins with a mark
    or holds one of the strays is left bare although the target language does not take it for a
    name.  `memberName_identifier_exact` says that these are the only such names. -/

namespace TypeExport

open Text

/-! ## Section 1: Bare names -/

theorem length_lt_quote (s : String) : s.toList.length < (quote s).toList.length := by
  have hescapes : ∀ cs : List Char, cs.length ≤ (cs.flatMap escapeChar).length := by
    intro cs
    induction cs with
    | nil => exact Nat.le_refl _
    | cons c cs ih =>
      rw [List.flatMap_cons, List.length_append, List.length_cons]
      rcases escapeChar_cases c with ⟨hc, -⟩ | ⟨x, hc, -⟩
      · rw [hc, List.length_singleton]
        omega
      · rw [hc, List.length_cons, List.length_singleton]
        omega
  have := hescapes s.toList
  rw [toList_quote, List.length_cons, List.length_append, List.length_singleton]
  omega

/-- A name is left as it is just if it passes the test. -/
theorem memberName_eq_self_iff {name : String} :
    memberName name = name ↔ isBareName name = true := by
  unfold memberName
  constructor
  · intro h
    by_contra hbare
    rw [if_neg hbare] at h
    have := length_lt_quote name
    rw [h] at this
    omega
  · intro h
    rw [if_pos h]

set_option maxRecDepth 4000 in
/-- Neither letters nor numerals are white space. -/
theorem isBlank_of_continuesName {c : Char} (h : continuesName c = true) : isBlank c = false := by
  have hblank : blankCodes.Ascends := by decide
  have hletters (n : Nat) : alphabeticCodes.contains n =
      (alphabeticCodes.contains n && !blankCodes.contains n) :=
    CodeSet.contains_diff ascends_alphabeticCodes hblank ascends_alphabeticCodes (by decide)
  have hnumerals (n : Nat) : numericCodes.contains n =
      (numericCodes.contains n && !blankCodes.contains n) :=
    CodeSet.contains_diff ascends_numericCodes hblank ascends_numericCodes (by decide)
  simp only [continuesName, isAlphanumeric, isAlphabetic, isNumeric, Bool.or_eq_true,
    beq_iff_eq] at h
  rcases h with ((hletter | hnumeral) | rfl) | rfl
  · have := hletters c.toNat
    rw [hletter, Bool.true_and] at this
    simpa [isBlank] using this
  · have := hnumerals c.toNat
    rw [hnumeral, Bool.true_and] at this
    simpa [isBlank] using this
  · decide
  · decide

/-- The characters by which code is taken apart, apart from white space in the sense of the
    standard: quotes, punctuation around a member, line ends, and the mark of byte order, which the
    target language takes for white space. -/
def separators : List Char :=
  ['"', '\x27', '\x60', '?', ':', '(', ')', '\n', '\r', '\u2028', '\u2029', '\ufeff']

set_option maxRecDepth 4000 in
theorem not_mem_separators_of_continuesName {c : Char} (h : continuesName c = true) :
    c ∉ separators := by
  have hall : separators.all (!continuesName ·) = true := by decide
  intro hmem
  have := List.all_eq_true.mp hall c hmem
  rw [h] at this
  exact absurd this (by simp)

/-! ## Section 2: Literals and names -/

/-- The literal of a string stands between quotes.  Between them no line ends, every quote is
    escaped, and a reader comes to the end of the literal with the string, whatever follows.
    Different names are written differently, and a name that is left bare holds no separator and no
    white space. -/
theorem quote_memberName_exact :
    (∀ s : String, ∃ body : List Char, (quote s).toList = '"' :: (body ++ ['"']) ∧
      '\n' ∉ body ∧ '\r' ∉ body ∧
      (∀ before after, body = before ++ '"' :: after → escapesNext before = true) ∧
      ∀ after, readLiteral ((quote s).toList ++ after) = some (s, after)) ∧
    (∀ a b : String, a ≠ b → memberName a ≠ memberName b) ∧
    ∀ name : String, memberName name = name →
      ∀ c ∈ name.toList, c ∉ separators ∧ isBlank c = false := by
  refine ⟨?_, ?_, ?_⟩
  · intro s
    obtain ⟨hfeed, hreturn⟩ := not_mem_flatMap_escapeChar s.toList
    refine ⟨s.toList.flatMap escapeChar, toList_quote s, hfeed, hreturn, ?_, readLiteral_quote s⟩
    intro before after h
    have hopen : escapesNext [] = false := rfl
    simpa using escapesNext_of_quote hopen h
  · intro a b hne h
    have hnil : EndsName [] := by
      intro c hc
      exact absurd hc (by simp)
    have htexts : (memberName a).toList ++ [] = (memberName b).toList ++ [] := by rw [h]
    exact hne (memberName_append_inj hnil hnil htexts).1
  · intro name hname c hc
    have hcont := continuesName_of_isBareName (memberName_eq_self_iff.mp hname) c hc
    exact ⟨not_mem_separators_of_continuesName hcont, isBlank_of_continuesName hcont⟩

/-! ## Section 3: Identifiers -/

/-- The name begins with a character that may go on an identifier, but not begin it. -/
def beginsWithMark (name : String) : Bool :=
  match name.toList with
  | [] => false
  | c :: _ => c != '_' && idExtendCodes.contains c.toNat

/-- The name holds a letter or numeral that no identifier holds. -/
def holdsStray (name : String) : Bool :=
  name.toList.any fun c => isStrayLetter c || isStrayNumeral c

theorem isIdentifierName_iff_of_isBareName {name : String} (hname : isBareName name = true) :
    isIdentifierName name = true ↔ beginsWithMark name = false ∧ holdsStray name = false := by
  unfold isBareName at hname
  unfold isIdentifierName beginsWithMark holdsStray
  cases hchars : name.toList with
  | nil => simp [hchars] at hname
  | cons c rest =>
    simp only [hchars, Bool.and_eq_true, List.all_eq_true] at hname
    obtain ⟨hc, hrest⟩ := hname
    -- On characters of bare names the classes differ only by the strays.
    have hall : (∀ d ∈ rest, continuesIdentifier d = true) ↔
        ∀ d ∈ rest, isStrayLetter d = false ∧ isStrayNumeral d = false := by
      constructor
      · intro h d hd
        exact (continuesIdentifier_iff (hrest d hd)).mp (h d hd)
      · intro h d hd
        exact (continuesIdentifier_iff (hrest d hd)).mpr (h d hd)
    have hmark : (c != '_' && idExtendCodes.contains c.toNat) = false ↔
        c = '_' ∨ idExtendCodes.contains c.toNat = false := by
      rw [Bool.and_eq_false_iff, bne_eq_false_iff_eq]
    have hstray : ((c :: rest).any fun d => isStrayLetter d || isStrayNumeral d) = false ↔
        (isStrayLetter c = false ∧ isStrayNumeral c = false) ∧
          ∀ d ∈ rest, isStrayLetter d = false ∧ isStrayNumeral d = false := by
      simp [List.any_eq_false]
    rw [Bool.and_eq_true, List.all_eq_true, beginsIdentifier_iff hc, hall, hmark, hstray, and_assoc]

/-- A name that is left bare is an identifier unless it begins with a mark or holds a stray, and
    every other name is written as a literal. -/
theorem memberName_identifier_exact (name : String) :
    (memberName name = name →
      (isIdentifierName name = true ↔ beginsWithMark name = false ∧ holdsStray name = false)) ∧
    (memberName name ≠ name → memberName name = quote name) := by
  rw [Ne, memberName_eq_self_iff]
  refine ⟨isIdentifierName_iff_of_isBareName, ?_⟩
  intro hbare
  rw [memberName, if_neg hbare]

/-- A name of letters, a vowel sign in its place, an underscore and a digit is bare and an
    identifier; with a hyphen it is a literal. -/
theorem vowelSign_isIdentifierName :
    (memberName "größe_कि2" = "größe_कि2" ∧ isIdentifierName "größe_कि2" = true) ∧
      memberName "größe-कि2" = "\"größe-कि2\"" := by
  constructor
  · have hbare : memberName "größe_कि2" = "größe_कि2" :=
      memberName_eq_self_iff.mpr (by decide +kernel)
    exact ⟨hbare, ((memberName_identifier_exact _).1 hbare).mpr
      ⟨by decide +kernel, by decide +kernel⟩⟩
  · have hbare : ¬ isBareName "größe-कि2" = true := by decide +kernel
    rw [(memberName_identifier_exact _).2 (mt memberName_eq_self_iff.mp hbare)]
    decide +kernel

/-- A superscript is a numeral, so the name of a unit of area is left bare, and is no identifier. -/
theorem square_left_bare : memberName "m²" = "m²" ∧ isIdentifierName "m²" = false :=
  ⟨memberName_eq_self_iff.mpr (by decide +kernel), by decide +kernel⟩

/-- Nor is a vowel sign in front, though it is Alphabetic. -/
example : isBareName "\u093f" = true ∧ isIdentifierName "\u093f" = false := by decide +kernel

end TypeExport
