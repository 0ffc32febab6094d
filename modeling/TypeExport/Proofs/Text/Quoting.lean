import TypeExport.Text.Quoted

/-! # Reading String Literals

    A reader of the target language goes through a literal character by character.  A backslash
    gives the next character another meaning, a quote that is not behind a backslash ends the
    literal, and a line must not end before that.

    The quote at the end of a literal is the one the reader stops at, and what it has read by then
    is the string.  The reader looks at one escape after the other, so it is followed through the
    characters of the string.  A text alone does not show where escapes begin: in a row of
    backslashes every second one is escaped itself.  So a quote inside is escaped when an odd number
    of backslashes stands right before it. -/

namespace TypeExport.Text

/-! ## Section 1: Readers -/

/-- What a backslash and the character behind it stand for. -/
def unescape : Char → Option Char
  | '\\' => some '\\'
  | '"' => some '"'
  | 'n' => some '\n'
  | 'r' => some '\r'
  | 't' => some '\t'
  | _ => none

/-- Reads on inside a literal: the string up to the quote that ends it, and what follows the quote.
-/
def readEscapes : List Char → Option (List Char × List Char)
  | [] => none
  | '"' :: after => some ([], after)
  | ['\\'] => none
  | '\\' :: x :: rest => do
    let c ← unescape x
    let (cs, after) ← readEscapes rest
    return (c :: cs, after)
  | c :: rest =>
    if c = '\n' ∨ c = '\r' then none
    else do
      let (cs, after) ← readEscapes rest
      return (c :: cs, after)

/-- Reads a literal: the string it denotes, and what follows it. -/
def readLiteral : List Char → Option (String × List Char)
  | '"' :: rest => (readEscapes rest).map fun (cs, after) => (String.ofList cs, after)
  | _ => none

/-- Whether the character behind `before` is escaped: the row of backslashes right before it is of
    odd length. -/
def escapesNext (before : List Char) : Bool :=
  (before.reverse.takeWhile (· == '\\')).length % 2 == 1

/-! ## Section 2: One character -/

/-- A character stands for itself, or behind a backslash stands the one that means it. -/
theorem escapeChar_cases (c : Char) :
    (escapeChar c = [c] ∧ c ≠ '\\' ∧ c ≠ '"' ∧ c ≠ '\n' ∧ c ≠ '\r') ∨
      ∃ x, escapeChar c = ['\\', x] ∧ unescape x = some c ∧ x ≠ '\n' ∧ x ≠ '\r' := by
  unfold escapeChar
  split
  case h_6 c hbackslash hquote hfeed hreturn htab =>
    exact .inl ⟨rfl, hbackslash, hquote, hfeed, hreturn⟩
  all_goals exact .inr ⟨_, rfl, rfl, by decide, by decide⟩

theorem readEscapes_escapeChar (c : Char) (rest : List Char) :
    readEscapes (escapeChar c ++ rest) =
      (readEscapes rest).map fun (cs, after) => (c :: cs, after) := by
  rcases escapeChar_cases c with ⟨hc, hbackslash, hquote, hfeed, hreturn⟩ | ⟨x, hc, hx, -⟩
  · rw [hc, List.singleton_append, readEscapes]
    · simp only [hfeed, hreturn, or_self, if_false]
      cases readEscapes rest <;> rfl
    all_goals simp_all
  · rw [hc, List.cons_append, List.singleton_append, readEscapes, hx]
    cases readEscapes rest <;> rfl

theorem escapesNext_append_singleton (before : List Char) (c : Char) :
    escapesNext (before ++ [c]) = (c == '\\' && !escapesNext before) := by
  unfold escapesNext
  rw [List.reverse_append, List.reverse_singleton, List.singleton_append, List.takeWhile_cons]
  by_cases hc : c = '\\'
  · simp only [hc, beq_self_eq_true, if_true, Bool.true_and, List.length_cons]
    rcases Nat.mod_two_eq_zero_or_one (before.reverse.takeWhile (· == '\\')).length with h | h
    · simp [h, Nat.add_mod]
    · simp [h, Nat.add_mod]
  · simp [hc]

/-! ## Section 3: All characters -/

/-- The reader comes to the end of what was written, whatever follows. -/
theorem readEscapes_flatMap (cs after : List Char) :
    readEscapes (cs.flatMap escapeChar ++ '"' :: after) = some (cs, after) := by
  induction cs with
  | nil => rfl
  | cons c cs ih =>
    rw [List.flatMap_cons, List.append_assoc, readEscapes_escapeChar, ih]
    rfl

theorem toList_quote (s : String) :
    (quote s).toList = '"' :: (s.toList.flatMap escapeChar ++ ['"']) := String.toList_ofList

theorem readLiteral_quote (s : String) (after : List Char) :
    readLiteral ((quote s).toList ++ after) = some (s, after) := by
  have hliteral : (quote s).toList ++ after =
      '"' :: (s.toList.flatMap escapeChar ++ '"' :: after) := by
    simp [toList_quote]
  rw [hliteral, readLiteral, readEscapes_flatMap]
  simp

/-- Lines do not end inside a literal. -/
theorem not_mem_flatMap_escapeChar (cs : List Char) :
    '\n' ∉ cs.flatMap escapeChar ∧ '\r' ∉ cs.flatMap escapeChar := by
  -- Both characters have an escape, and no escape is spelled with them.
  have hline : ∀ c : Char, ∀ d ∈ escapeChar c, d ≠ '\n' ∧ d ≠ '\r' := by
    intro c d hd
    rcases escapeChar_cases c with ⟨hc, -, -, hfeed, hreturn⟩ | ⟨x, hc, -, hfeed, hreturn⟩
    · rw [hc, List.mem_singleton] at hd
      exact hd ▸ ⟨hfeed, hreturn⟩
    · rw [hc, List.mem_cons, List.mem_singleton] at hd
      rcases hd with rfl | rfl
      · decide
      · exact ⟨hfeed, hreturn⟩
  constructor
  · intro hmem
    obtain ⟨c, -, hd⟩ := List.mem_flatMap.mp hmem
    exact (hline c _ hd).1 rfl
  · intro hmem
    obtain ⟨c, -, hd⟩ := List.mem_flatMap.mp hmem
    exact (hline c _ hd).2 rfl

/-- A quote among the escapes is escaped; `pre` is what stands before them. -/
theorem escapesNext_of_quote {cs pre before after : List Char} (hpre : escapesNext pre = false)
    (h : cs.flatMap escapeChar = before ++ '"' :: after) : escapesNext (pre ++ before) = true := by
  induction cs generalizing pre before with
  | nil => exact absurd h (by simp)
  | cons c cs ih =>
    rw [List.flatMap_cons] at h
    rcases escapeChar_cases c with ⟨hc, hbackslash, hquote, -⟩ | ⟨x, hc, -⟩
    · rw [hc, List.singleton_append] at h
      cases before with
      | nil => exact absurd (List.cons.inj h).1 hquote
      | cons d before =>
        -- No row of backslashes goes on behind this character.
        obtain ⟨rfl, hrest⟩ := List.cons.inj h
        have hnext : escapesNext (pre ++ [c]) = false := by
          simp [escapesNext_append_singleton, hbackslash]
        simpa using ih hnext hrest
    · rw [hc, List.cons_append, List.singleton_append] at h
      have hopen : escapesNext (pre ++ ['\\']) = true := by
        simp [escapesNext_append_singleton, hpre]
      match before with
      | [] => exact absurd (List.cons.inj h).1 (by decide)
      | [d] =>
        obtain ⟨rfl, -⟩ := List.cons.inj h
        exact hopen
      | d :: e :: before =>
        -- The second character of the escape uses the backslash up.
        obtain ⟨rfl, htail⟩ := List.cons.inj h
        obtain ⟨rfl, hrest⟩ := List.cons.inj htail
        have hnext : escapesNext (pre ++ ['\\', x]) = false := by
          have hsplit : pre ++ ['\\', x] = (pre ++ ['\\']) ++ [x] := by simp
          rw [hsplit, escapesNext_append_singleton, hopen]
          simp
        simpa using ih hnext hrest

end TypeExport.Text
