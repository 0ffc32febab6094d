import TypeExport.Proofs.Text.Lines

/-! # Reading Past Comments

    How a reader of the target language tells code from comments.  It goes from line to line and
    knows whether it is in code, in a block comment or in a literal.  A block comment begins where
    code has its first two characters, and ends at the first `*/`, whatever stands in between.  A
    line comment and a literal between quotes end with their line; templates and block comments go
    on. -/

namespace TypeExport.Reading

open Text

/-! ## Section 1: Reading a line -/

/-- What the reader takes the next character for. -/
inductive Mode where
  | code
  /-- Part of a block comment. -/
  | block
  /-- Part of a literal that ends with this quote. -/
  | literal (quote : Char)
  deriving Repr, DecidableEq

namespace Mode

/-- What comes after a character of code. -/
def afterCode (c : Char) : Mode :=
  if c = '"' ∨ c = '\x27' ∨ c = '\x60' then .literal c else .code

/-- What comes after the end of a line. -/
def afterLine : Mode → Mode
  | .literal quote => if quote = '\x60' then .literal quote else .code
  | mode => mode

end Mode

def commentEnd : List Char := ['*', '/']

/-- What stands in a line that begins in the given mode, less its block comments, and the mode in
    which the next line begins. -/
def readLine : Mode → List Char → List Char × Mode
  | mode, [] => ([], mode.afterLine)
  | .code, '/' :: '*' :: rest => readLine .block rest
  | .code, '/' :: '/' :: rest => ('/' :: '/' :: rest, .code)
  | .code, c :: rest => (readLine (.afterCode c) rest).map (c :: ·) id
  | .block, '*' :: '/' :: rest => readLine .code rest
  | .block, _ :: rest => readLine .block rest
  | .literal quote, '\\' :: c :: rest => (readLine (.literal quote) rest).map ('\\' :: c :: ·) id
  | .literal quote, c :: rest =>
    (readLine (if c = quote then .code else .literal quote) rest).map (c :: ·) id

theorem readLine_nil (mode : Mode) : readLine mode [] = ([], mode.afterLine) := by
  cases mode <;> rfl

theorem readLine_open (rest : List Char) :
    readLine .code ('/' :: '*' :: rest) = readLine .block rest := rfl

/-- Nothing but a slash can begin a comment. -/
theorem readLine_code {c : Char} (h : c ≠ '/') (rest : List Char) :
    readLine .code (c :: rest) = (readLine (.afterCode c) rest).map (c :: ·) id := by
  rw [readLine]
  · exact fun _ hc _ => absurd hc h
  · exact fun _ hc _ => absurd hc h

theorem readLine_close (rest : List Char) :
    readLine .block ('*' :: '/' :: rest) = readLine .code rest := rfl

/-- Only the two characters together end a block comment. -/
theorem readLine_block_cons {c : Char} {rest : List Char} (h : ¬ commentEnd <+: c :: rest) :
    readLine .block (c :: rest) = readLine .block rest := by
  rw [readLine]
  rintro rest' rfl rfl
  exact h ⟨rest', rfl⟩

/-- White space in code is passed on. -/
theorem readLine_code_blanks {blanks : List Char} (h : isBlankLine blanks = true)
    (rest : List Char) :
    readLine .code (blanks ++ rest) = (readLine .code rest).map (blanks ++ ·) id := by
  induction blanks with
  | nil => rfl
  | cons c blanks ih =>
    obtain ⟨hc, hblanks⟩ : isBlank c = true ∧ isBlankLine blanks = true := by
      simpa [isBlankLine] using h
    have hne : ∀ d, isBlank d = false → c ≠ d := fun d hd heq => by simp [← heq, hc] at hd
    have hcode : Mode.afterCode c = .code := by
      simp [Mode.afterCode, hne '"' (by decide), hne '\x27' (by decide), hne '\x60' (by decide)]
    rw [List.cons_append, readLine_code (hne '/' (by decide)), hcode, ih hblanks]
    rfl

/-- A block comment goes on through a line in which it does not end. -/
theorem readLine_block {line : List Char} (h : ¬ commentEnd <:+: line) :
    readLine .block line = ([], .block) := by
  induction line with
  | nil => rfl
  | cons c line ih =>
    rw [List.infix_cons_iff, not_or] at h
    rw [readLine_block_cons h.1, ih h.2]

/-- A block comment ends where it first can. -/
theorem readLine_block_append {line : List Char} (h : ¬ commentEnd <:+: line ++ ['*'])
    (rest : List Char) : readLine .block (line ++ '*' :: '/' :: rest) = readLine .code rest := by
  induction line with
  | nil => exact readLine_close rest
  | cons c line ih =>
    rw [List.cons_append, List.infix_cons_iff, not_or] at h
    rw [List.cons_append, readLine_block_cons ?_, ih h.2]
    -- The second character of the end would have to be the one after `c`.
    rintro ⟨after, hafter⟩
    refine h.1 ?_
    cases line with
    | nil => simp [commentEnd] at hafter
    | cons d line =>
      obtain ⟨rfl, rfl, -⟩ : '*' = c ∧ '/' = d ∧ _ := by simpa [commentEnd] using hafter
      exact ⟨line ++ ['*'], rfl⟩

/-- In a literal only a backslash takes the next character with it. -/
theorem readLine_literal {quote c : Char} (h : c ≠ '\\') (rest : List Char) :
    readLine (.literal quote) (c :: rest) =
      (readLine (if c = quote then .code else .literal quote) rest).map (c :: ·) id := by
  rw [readLine]
  exact fun _ _ hc _ => absurd hc h

/-- White space in a literal is passed on. -/
theorem readLine_literal_blanks {quote : Char} (hquote : isBlank quote = false)
    {blanks : List Char} (h : isBlankLine blanks = true) :
    readLine (.literal quote) blanks = (blanks, (Mode.literal quote).afterLine) := by
  induction blanks with
  | nil => exact readLine_nil _
  | cons c blanks ih =>
    obtain ⟨hc, hblanks⟩ : isBlank c = true ∧ isBlankLine blanks = true := by
      simpa [isBlankLine] using h
    have hne : ∀ d, isBlank d = false → c ≠ d := fun d hd heq => by simp [← heq, hc] at hd
    rw [readLine_literal (hne '\\' (by decide)), if_neg (hne quote hquote), ih hblanks]
    rfl

/-- A blank line changes nothing, unless a literal ends with it. -/
theorem readLine_blank {mode : Mode} (hmode : mode.afterLine = mode) {line : List Char}
    (h : isBlankLine line = true) :
    isBlankLine (readLine mode line).1 = true ∧ (readLine mode line).2 = mode := by
  cases mode with
  | code =>
    have hread := readLine_code_blanks h []
    rw [List.append_nil, readLine_nil] at hread
    rw [hread]
    exact ⟨by simpa using h, rfl⟩
  | block =>
    -- A comment is not closed by blanks.
    have hend : ¬ commentEnd <:+: line := by
      intro hinfix
      have hstar : '*' ∈ line := hinfix.subset List.mem_cons_self
      exact absurd (List.all_eq_true.mp h '*' hstar) (by decide)
    rw [readLine_block hend]
    exact ⟨rfl, rfl⟩
  | literal quote =>
    -- Only a template goes on behind the end of a line.
    have hquote : quote = '\x60' := by
      by_contra hne
      simp [Mode.afterLine, hne] at hmode
    rw [readLine_literal_blanks (by subst hquote; decide) h, hmode]
    exact ⟨h, rfl⟩

/-! ## Section 2: Reading several lines -/

/-- The code in the lines: what is left of them, unless it is blank. -/
def codeOf : Mode → List (List Char) → List (List Char)
  | _, [] => []
  | mode, line :: rest =>
    let (code, next) := readLine mode line
    if isBlankLine code then codeOf next rest else code :: codeOf next rest

def modeAfter (mode : Mode) (ls : List (List Char)) : Mode :=
  ls.foldl (fun mode line => (readLine mode line).2) mode

def codeOfText (text : String) : List (List Char) := codeOf .code (lines text.toList)

theorem codeOf_cons (mode : Mode) (line : List Char) (rest : List (List Char)) :
    codeOf mode (line :: rest) = if isBlankLine (readLine mode line).1
      then codeOf (readLine mode line).2 rest
      else (readLine mode line).1 :: codeOf (readLine mode line).2 rest := rfl

/-- A line without code counts for the mode it leads to only. -/
theorem codeOf_cons_blank {mode next : Mode} {line code : List Char}
    (h : readLine mode line = (code, next)) (hcode : isBlankLine code = true)
    (rest : List (List Char)) : codeOf mode (line :: rest) = codeOf next rest := by
  rw [codeOf_cons, h, if_pos hcode]

theorem modeAfter_cons (mode : Mode) (line : List Char) (rest : List (List Char)) :
    modeAfter mode (line :: rest) = modeAfter (readLine mode line).2 rest := rfl

theorem codeOf_append (mode : Mode) (ls more : List (List Char)) :
    codeOf mode (ls ++ more) = codeOf mode ls ++ codeOf (modeAfter mode ls) more := by
  induction ls generalizing mode with
  | nil => rfl
  | cons line rest ih =>
    rw [List.cons_append, codeOf_cons, codeOf_cons, ih, modeAfter_cons]
    split <;> rfl

theorem Mode.afterLine_afterLine (mode : Mode) : mode.afterLine.afterLine = mode.afterLine := by
  cases mode with
  | literal quote =>
    by_cases h : quote = '\x60' <;> simp [afterLine, h]
  | _ => rfl

/-- No literal that ends with its line is open at the beginning of the next one. -/
theorem afterLine_readLine (mode : Mode) (line : List Char) :
    (readLine mode line).2.afterLine = (readLine mode line).2 := by
  fun_induction readLine mode line with
  | case1 mode => exact mode.afterLine_afterLine
  | case3 => rfl
  | _ => assumption

/-- Blank lines hold no code, and the reader may pass over them. -/
theorem codeOf_filter {mode : Mode} (hmode : mode.afterLine = mode) (ls : List (List Char)) :
    codeOf mode (ls.filter (!isBlankLine ·)) = codeOf mode ls := by
  induction ls generalizing mode with
  | nil => rfl
  | cons line rest ih =>
    cases hb : isBlankLine line with
    | true =>
      obtain ⟨hcode, hnext⟩ := readLine_blank hmode hb
      rw [codeOf_cons_blank rfl hcode, hnext, ← ih hmode, List.filter_cons, hb]
      rfl
    | false =>
      rw [List.filter_cons, hb, codeOf_cons, ← ih (afterLine_readLine mode line)]
      rfl

theorem modeAfter_filter {mode : Mode} (hmode : mode.afterLine = mode) (ls : List (List Char)) :
    modeAfter mode (ls.filter (!isBlankLine ·)) = modeAfter mode ls := by
  induction ls generalizing mode with
  | nil => rfl
  | cons line rest ih =>
    cases hb : isBlankLine line with
    | true =>
      obtain ⟨-, hnext⟩ := readLine_blank hmode hb
      rw [List.filter_cons, hb, modeAfter_cons, hnext]
      exact ih hmode
    | false =>
      rw [List.filter_cons, hb]
      exact ih (afterLine_readLine mode line)

/-- The code in a text after the clean-up of blank lines is that in its kept lines. -/
theorem codeOfText_collapseBlankLines (text : String) :
    codeOfText (collapseBlankLines text) = codeOf .code (keptLines (lines text.toList)) := by
  rw [codeOfText, ← codeOf_filter rfl, filter_lines_collapseBlankLines]

/-- Every line is read from code to code: no comment and no literal goes on in the next line. -/
def StaysInCode (ls : List (List Char)) : Prop := ∀ line ∈ ls, (readLine .code line).2 = .code

end TypeExport.Reading
