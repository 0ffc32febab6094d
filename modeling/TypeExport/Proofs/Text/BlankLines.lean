import TypeExport.Proofs.Text.CleanUp

/-! # What the Clean-Up Leaves

    The clean-up is one pass over the lines of a text.  It carries a flag, which tells that a blank
    line has been passed since a line was written.  What it writes for later lines depends on the
    earlier ones through this flag alone (`writeLines_append`), and after blank lines it is up.

    So the lines of the result can be read off the lines of the text: those that are not blank are
    kept, one empty line stands between two of them where there were blank lines, and nothing else
    is left (`collapseBlankLines_spec`).  What is left is settled, and a second pass finds nothing
    to do. -/

namespace TypeExport.Text

/-! ## Section 1: The flag of the pass -/

/-- The lines that the flag stands for. -/
def gapLines (gap : Bool) : List (List Char) := if gap then [[]] else []

/-- A gap holds no line that is kept. -/
theorem filter_gapLines (gap : Bool) : (gapLines gap).filter (!isBlankLine ·) = [] := by
  cases gap <;> rfl

theorem gapAfter_blanks {blanks : List (List Char)}
    (h : ∀ line ∈ blanks, isBlankLine line = true) (gap : Bool) :
    gapAfter gap blanks = if blanks = [] then gap else true := by
  induction blanks generalizing gap with
  | nil => rfl
  | cons line blanks ih =>
    obtain ⟨hline, hblanks⟩ := List.forall_mem_cons.mp h
    rw [gapAfter, hline, ih hblanks true]
    simp

/-! ## Section 2: The lines that are written -/

/-- A line that is not blank is written after the gap before it. -/
theorem writeLines_visible {line : List Char} (h : isBlankLine line = false) (gap : Bool)
    (more : List (List Char)) :
    writeLines gap (line :: more) =
      (gapLines gap).flatMap (· ++ ['\n']) ++ (trimEnd line ++ '\n' :: writeLines false more) := by
  rw [writeLines, h]
  cases gap <;> simp [gapLines]

/-- The gap and the line are lines of what is written. -/
theorem lines_writeLines_visible {line : List Char} (hline : '\n' ∉ line)
    (h : isBlankLine line = false) (gap : Bool) (more : List (List Char)) :
    lines (writeLines gap (line :: more)) =
      gapLines gap ++ trimEnd line :: lines (writeLines false more) := by
  have hgap : ∀ l ∈ gapLines gap, '\n' ∉ l ∧ l.getLast? ≠ some '\r' := by
    cases gap <;> simp [gapLines]
  rw [writeLines_visible h, lines_flatMap hgap, lines_trimEnd hline h]

/-- Whatever is written ends its last line. -/
theorem endsLine_writeLines (gap : Bool) (ls : List (List Char)) :
    EndsLine (writeLines gap ls) := by
  induction ls generalizing gap with
  | nil => exact .inl rfl
  | cons line more ih =>
    cases h : isBlankLine line with
    | true =>
      rw [writeLines, if_pos h]
      exact ih true
    | false =>
      -- What is written for the line ends it, and the rest ends its own last line.
      have hsplit : writeLines gap (line :: more) =
          ((gapLines gap).flatMap (· ++ ['\n']) ++ trimEnd line ++ ['\n']) ++
            writeLines false more := by
        rw [writeLines_visible h]
        simp
      rw [hsplit]
      exact EndsLine.append (.inr ⟨_, rfl⟩) (ih false)

/-- What is written consists of its lines, each with a line feed at its end. -/
theorem flatMap_lines_writeLines (gap : Bool) {ls : List (List Char)}
    (hls : ∀ line ∈ ls, '\n' ∉ line) :
    (lines (writeLines gap ls)).flatMap (· ++ ['\n']) = writeLines gap ls := by
  induction ls generalizing gap with
  | nil => rfl
  | cons line more ih =>
    obtain ⟨hline, hmore⟩ := List.forall_mem_cons.mp hls
    cases h : isBlankLine line with
    | true =>
      rw [writeLines, if_pos h]
      exact ih true hmore
    | false =>
      rw [lines_writeLines_visible hline h, List.flatMap_append, List.flatMap_cons, ih false hmore,
        writeLines_visible h]
      simp

/-- The last line that is written is not blank. -/
theorem getLast?_lines_writeLines (gap : Bool) {ls : List (List Char)}
    (hls : ∀ line ∈ ls, '\n' ∉ line) :
    ∀ last ∈ (lines (writeLines gap ls)).getLast?, isBlankLine last = false := by
  induction ls generalizing gap with
  | nil => simp [writeLines, lines]
  | cons line more ih =>
    obtain ⟨hline, hmore⟩ := List.forall_mem_cons.mp hls
    cases h : isBlankLine line with
    | true =>
      rw [writeLines, if_pos h]
      exact ih true hmore
    | false =>
      intro last hlast
      rw [lines_writeLines_visible hline h, List.getLast?_append, List.getLast?_cons] at hlast
      cases hrest : (lines (writeLines false more)).getLast? with
      | some rest =>
        rw [hrest] at hlast
        obtain rfl : rest = last := by simpa using hlast
        exact ih false hmore rest hrest
      | none =>
        -- The line itself is the last one.
        rw [hrest] at hlast
        obtain rfl : trimEnd line = last := by simpa using hlast
        rw [isBlankLine_trimEnd, h]

/-- Two lines with blank lines between them, or none, and what is written of them. -/
theorem lines_writeLines_between (gap : Bool) (before after : List (List Char))
    {blanks : List (List Char)} {a b : List Char} (ha : '\n' ∉ a) (hb : '\n' ∉ b)
    (hva : isBlankLine a = false) (hvb : isBlankLine b = false)
    (hblanks : ∀ line ∈ blanks, isBlankLine line = true) :
    lines (writeLines gap (before ++ a :: (blanks ++ b :: after))) =
      (lines (writeLines gap before) ++ gapLines (gapAfter gap before)) ++
        trimEnd a :: ((if blanks = [] then [] else [[]]) ++
          trimEnd b :: lines (writeLines false after)) := by
  have hgap : gapLines (gapAfter false blanks) = if blanks = [] then [] else [[]] := by
    rw [gapAfter_blanks hblanks]
    by_cases h : blanks = [] <;> simp [h, gapLines]
  rw [writeLines_append, (endsLine_writeLines _ _).lines_append, lines_writeLines_visible ha hva,
    writeLines_append false blanks, writeLines_blank hblanks, List.nil_append,
    lines_writeLines_visible hb hvb, hgap, List.append_assoc]

/-! ## Section 3: The beginning of a text -/

theorem dropWhile_append_visible {a : List Char} (h : isBlankLine a = false)
    (before more : List (List Char)) :
    (before ++ a :: more).dropWhile isBlankLine =
      before.dropWhile isBlankLine ++ a :: more := by
  have ha : (a :: more).dropWhile isBlankLine = a :: more :=
    List.dropWhile_cons_of_neg (by simp [h])
  rw [List.dropWhile_append, ha]
  split
  · rename_i hnil
    rw [List.isEmpty_iff.mp hnil, List.nil_append]
  · rfl

/-- The first line that is written is not blank. -/
theorem head?_lines_cleanLines {ls : List (List Char)} (hls : ∀ line ∈ ls, '\n' ∉ line) :
    ∀ first ∈ (lines (cleanLines ls)).head?, isBlankLine first = false := by
  induction ls with
  | nil => simp [cleanLines, writeLines, lines]
  | cons line more ih =>
    obtain ⟨hline, hmore⟩ := List.forall_mem_cons.mp hls
    cases h : isBlankLine line with
    | true =>
      rw [cleanLines_cons_blank h]
      exact ih hmore
    | false =>
      -- The first line that is not blank is written without an empty line before it.
      have hclean : cleanLines (line :: more) = writeLines false (line :: more) := by
        rw [cleanLines, List.dropWhile_cons_of_neg (by simp [h])]
      rw [hclean, lines_writeLines_visible hline h]
      intro first hfirst
      obtain rfl : trimEnd line = first := by simpa [gapLines] using hfirst
      rw [isBlankLine_trimEnd, h]

theorem cleanLines_eq_nil_iff {ls : List (List Char)} :
    cleanLines ls = [] ↔ ∀ line ∈ ls, isBlankLine line = true := by
  induction ls with
  | nil => simp [cleanLines, writeLines]
  | cons line more ih =>
    cases h : isBlankLine line with
    | true => rw [cleanLines_cons_blank h, ih]; simp [h]
    | false => rw [cleanLines_cons h]; simp [h]

/-! ## Section 4: A second pass -/

/-- After a line has been written, what follows is cleaned up for itself, perhaps after a gap. -/
theorem writeLines_false_cases (ls : List (List Char)) :
    writeLines false ls = cleanLines ls ∨ writeLines false ls = afterGap (cleanLines ls) := by
  cases ls with
  | nil => exact .inl rfl
  | cons line more =>
    cases h : isBlankLine line with
    | true =>
      right
      rw [writeLines, if_pos h, writeLines_true, cleanLines_cons_blank h]
    | false =>
      left
      rw [cleanLines, List.dropWhile_cons_of_neg (by simp [h])]

/-- Whatever the clean-up writes is settled. -/
theorem settled_cleanLines {ls : List (List Char)} (hls : ∀ line ∈ ls, '\n' ∉ line) :
    Settled (cleanLines ls) := by
  induction ls with
  | nil => exact .nil
  | cons line more ih =>
    obtain ⟨hline, hmore⟩ := List.forall_mem_cons.mp hls
    cases h : isBlankLine line with
    | true =>
      rw [cleanLines_cons_blank h]
      exact ih hmore
    | false =>
      obtain ⟨c, hlast, hc⟩ := trimEnd_endsVisible h
      have hfirst : Settled (trimEnd line ++ ['\n']) :=
        .line (newline_not_mem_trimEnd hline) hlast hc
      have hsplit : cleanLines (line :: more) =
          trimEnd line ++ ['\n'] ++ writeLines false more := by
        rw [cleanLines_cons h]
        simp
      rw [hsplit]
      rcases writeLines_false_cases more with heq | heq
      · rw [heq]
        exact hfirst.append (ih hmore)
      · rw [heq]
        -- A gap is written only if there is something behind it.
        cases hclean : cleanLines more with
        | nil => simpa [afterGap] using hfirst
        | cons d rest =>
          rw [hclean] at ih
          exact hfirst.append_break (ih hmore) (by simp) (by simp)

/-! ## Section 5: The clean-up of a text -/

/-- The lines of a text that has been cleaned up. -/
def cleanedLines (text : String) : List (List Char) := lines (collapseBlankLines text).toList

theorem lines_cleanLines_between {before blanks after : List (List Char)} {a b : List Char}
    (hls : ∀ line ∈ before ++ a :: (blanks ++ b :: after), '\n' ∉ line)
    (hva : isBlankLine a = false) (hvb : isBlankLine b = false)
    (hblanks : ∀ line ∈ blanks, isBlankLine line = true) :
    ∃ before' after',
      lines (cleanLines (before ++ a :: (blanks ++ b :: after))) =
        before' ++ trimEnd a :: ((if blanks = [] then [] else [[]]) ++ trimEnd b :: after') ∧
      before'.filter (!isBlankLine ·) = keptLines before ∧
      after'.filter (!isBlankLine ·) = keptLines after := by
  have ha : '\n' ∉ a := hls a (by simp)
  have hb : '\n' ∉ b := hls b (by simp)
  have hbefore : ∀ line ∈ before.dropWhile isBlankLine, '\n' ∉ line := fun line hmem =>
    hls line (List.mem_append_left _ ((List.dropWhile_sublist _).mem hmem))
  have hafter : ∀ line ∈ after, '\n' ∉ line := fun line hmem => hls line (by simp [hmem])
  have hlines := lines_writeLines_between false (before.dropWhile isBlankLine) after ha hb hva hvb
    hblanks
  -- The lines dropped at the beginning are blank, so they are all from before `a`.
  rw [← dropWhile_append_visible hva] at hlines
  refine ⟨_, _, hlines, ?_, filter_lines_writeLines false hafter⟩
  rw [List.filter_append, filter_lines_writeLines false hbefore, filter_gapLines,
    keptLines_dropWhile, List.append_nil]

/-- What the clean-up leaves of a text: its lines that are not blank, trimmed and in their order,
    one empty line between two of them if there were blank lines between them and none otherwise, no
    blank line at either end, and a line feed at the end of each line.  Nothing is left if and only
    if all lines are blank, and a second clean-up changes nothing. -/
theorem collapseBlankLines_spec (text : String) :
    (cleanedLines text).filter (!isBlankLine ·) =
        ((lines text.toList).filter (!isBlankLine ·)).map trimEnd ∧
      (∀ before a blanks b after, lines text.toList = before ++ a :: (blanks ++ b :: after) →
        isBlankLine a = false → isBlankLine b = false →
        (∀ line ∈ blanks, isBlankLine line = true) →
        ∃ before' after',
          cleanedLines text =
            before' ++ trimEnd a :: ((if blanks = [] then [] else [[]]) ++ trimEnd b :: after') ∧
          before'.filter (!isBlankLine ·) = (before.filter (!isBlankLine ·)).map trimEnd ∧
          after'.filter (!isBlankLine ·) = (after.filter (!isBlankLine ·)).map trimEnd) ∧
      (∀ line ∈ (cleanedLines text).head?, isBlankLine line = false) ∧
      (∀ line ∈ (cleanedLines text).getLast?, isBlankLine line = false) ∧
      (collapseBlankLines text).toList = (cleanedLines text).flatMap (· ++ ['\n']) ∧
      (collapseBlankLines text = "" ↔ ∀ line ∈ lines text.toList, isBlankLine line = true) ∧
      collapseBlankLines (collapseBlankLines text) = collapseBlankLines text := by
  have hls : ∀ line ∈ lines text.toList, '\n' ∉ line := fun _ => newline_not_mem_of_mem_lines
  have hdrop : ∀ line ∈ (lines text.toList).dropWhile isBlankLine, '\n' ∉ line :=
    fun line hmem => hls line ((List.dropWhile_sublist _).mem hmem)
  -- The last clause rests on this: a pass over a settled text gives the text.
  have hsettled : Settled (collapseBlankLines text).toList := by
    rw [toList_collapseBlankLines]
    exact settled_cleanLines hls
  refine ⟨filter_lines_collapseBlankLines text, ?_, ?_, ?_, ?_, ?_, hsettled.collapseBlankLines_eq⟩
  · intro before a blanks b after heq hva hvb hblanks
    rw [cleanedLines, toList_collapseBlankLines, heq]
    exact lines_cleanLines_between (heq ▸ hls) hva hvb hblanks
  · rw [cleanedLines, toList_collapseBlankLines]
    exact head?_lines_cleanLines hls
  · rw [cleanedLines, toList_collapseBlankLines]
    exact getLast?_lines_writeLines false hdrop
  · rw [cleanedLines, toList_collapseBlankLines]
    exact (flatMap_lines_writeLines false hdrop).symm
  · rw [← String.toList_eq_nil_iff, toList_collapseBlankLines]
    exact cleanLines_eq_nil_iff

/-- A text with blank lines of all sorts, a carriage return inside a line, and no end of its last
    line. -/
def draft : String := "\n a \r\n\t\n\nb\rc \n d"

theorem draft_cleaned_up :
    lines draft.toList = [[]] ++ [' ', 'a', ' '] :: ([['\t'], []] ++
        ['b', '\r', 'c', ' '] :: [[' ', 'd']]) ∧
      (∃ before' after',
        cleanedLines draft = before' ++ [' ', 'a'] :: ([[]] ++ ['b', '\r', 'c'] :: after') ∧
        before'.filter (!isBlankLine ·) = [] ∧
        after'.filter (!isBlankLine ·) = [[' ', 'd']]) ∧
      collapseBlankLines draft = " a\n\nb\rc\n d\n" ∧
      collapseBlankLines (collapseBlankLines draft) = collapseBlankLines draft := by
  have hlines : lines draft.toList = [[]] ++ [' ', 'a', ' '] :: ([['\t'], []] ++
      ['b', '\r', 'c', ' '] :: [[' ', 'd']]) := by cbv
  obtain ⟨-, hbetween, -, -, -, -, hagain⟩ := collapseBlankLines_spec draft
  have h := hbetween _ _ _ _ _ hlines (by decide) (by decide) (by decide)
  exact ⟨hlines, h, by cbv, hagain⟩

end TypeExport.Text
