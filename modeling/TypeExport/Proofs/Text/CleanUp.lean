import TypeExport.Proofs.Text.Spelling

/-! # Laws of the Clean-Up

    The clean-up of blank lines goes over a whole text, and what it makes of a text has to be known
    from what it makes of the pieces.  Two laws do that.

    The first one is about texts that stand apart: with an empty line between them, each of them is
    cleaned up for itself, and an empty line is left between the results if there is something on
    both sides (`collapseBlankLines_break`).  Nothing is demanded of the two texts.

    The second one is about texts that the clean-up leaves alone.  Such a text is `Settled`: the
    clean-up passes over it and has no gap to remember at its end.  Settled texts can be put
    together, directly or with an empty line between them, and lines that end in something visible
    are settled. -/

namespace TypeExport.Text

/-! ## Section 1: Texts with an empty line between them -/

/-- What is written of lines when nothing has been written before them. -/
def cleanLines (ls : List (List Char)) : List Char := writeLines false (ls.dropWhile isBlankLine)

/-- The empty line in front of a text, which is not written when no text follows. -/
def afterGap : List Char → List Char
  | [] => []
  | c :: rest => '\n' :: c :: rest

theorem toList_collapseBlankLines (text : String) :
    (collapseBlankLines text).toList = cleanLines (lines text.toList) := String.toList_ofList

theorem cleanLines_cons_blank {line : List Char} (h : isBlankLine line = true)
    (more : List (List Char)) : cleanLines (line :: more) = cleanLines more := by
  rw [cleanLines, List.dropWhile_cons_of_pos h, cleanLines]

theorem cleanLines_cons {line : List Char} (h : isBlankLine line = false)
    (more : List (List Char)) :
    cleanLines (line :: more) = trimEnd line ++ '\n' :: writeLines false more := by
  rw [cleanLines, List.dropWhile_cons_of_neg (by simp [h]), writeLines, h]
  rfl

/-- A gap is written once, and only if something comes after it. -/
theorem writeLines_true (ls : List (List Char)) :
    writeLines true ls = afterGap (cleanLines ls) := by
  -- Blank lines keep the gap open, and the first other line closes it.
  induction ls with
  | nil => rfl
  | cons line more ih =>
    cases h : isBlankLine line with
    | true => rw [writeLines, if_pos h, ih, cleanLines_cons_blank h]
    | false =>
      rw [writeLines, h, cleanLines_cons h]
      show '\n' :: (trimEnd line ++ '\n' :: writeLines false more) = _
      cases trimEnd line <;> rfl

/-- So what is written after a gap says what is written at the beginning. -/
theorem cleanLines_congr {ls ls' : List (List Char)}
    (h : writeLines true ls = writeLines true ls') : cleanLines ls = cleanLines ls' := by
  rw [writeLines_true, writeLines_true] at h
  generalize cleanLines ls = text, cleanLines ls' = text' at h
  cases text <;> cases text' <;> simp_all [afterGap]

/-- The flag after the lines have been passed. -/
def gapAfter (gap : Bool) : List (List Char) → Bool
  | [] => gap
  | line :: more => gapAfter (isBlankLine line) more

/-- Of the lines before, later ones see the flag and nothing else. -/
theorem writeLines_append (gap : Bool) (ls more : List (List Char)) :
    writeLines gap (ls ++ more) = writeLines gap ls ++ writeLines (gapAfter gap ls) more := by
  induction ls generalizing gap with
  | nil => rfl
  | cons line ls ih =>
    rw [List.cons_append, writeLines, writeLines, gapAfter]
    cases h : isBlankLine line with
    | true => exact ih true
    | false =>
      show (if gap then ['\n'] else []) ++ trimEnd line ++ '\n' :: writeLines false (ls ++ more) = _
      rw [ih false]
      simp

/-- After an empty line it does not matter whether there was a gap before. -/
theorem writeLines_append_break (gap : Bool) (ls more : List (List Char)) :
    writeLines gap (ls ++ [] :: more) = writeLines gap ls ++ writeLines true more := by
  have hblank : isBlankLine [] = true := rfl
  rw [writeLines_append, writeLines, if_pos hblank]

/-- Lines before an empty line and lines after it are cleaned up each for themselves. -/
theorem cleanLines_append_break (ls more : List (List Char)) :
    cleanLines (ls ++ [] :: more) = cleanLines ls ++
      if cleanLines ls = [] then cleanLines more else afterGap (cleanLines more) := by
  induction ls with
  | nil => rw [List.nil_append, cleanLines_cons_blank rfl]; rfl
  | cons line ls ih =>
    cases h : isBlankLine line with
    | true => rw [List.cons_append, cleanLines_cons_blank h, cleanLines_cons_blank h, ih]
    | false =>
      rw [List.cons_append, cleanLines_cons h, cleanLines_cons h, writeLines_append_break,
        writeLines_true, if_neg (by simp), List.append_assoc, List.cons_append]

/-! ## Section 2: The end of the last line -/

theorem trimEnd_append_blank {blanks : List Char} (h : isBlankLine blanks = true)
    (line : List Char) : trimEnd (line ++ blanks) = trimEnd line := by
  have hblanks : ∀ c ∈ blanks.reverse, isBlank c = true := fun c hc =>
    List.all_eq_true.mp h c (List.mem_reverse.mp hc)
  rw [trimEnd, List.reverse_append, List.dropWhile_append_of_pos hblanks, trimEnd]

theorem trimEnd_trimEnd (line : List Char) : trimEnd (trimEnd line) = trimEnd line :=
  trimEnd_eq_self fun _ h => isBlank_of_getLast?_trimEnd h

/-- White space at the end is cut off whatever stands before. -/
theorem trimEnd_cons_congr {line line' : List Char} (h : trimEnd line = trimEnd line') (c : Char) :
    trimEnd (c :: line) = trimEnd (c :: line') := by
  have hcut : ∀ l : List Char, trimEnd (c :: l) = trimEnd (c :: trimEnd l) := by
    intro l
    have hblanks : isBlankLine (l.rtakeWhile isBlank) = true :=
      List.all_eq_true.mpr fun _ hc => List.mem_rtakeWhile_imp hc
    have htrim := trimEnd_append_blank hblanks (c :: trimEnd l)
    rwa [List.cons_append, trimEnd_append_blanks] at htrim
  rw [hcut line, hcut line', h]

/-- One more line feed ends the last line, or it adds an empty line.  A carriage return that stood
    at the end is no longer part of the line, which makes no difference once lines are trimmed. -/
theorem lines_append_end (text : List Char) : ∃ last, (∀ line ∈ last, isBlankLine line = true) ∧
    (lines (text ++ ['\n'])).map trimEnd = (lines text).map trimEnd ++ last := by
  fun_induction lines text with
  | case1 => exact ⟨[[]], by decide, by rw [List.nil_append, lines_newline, lines]; rfl⟩
  -- A line that ends here is not touched by what comes behind the text.
  | case2 rest ih =>
    obtain ⟨last, hlast, heq⟩ := ih
    refine ⟨last, hlast, ?_⟩
    rw [List.cons_append, List.cons_append, lines_return_newline, List.map_cons, heq]
    rfl
  | case3 rest _ ih =>
    obtain ⟨last, hlast, heq⟩ := ih
    refine ⟨last, hlast, ?_⟩
    rw [List.cons_append, lines_newline, List.map_cons, heq]
    rfl
  | case4 c rest _ hc hrest =>
    obtain rfl := lines_eq_nil_iff.mp hrest
    refine ⟨[], by simp, ?_⟩
    by_cases hr : c = '\r'
    · -- Together with the line feed the carriage return is the end of an empty line.
      subst hr
      rw [List.singleton_append, lines_return_newline, lines]
      decide
    · have hline : lines ([c] ++ '\n' :: []) = [c] :: lines [] :=
        lines_line (by simpa using fun h => hc h.symm) (by simpa using hr) []
      rw [hline, lines]
      rfl
  | case5 c rest hreturn hc line more hrest ih =>
    obtain ⟨last, hlast, heq⟩ := ih
    refine ⟨last, hlast, ?_⟩
    -- The line goes on, so with the line feed its beginning is still the beginning of a line.
    obtain ⟨d, rest, rfl⟩ := List.exists_cons_of_ne_nil
      (fun hnil => absurd (hrest.symm.trans (lines_eq_nil_iff.mpr hnil)) (by simp))
    obtain ⟨first, others, hfirst⟩ := List.exists_cons_of_ne_nil
      (fun hnil => absurd (lines_eq_nil_iff.mp hnil) (by simp) : lines (d :: rest ++ ['\n']) ≠ [])
    have hne : ¬ BeginsWithEnd c (d :: rest ++ ['\n']) := by
      rw [BeginsWithEnd.append_iff]
      rintro (h | ⟨rfl, h⟩)
      · exact hc h
      · exact hreturn rest rfl (by simpa using h)
    rw [hfirst, hrest, List.map_cons, List.map_cons, List.cons_append] at heq
    obtain ⟨hhead, htail⟩ := List.cons.inj heq
    rw [List.cons_append, lines_cons hne hfirst, List.map_cons, List.map_cons, List.cons_append,
      trimEnd_cons_congr hhead, htail]

/-- Lines are trimmed when they are written, so they may be trimmed before. -/
theorem writeLines_map_trimEnd (gap : Bool) (ls : List (List Char)) :
    writeLines gap (ls.map trimEnd) = writeLines gap ls := by
  induction ls generalizing gap with
  | nil => rfl
  | cons line more ih =>
    rw [List.map_cons, writeLines, writeLines, isBlankLine_trimEnd, trimEnd_trimEnd, ih, ih]

theorem writeLines_blank {ls : List (List Char)} (h : ∀ line ∈ ls, isBlankLine line = true)
    (gap : Bool) : writeLines gap ls = [] := by
  induction ls generalizing gap with
  | nil => rfl
  | cons line more ih =>
    obtain ⟨hline, hmore⟩ := List.forall_mem_cons.mp h
    rw [writeLines, if_pos hline, ih hmore]

/-- Blank lines at the end are dropped. -/
theorem writeLines_append_blank {last : List (List Char)}
    (h : ∀ line ∈ last, isBlankLine line = true) (gap : Bool) (ls : List (List Char)) :
    writeLines gap (ls ++ last) = writeLines gap ls := by
  rw [writeLines_append, writeLines_blank h, List.append_nil]

/-- A line feed at the end of a text makes no difference. -/
theorem cleanLines_append_end (text : List Char) :
    cleanLines (lines (text ++ ['\n'])) = cleanLines (lines text) := by
  obtain ⟨last, hlast, heq⟩ := lines_append_end text
  refine cleanLines_congr ?_
  rw [← writeLines_map_trimEnd, heq, writeLines_append_blank hlast, writeLines_map_trimEnd]

/-! ## Section 3: Texts that stand apart -/

/-- The one text after the other, with an empty line between them if there is something on both
    sides. -/
def apart (before after : String) : String :=
  before ++ (if before = "" ∨ after = "" then "" else "\n") ++ after

theorem apart_empty (after : String) : apart "" after = after := by simp [apart]

/-- Texts with an empty line between them are cleaned up each for itself. -/
theorem collapseBlankLines_break (before after : String) :
    collapseBlankLines (before ++ "\n\n" ++ after) =
      apart (collapseBlankLines before) (collapseBlankLines after) := by
  have hsplit : lines (before ++ "\n\n" ++ after).toList =
      lines (before.toList ++ ['\n']) ++ [] :: lines after.toList := by
    -- The first line feed ends the last line of the one text, the second one an empty line.
    have hbreak : "\n\n".toList = ['\n', '\n'] := rfl
    rw [String.toList_append, String.toList_append, hbreak, List.append_assoc]
    show lines (before.toList ++ '\n' :: '\n' :: after.toList) = _
    rw [lines_append_newline, lines_newline]
  have hempty : ∀ text : String, text = "" ↔ text.toList = [] := by simp
  apply String.toList_injective
  rw [toList_collapseBlankLines, hsplit, cleanLines_append_break, cleanLines_append_end]
  simp only [apart, String.toList_append, hempty, toList_collapseBlankLines]
  cases cleanLines (lines before.toList) <;> cases cleanLines (lines after.toList) <;>
    simp [afterGap]

/-! ## Section 4: Settled texts -/

/-- The clean-up passes over the text, writes it as it stands, and remembers no gap after it. -/
structure Settled (text : List Char) : Prop where
  endsLine : EndsLine text
  writeLines_append : ∀ gap more, text ≠ [] →
    writeLines gap (lines text ++ more) =
      (if gap then ['\n'] else []) ++ (text ++ writeLines false more)

theorem Settled.nil : Settled [] := ⟨.inl rfl, fun _ _ h => absurd rfl h⟩

/-- A settled text goes through the clean-up unchanged. -/
theorem Settled.cleanLines_eq {text : List Char} (h : Settled text) :
    cleanLines (lines text) = text := by
  by_cases hnil : text = []
  · subst hnil
    rw [lines]
    rfl
  · -- Its first line is not blank: after a gap it is written with an empty line in front.
    have hgap : writeLines true (lines text) = '\n' :: text := by
      have happend := h.writeLines_append true [] hnil
      rw [List.append_nil, writeLines, List.append_nil] at happend
      exact happend
    rw [writeLines_true] at hgap
    cases hclean : cleanLines (lines text) with
    | nil => exact absurd (hclean ▸ hgap) (by simp [afterGap])
    | cons c rest =>
      rw [hclean] at hgap
      exact (List.cons.inj hgap).2

theorem Settled.collapseBlankLines_eq {text : String} (h : Settled text.toList) :
    collapseBlankLines text = text := by
  apply String.toList_injective
  rw [toList_collapseBlankLines, h.cleanLines_eq]

/-- After an empty line a settled text is found again as it is. -/
theorem Settled.collapseBlankLines_break {after : String} (h : Settled after.toList)
    (before : String) :
    collapseBlankLines (before ++ "\n\n" ++ after) = apart (collapseBlankLines before) after := by
  rw [Text.collapseBlankLines_break, h.collapseBlankLines_eq]

/-- Settled texts can be written one after the other. -/
theorem Settled.append {xs ys : List Char} (hxs : Settled xs) (hys : Settled ys) :
    Settled (xs ++ ys) := by
  refine ⟨hxs.endsLine.append hys.endsLine, fun gap more hne => ?_⟩
  rw [hxs.endsLine.lines_append, List.append_assoc]
  by_cases hx : xs = []
  · subst hx
    rw [List.nil_append] at hne ⊢
    exact hys.writeLines_append gap more hne
  · rw [hxs.writeLines_append gap _ hx]
    by_cases hy : ys = []
    · subst hy
      rw [lines, List.nil_append, List.append_nil]
    · rw [hys.writeLines_append false more hy]
      simp

/-- They can also be written with an empty line between them. -/
theorem Settled.append_break {xs ys : List Char} (hxs : Settled xs) (hys : Settled ys)
    (hx : xs ≠ []) (hy : ys ≠ []) : Settled (xs ++ '\n' :: ys) := by
  have hend : EndsLine ('\n' :: ys) := EndsLine.append (.inr ⟨[], rfl⟩) hys.endsLine
  refine ⟨hxs.endsLine.append hend, fun gap more _ => ?_⟩
  rw [hxs.endsLine.lines_append, lines_newline, List.append_assoc,
    hxs.writeLines_append gap _ hx, List.cons_append, writeLines]
  show _ ++ (xs ++ writeLines true (lines ys ++ more)) = _
  rw [hys.writeLines_append true more hy]
  simp

/-- A line that ends in something visible is settled. -/
theorem Settled.line {line : List Char} {c : Char} (hline : '\n' ∉ line)
    (hlast : line.getLast? = some c) (hc : isBlank c = false) : Settled (line ++ ['\n']) := by
  refine ⟨.inr ⟨line, rfl⟩, fun gap more _ => ?_⟩
  obtain ⟨hblank, htrim⟩ := isBlankLine_closed hlast hc
  rw [lines_closed hline hlast hc, lines, List.singleton_append, writeLines, hblank, htrim]
  simp

/-- So are many of them. -/
theorem Settled.of_closesLines {text : List Char} (h : ClosesLines text) (hend : EndsLine text) :
    Settled text := by
  refine ClosesLines.induction (motive := Settled) .nil ?_ h hend
  intro line rest c hline hlast hc ih
  have hsettled := (Settled.line hline hlast hc).append ih
  rwa [List.append_assoc, List.singleton_append] at hsettled

end TypeExport.Text
