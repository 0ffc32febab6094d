import TypeExport.Proofs.Declaration.Reading
import TypeExport.Proofs.Declaration.Rendering
import TypeExport.Proofs.Graph.Rebuild

/-! # Comments and Code

    A comment is written as a block of lines.  Section 1 says where `*/` can stand in a text that is
    split into lines, trimmed and indented: where it stood before, since neither of its characters
    is white space and no line is divided between them.  So a block has it at its end and nowhere
    else if and only if it is not in the comment (`Render.endsOnce_comment_iff`).

    Section 3 relates texts that differ by such blocks.  The relation goes over to their lines,
    survives the clean-up of blank lines, and makes no difference to a reader who is in code where a
    block begins. -/

namespace TypeExport

open Text Reading

/-! ## Section 1: Where comments end -/

/-- The two characters stand in the one text, in the other, or one in each. -/
theorem commentEnd_append_iff {xs ys : List Char} :
    commentEnd <:+: xs ++ ys ↔
      commentEnd <:+: xs ∨ commentEnd <:+: ys ∨ ['*'] <:+ xs ∧ ['/'] <+: ys := by
  rw [List.infix_append_iff]
  constructor
  · rintro (h | h | ⟨l, r, heq, hl, hr⟩)
    · exact .inl h
    · exact .inr (.inl h)
    · rcases l with _ | ⟨a, _ | ⟨b, l⟩⟩
      · obtain rfl : commentEnd = r := heq
        exact .inr (.inl hr.isInfix)
      · obtain ⟨rfl, rfl⟩ : '*' = a ∧ ['/'] = r := by simpa [commentEnd] using heq
        exact .inr (.inr ⟨hl, hr⟩)
      · obtain ⟨rfl, rfl, rfl, rfl⟩ : '*' = a ∧ '/' = b ∧ l = [] ∧ r = [] := by
          simpa [commentEnd] using heq
        exact .inl hl.isInfix
  · rintro (h | h | h)
    · exact .inl h
    · exact .inr (.inl h)
    · exact .inr (.inr ⟨['*'], ['/'], rfl, h⟩)

theorem commentEnd_cons_iff {c : Char} {rest : List Char} :
    commentEnd <:+: c :: rest ↔ c = '*' ∧ ['/'] <+: rest ∨ commentEnd <:+: rest := by
  rw [List.infix_cons_iff, commentEnd, List.cons_prefix_cons, eq_comm]

/-- White space is no part of the end of a comment. -/
theorem not_commentEnd_of_blank {blanks : List Char} (h : isBlankLine blanks = true) :
    ¬ commentEnd <:+: blanks := by
  intro hinfix
  have hstar : '*' ∈ blanks := hinfix.subset List.mem_cons_self
  exact absurd (List.all_eq_true.mp h '*' hstar) (by decide)

theorem commentEnd_blanks_append {blanks rest : List Char} (h : isBlankLine blanks = true) :
    commentEnd <:+: blanks ++ rest ↔ commentEnd <:+: rest := by
  have hstar : ¬ ['*'] <:+ blanks := fun hsuffix =>
    absurd (List.all_eq_true.mp h '*' (hsuffix.subset List.mem_cons_self)) (by decide)
  simp [commentEnd_append_iff, not_commentEnd_of_blank h, hstar]

theorem commentEnd_append_blanks {blanks rest : List Char} (h : isBlankLine blanks = true) :
    commentEnd <:+: rest ++ blanks ↔ commentEnd <:+: rest := by
  have hslash : ¬ ['/'] <+: blanks := fun hbegin =>
    absurd (List.all_eq_true.mp h '/' (hbegin.subset List.mem_cons_self)) (by decide)
  simp [commentEnd_append_iff, not_commentEnd_of_blank h, hslash]

theorem commentEnd_trimEnd (line : List Char) :
    commentEnd <:+: trimEnd line ↔ commentEnd <:+: line := by
  have hblanks : isBlankLine (line.rtakeWhile isBlank) = true :=
    List.all_eq_true.mpr fun _ hc => List.mem_rtakeWhile_imp hc
  conv => rhs; rw [← trimEnd_append_blanks line]
  rw [commentEnd_append_blanks hblanks]

/-- The end of a comment stands within a line. -/
theorem commentEnd_flatMap_iff (ls : List (List Char)) :
    commentEnd <:+: ls.flatMap (· ++ ['\n']) ↔ ∃ line ∈ ls, commentEnd <:+: line := by
  induction ls with
  | nil => simp [commentEnd]
  | cons line ls ih =>
    have hnewline : commentEnd <:+: line ++ ['\n'] ↔ commentEnd <:+: line :=
      commentEnd_append_blanks (by decide)
    have hstar : ¬ ['*'] <:+ line ++ ['\n'] := by
      rintro ⟨before, hbefore⟩
      have hlast := congrArg List.getLast? hbefore
      simp at hlast
    rw [List.flatMap_cons, commentEnd_append_iff, hnewline, ih]
    simp [hstar]

/-- A text begins as its first line does, unless with the end of that line. -/
theorem slash_isPrefix_iff {text line : List Char} {more : List (List Char)}
    (h : lines text = line :: more) : ['/'] <+: text ↔ ['/'] <+: line := by
  cases text with
  | nil => exact absurd (h.symm.trans (lines_eq_nil_iff.mpr rfl)) (by simp)
  | cons c rest =>
    rcases lines_cons_cases c rest with ⟨_, heq, rfl | rfl⟩ | ⟨_, _, heq⟩
    · obtain rfl := (List.cons.inj (h.symm.trans heq)).1
      simp
    · obtain rfl := (List.cons.inj (h.symm.trans heq)).1
      simp
    · obtain rfl := (List.cons.inj (h.symm.trans heq)).1
      simp

/-- No line is divided within the end of a comment. -/
theorem commentEnd_lines_iff (text : List Char) :
    commentEnd <:+: text ↔ ∃ line ∈ lines text, commentEnd <:+: line := by
  have hempty : commentEnd ≠ [] := List.cons_ne_nil _ _
  fun_induction lines text with
  | case1 => simp [hempty]
  | case2 rest ih => simp [commentEnd_cons_iff, ih, hempty]
  | case3 rest _ ih => simp [commentEnd_cons_iff, ih, hempty]
  | case4 c rest _ _ hrest =>
    rw [lines_eq_nil_iff.mp hrest]
    simp
  | case5 c rest _ _ line more hrest ih =>
    rw [hrest] at ih
    simp [commentEnd_cons_iff, ih, slash_isPrefix_iff hrest, or_assoc]

/-! ## Section 2: Comment blocks -/

namespace Render

def blanks (depth : Nat) : List Char := List.replicate (4 * depth) ' '

theorem toList_indent (depth : Nat) : (indent depth).toList = List.replicate (4 * depth) ' ' :=
  String.toList_ofList

/-- One line of a comment, without its end. -/
def commentText (depth : Nat) (line : List Char) : List Char :=
  blanks depth ++ ' ' :: '*' :: if isBlankLine line then [] else ' ' :: trimEnd line

/-- The lines of a comment block, without their ends. -/
def commentLines (depth : Nat) (doc : String) : List (List Char) :=
  (blanks depth ++ ['/', '*', '*']) :: (lines doc.toList).map (commentText depth) ++
    [blanks depth ++ [' ', '*', '/']]

theorem isBlankLine_blanks (depth : Nat) : isBlankLine (blanks depth) = true := by
  refine List.all_eq_true.mpr fun c hc => ?_
  rw [List.eq_of_mem_replicate hc]
  decide

theorem toList_commentLine (depth : Nat) (line : List Char) :
    (commentLine depth line).toList = commentText depth line ++ ['\n'] := by
  cases h : isBlankLine line <;> simp [commentLine, commentText, indent, blanks, h]

/-- A comment block consists of its lines. -/
theorem toList_comment (depth : Nat) (doc : String) :
    (comment depth (some doc)).toList = (commentLines depth doc).flatMap (· ++ ['\n']) := by
  simp [comment, commentLines, indent, blanks, List.flatMap_map, toList_commentLine]

/-- The lines of a block hold no line feed and end in something to be seen. -/
theorem commentLines_tidy {depth : Nat} {doc : String} {line : List Char}
    (h : line ∈ commentLines depth doc) :
    '\n' ∉ line ∧ ∃ c, line.getLast? = some c ∧ isBlank c = false := by
  have hblanks : '\n' ∉ blanks depth := fun hmem =>
    absurd (List.eq_of_mem_replicate hmem) (by decide)
  rw [commentLines, List.cons_append, List.mem_cons, List.mem_append, List.mem_map,
    List.mem_singleton] at h
  rcases h with rfl | ⟨text, htext, rfl⟩ | rfl
  · exact ⟨by simp [hblanks], '*', by simp, by decide⟩
  · cases hb : isBlankLine text with
    | true => exact ⟨by simp [commentText, hb, hblanks], '*', by simp [commentText, hb], by decide⟩
    | false =>
      have hnewline : '\n' ∉ trimEnd text :=
        newline_not_mem_trimEnd (newline_not_mem_of_mem_lines htext)
      obtain ⟨c, hlast, hc⟩ := trimEnd_endsVisible hb
      have htext : commentText depth text = blanks depth ++ [' ', '*', ' '] ++ trimEnd text := by
        simp [commentText, hb]
      rw [htext, List.getLast?_append, hlast]
      exact ⟨by simp [hblanks, hnewline], c, rfl, hc⟩
  · exact ⟨by simp [hblanks], '/', by simp, by decide⟩

/-- A comment ends in a line of its block if it ends in the line of the text. -/
theorem commentEnd_commentText (depth : Nat) (line : List Char) :
    commentEnd <:+: commentText depth line ↔ commentEnd <:+: line := by
  rw [commentText, commentEnd_blanks_append (isBlankLine_blanks depth)]
  cases hb : isBlankLine line with
  | true =>
    have hmark : ¬ commentEnd <:+: [' ', '*'] := by decide
    simp [not_commentEnd_of_blank hb, hmark]
  | false => simp [commentEnd_cons_iff, commentEnd_trimEnd]

/-- The block has the end of a comment at its very end and nowhere else. -/
def EndsOnce (block : List Char) : Prop :=
  ∃ body, block = body ++ commentEnd ++ ['\n'] ∧ ¬ commentEnd <:+: body ++ ['*']

/-- What is written for a comment ends where it should if and only if the text of the comment does
    not end it. -/
theorem endsOnce_comment_iff (depth : Nat) (doc : String) :
    EndsOnce (comment depth (some doc)).toList ↔ ¬ commentEnd <:+: doc.toList := by
  let opening := (blanks depth ++ ['/', '*', '*']) :: (lines doc.toList).map (commentText depth)
  let body := opening.flatMap (· ++ ['\n']) ++ (blanks depth ++ [' '])
  have hblock : (comment depth (some doc)).toList = body ++ commentEnd ++ ['\n'] := by
    rw [toList_comment]
    simp [commentLines, body, opening, commentEnd]
  have hbody : commentEnd <:+: body ++ ['*'] ↔ commentEnd <:+: doc.toList := by
    -- With one more line feed the body is a list of lines, and the last one is the new one.
    have hlines : body ++ ['*'] ++ ['\n'] =
        (opening ++ [blanks depth ++ [' ', '*']]).flatMap (· ++ ['\n']) := by
      simp [body]
    have hnewline : commentEnd <:+: body ++ ['*'] ++ ['\n'] ↔ commentEnd <:+: body ++ ['*'] :=
      commentEnd_append_blanks (by decide)
    have hfirst : ¬ commentEnd <:+: ['/', '*', '*'] := by decide
    have hlast : ¬ commentEnd <:+: [' ', '*'] := by decide
    rw [← hnewline, hlines, commentEnd_flatMap_iff, commentEnd_lines_iff]
    simp [opening, commentEnd_blanks_append (isBlankLine_blanks depth), commentEnd_commentText,
      hfirst, hlast]
  constructor
  · rintro ⟨body', heq, hno⟩ hdoc
    obtain rfl : body = body' :=
      List.append_cancel_right (List.append_cancel_right (hblock.symm.trans heq))
    exact hno (hbody.mpr hdoc)
  · exact fun hdoc => ⟨body, hblock, hbody.not.mpr hdoc⟩

/-- A block comment goes on through lines in which it does not end. -/
theorem codeOf_block {ls : List (List Char)} (h : ∀ line ∈ ls, ¬ commentEnd <:+: line)
    (rest : List (List Char)) : codeOf .block (ls ++ rest) = codeOf .block rest := by
  induction ls with
  | nil => rfl
  | cons line ls ih =>
    obtain ⟨hline, hls⟩ := List.forall_mem_cons.mp h
    rw [List.cons_append, codeOf_cons_blank (readLine_block hline) rfl, ih hls]

/-- A block that is opened in code is read over, and leads back to code. -/
theorem codeOf_commentLines {depth : Nat} {doc : String} (h : ¬ commentEnd <:+: doc.toList)
    (rest : List (List Char)) :
    codeOf .code (commentLines depth doc ++ rest) = codeOf .code rest := by
  have hopen : readLine .code (blanks depth ++ ['/', '*', '*']) = (blanks depth, .block) := by
    rw [readLine_code_blanks (isBlankLine_blanks depth), readLine_open, readLine_block (by decide)]
    simp [Prod.map]
  have hclose : readLine .block (blanks depth ++ [' ', '*', '/']) = ([], .code) := by
    have hmark : ¬ commentEnd <:+: blanks depth ++ [' '] ++ ['*'] := by
      rw [List.append_assoc, commentEnd_blanks_append (isBlankLine_blanks depth)]
      decide
    have hread := readLine_block_append hmark []
    rw [List.append_assoc, readLine_nil] at hread
    exact hread
  -- No line closes the comment, since the text as a whole does not.
  have hlines : ∀ line ∈ (lines doc.toList).map (commentText depth), ¬ commentEnd <:+: line := by
    rintro _ hmem
    obtain ⟨line, hline, rfl⟩ := List.mem_map.mp hmem
    rw [commentEnd_commentText]
    exact fun hinfix => h ((commentEnd_lines_iff _).mpr ⟨line, hline, hinfix⟩)
  rw [commentLines, List.append_assoc, List.cons_append,
    codeOf_cons_blank hopen (isBlankLine_blanks depth), codeOf_block hlines, List.cons_append,
    codeOf_cons_blank hclose rfl, List.nil_append]

end Render

/-! ## Section 3: Texts with comments -/

open Render

/-- The second text is the first one with comment blocks after some of its line feeds.  What they
    are written for satisfies `P`. -/
inductive Commented (P : String → Prop) : List Char → List Char → Prop
  | nil : Commented P [] []
  | char {plain full} (c : Char) (h : Commented P plain full) :
    Commented P (c :: plain) (c :: full)
  | block {plain full} (depth : Nat) {doc : String} (hdoc : P doc) (h : Commented P plain full) :
    Commented P ('\n' :: plain) ('\n' :: ((comment depth (some doc)).toList ++ full))

/-- The same for lists of lines. -/
inductive CommentedLines (P : String → Prop) : List (List Char) → List (List Char) → Prop
  | nil : CommentedLines P [] []
  | line {plain full} (line : List Char) (h : CommentedLines P plain full) :
    CommentedLines P (line :: plain) (line :: full)
  | block {plain full} (depth : Nat) {doc : String} (hdoc : P doc)
    (h : CommentedLines P plain full) :
    CommentedLines P plain (commentLines depth doc ++ full)

variable {P : String → Prop}

theorem Commented.refl (text : List Char) : Commented P text text := by
  induction text with
  | nil => exact .nil
  | cons c rest ih => exact .char c ih

theorem Commented.append {plain full plain' full' : List Char} (h : Commented P plain full)
    (h' : Commented P plain' full') : Commented P (plain ++ plain') (full ++ full') := by
  induction h with
  | nil => exact h'
  | char c _ ih => exact .char c ih
  | block depth hdoc _ ih =>
    rw [List.cons_append, List.cons_append, List.append_assoc]
    exact .block depth hdoc ih

theorem CommentedLines.refl (ls : List (List Char)) : CommentedLines P ls ls := by
  induction ls with
  | nil => exact .nil
  | cons line rest ih => exact .line line ih

theorem CommentedLines.append_left (ls : List (List Char)) {plain full : List (List Char)}
    (h : CommentedLines P plain full) : CommentedLines P (ls ++ plain) (ls ++ full) := by
  induction ls with
  | nil => exact h
  | cons line ls ih => exact .line line ih

/-- The lines of a block stand for themselves. -/
theorem lines_comment_append (depth : Nat) (doc : String) (rest : List Char) :
    lines ((comment depth (some doc)).toList ++ rest) = commentLines depth doc ++ lines rest := by
  rw [toList_comment]
  refine lines_flatMap (fun line hline => ?_) rest
  obtain ⟨hnewline, c, hlast, hc⟩ := commentLines_tidy hline
  refine ⟨hnewline, ?_⟩
  rw [hlast]
  rintro heq
  obtain rfl := Option.some.inj heq
  exact absurd hc (by decide)

/-- Blocks in a text are blocks between its lines.  In front of the texts stands the beginning of
    their first line. -/
theorem Commented.lines {plain full : List Char} (h : Commented P plain full)
    (start : List Char) :
    CommentedLines P (Text.lines (start ++ plain)) (Text.lines (start ++ full)) := by
  induction h generalizing start with
  | nil => exact .refl _
  | char c _ ih => simpa using ih (start ++ [c])
  | @block plain full depth doc hdoc _ ih =>
    rw [lines_append_newline start plain, lines_append_newline start (_ ++ full),
      lines_comment_append]
    exact .append_left _ (.block depth hdoc (ih []))

/-- The lines of a block are not blank and have nothing at their ends to be cut off. -/
theorem keptLines_commentLines (depth : Nat) (doc : String) :
    keptLines (commentLines depth doc) = commentLines depth doc := by
  have htidy := @commentLines_tidy depth doc
  generalize commentLines depth doc = ls at htidy
  induction ls with
  | nil => rfl
  | cons line rest ih =>
    obtain ⟨-, c, hlast, hc⟩ := htidy List.mem_cons_self
    rw [keptLines_closed hlast hc, ih fun hmem => htidy (List.mem_cons_of_mem _ hmem)]

/-- The clean-up of blank lines leaves blocks as they are. -/
theorem CommentedLines.keptLines {plain full : List (List Char)}
    (h : CommentedLines P plain full) :
    CommentedLines P (Text.keptLines plain) (Text.keptLines full) := by
  induction h with
  | nil => exact .nil
  | line line _ ih =>
    cases hb : isBlankLine line with
    | true => rwa [keptLines_cons_blank hb, keptLines_cons_blank hb]
    | false =>
      rw [keptLines_cons hb, keptLines_cons hb]
      exact .line _ ih
  | block depth hdoc _ ih =>
    rw [keptLines_append, keptLines_commentLines]
    exact .block depth hdoc ih

/-- Comments that do not end early make no difference to the code, if they are opened in code. -/
theorem CommentedLines.codeOf_eq {plain full : List (List Char)} (h : CommentedLines P plain full)
    (hP : ∀ doc, P doc → ¬ commentEnd <:+: doc.toList) (hplain : StaysInCode plain) :
    codeOf .code full = codeOf .code plain := by
  induction h with
  | nil => rfl
  | line line _ ih =>
    obtain ⟨hline, hrest⟩ := List.forall_mem_cons.mp hplain
    rw [codeOf_cons, codeOf_cons, hline, ih hrest]
  | block depth hdoc _ ih => rw [codeOf_commentLines (hP _ hdoc), ih hplain]

end TypeExport
