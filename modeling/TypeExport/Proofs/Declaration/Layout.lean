import TypeExport.Proofs.Declaration.Documentation
import TypeExport.Proofs.Text.CleanUp

/-! # The Layout of a File

    The text of a file is put together from the texts of its declarations.  Two things could come
    between.  A declaration inside a namespace is written at a deeper nesting, so its text is not
    the same; and the clean-up of blank lines goes over the whole file when everything is written.

    Neither does any harm as long as the names and literals that are copied into the text hold no
    line feed.  `Laid` says what is known of the text of a piece at one nesting and at the next: the
    second one is the first one with four spaces before every line that is not empty, and in the
    first one every line ends in something visible.  It is proved for pieces along the recursion of
    the renderer.  The first half is the indentation of a whole declaration, and by the second half
    a declaration is settled, so that the clean-up leaves it as it is. -/

namespace TypeExport

open Text

/-! ## Section 1: Names and literals -/

namespace TypeNode

mutual

/-- The names and literals in the node.  Names of members are not among them: a name that is no
    identifier is quoted. -/
def words : TypeNode → List String
  | .simple name => [name]
  | .void => []
  | .array params => wordsOfAll params
  | .map params => wordsOfAll params
  | .interface name _ members => name :: wordsOfMembers members
  | .enum name _ members => name :: members.map (·.value)

def wordsOfAll : List TypeNode → List String
  | [] => []
  | n :: rest => words n ++ wordsOfAll rest

def wordsOfMembers : List Member → List String
  | [] => []
  | ⟨_, type, _, _, _, args⟩ :: rest => words type ++ wordsOfArgs args ++ wordsOfMembers rest

/-- Those of parameters, with the names of the parameters. -/
def wordsOfArgs : List Arg → List String
  | [] => []
  | ⟨name, type⟩ :: rest => name :: words type ++ wordsOfArgs rest

end

end TypeNode

/-- None of the texts goes over the end of a line. -/
def OneLine (texts : List String) : Prop := ∀ text ∈ texts, '\n' ∉ text.toList

instance (texts : List String) : Decidable (OneLine texts) :=
  inferInstanceAs (Decidable (∀ text ∈ texts, '\n' ∉ text.toList))

theorem oneLine_cons {text : String} {texts : List String} :
    OneLine (text :: texts) ↔ '\n' ∉ text.toList ∧ OneLine texts := List.forall_mem_cons

theorem oneLine_append {texts texts' : List String} :
    OneLine (texts ++ texts') ↔ OneLine texts ∧ OneLine texts' := List.forall_mem_append

/-! ## Section 2: Indentation -/

/-- Four spaces before every line that is not empty.  `begins` tells that a line begins here. -/
def shiftLines (begins : Bool) : List Char → List Char
  | [] => []
  | c :: rest =>
    if c = '\n' then '\n' :: shiftLines true rest
    else (if begins then [' ', ' ', ' ', ' '] else []) ++ c :: shiftLines false rest

/-- A text with four spaces before every line that is not empty. -/
def indentLines (text : String) : String := String.ofList (shiftLines true text.toList)

theorem shiftLines_newline (begins : Bool) (rest : List Char) :
    shiftLines begins ('\n' :: rest) = '\n' :: shiftLines true rest := by
  rw [shiftLines, if_pos rfl]

/-- Within a line nothing is put in. -/
theorem shiftLines_append {word : List Char} (h : '\n' ∉ word) (rest : List Char) :
    shiftLines false (word ++ rest) = word ++ shiftLines false rest := by
  induction word with
  | nil => rfl
  | cons c word ih =>
    rw [List.mem_cons, not_or] at h
    rw [List.cons_append, shiftLines, if_neg (Ne.symm h.1), ih h.2]
    rfl

/-- What stands at the beginning of a line is shifted as a whole. -/
theorem shiftLines_begin {word : List Char} (h : '\n' ∉ word) (hne : word ≠ [])
    (rest : List Char) :
    shiftLines true (word ++ rest) = [' ', ' ', ' ', ' '] ++ word ++ shiftLines false rest := by
  obtain ⟨c, word, rfl⟩ := List.exists_cons_of_ne_nil hne
  rw [List.mem_cons, not_or] at h
  rw [List.cons_append, shiftLines, if_neg (Ne.symm h.1), shiftLines_append h.2]
  rfl

theorem toList_indent_succ (depth : Nat) :
    (Render.indent (depth + 1)).toList = [' ', ' ', ' ', ' '] ++ (Render.indent depth).toList := by
  rw [Render.toList_indent, Render.toList_indent, Nat.mul_succ, Nat.add_comm, List.replicate_add]
  rfl

/-- The last character of the text is visible. -/
def EndsVisible (text : String) : Prop := ∃ c, text.toList.getLast? = some c ∧ isBlank c = false

theorem EndsVisible.append (before : String) {text : String} (h : EndsVisible text) :
    EndsVisible (before ++ text) := by
  obtain ⟨c, hlast, hc⟩ := h
  exact ⟨c, by rw [String.toList_append, List.getLast?_append, hlast]; rfl, hc⟩

/-- `s` is a piece of text at one nesting, and `t` is the same piece one level further in.  Whether
    a line begins at the piece and after it is told by `b` and `e`. -/
structure Laid (b e : Bool) (s t : String) : Prop where
  shift : ∀ rest, shiftLines b (s.toList ++ rest) = t.toList ++ shiftLines e rest
  closed : ClosesLines s.toList

namespace Laid

variable {b e m : Bool} {s t s' t' : String}

theorem empty (b : Bool) : Laid b b "" "" := ⟨fun _ => rfl, .of_not_mem (by simp)⟩

/-- A piece within a line. -/
theorem word (h : '\n' ∉ s.toList) : Laid false false s s := ⟨shiftLines_append h, .of_not_mem h⟩

theorem append (h : Laid b m s t) (h' : Laid m e s' t') : Laid b e (s ++ s') (t ++ t') := by
  refine ⟨fun rest => ?_, ?_⟩
  · rw [String.toList_append, String.toList_append, List.append_assoc, h.shift, h'.shift,
      List.append_assoc]
  · rw [String.toList_append]
    exact h.closed.append h'.closed

/-- White space at the beginning of a line, and what comes after it. -/
theorem indented (depth : Nat) (h : '\n' ∉ s.toList) (hne : s ≠ "") :
    Laid true false (Render.indent depth ++ s) (Render.indent (depth + 1) ++ s) := by
  have hline : '\n' ∉ (Render.indent depth ++ s).toList := by
    simp [Render.toList_indent, h]
  refine ⟨fun rest => ?_, .of_not_mem hline⟩
  rw [shiftLines_begin hline (by simp [hne]), String.toList_append, String.toList_append,
    toList_indent_succ]
  simp only [List.append_assoc]

/-- The end of a line. -/
theorem newline (h : Laid b false s t) (hvisible : EndsVisible s) :
    Laid b true (s ++ "\n") (t ++ "\n") := by
  have hnewline : "\n".toList = ['\n'] := rfl
  refine ⟨fun rest => ?_, ?_⟩
  · rw [String.toList_append, String.toList_append, List.append_assoc, h.shift, hnewline,
      List.singleton_append, shiftLines_newline, List.append_assoc]
    rfl
  · obtain ⟨c, hlast, hc⟩ := hvisible
    rw [String.toList_append, hnewline]
    exact h.closed.newline hlast hc

/-- Lines one after the other. -/
theorem join {α : Type} {f g : α → String} {xs : List α}
    (h : ∀ x ∈ xs, Laid true true (f x) (g x)) :
    Laid true true (String.join (xs.map f)) (String.join (xs.map g)) := by
  induction xs with
  | nil => exact .empty true
  | cons x xs ih =>
    obtain ⟨hx, hxs⟩ := List.forall_mem_cons.mp h
    rw [List.map_cons, List.map_cons, String.join_cons, String.join_cons]
    exact hx.append (ih hxs)

/-- Pieces of one line with separators between them. -/
theorem intercalate {sep : String} (hsep : '\n' ∉ sep.toList) {xs ys : List String}
    (h : List.Forall₂ (Laid false false) xs ys) :
    Laid false false (sep.intercalate xs) (sep.intercalate ys) := by
  induction h with
  | nil => exact .empty false
  | @cons x y xs ys hxy h ih =>
    cases h with
    | nil => simpa using hxy
    | cons =>
      rw [String.intercalate_cons_cons, String.intercalate_cons_cons]
      exact (hxy.append (.word hsep)).append ih

end Laid

/-! ## Section 3: Pieces of a declaration -/

namespace Render

theorem commentLine_laid (depth : Nat) {line : List Char} (h : '\n' ∉ line) :
    Laid true true (commentLine depth line) (commentLine (depth + 1) line) := by
  let mark := " *" ++ if isBlankLine line then "" else " " ++ String.ofList (trimEnd line)
  have hline : ∀ d, commentLine d line = indent d ++ mark ++ "\n" := by
    intro d
    simp only [commentLine, mark, String.append_assoc]
  -- A trimmed line ends in something visible, and so does the mark alone.
  have hmark : '\n' ∉ mark.toList ∧ EndsVisible mark := by
    simp only [mark]
    split
    · exact ⟨by decide, '*', rfl, by decide⟩
    · rename_i hblank
      have hnewline : '\n' ∉ trimEnd line := newline_not_mem_trimEnd h
      obtain ⟨c, hlast, hc⟩ := trimEnd_endsVisible (by simpa using hblank)
      refine ⟨by simpa using hnewline, .append _ (.append _ ⟨c, ?_, hc⟩)⟩
      rw [String.toList_ofList, hlast]
  rw [hline, hline]
  refine (Laid.indented depth hmark.1 ?_).newline (.append _ hmark.2)
  simp [mark]

/-- A comment has its lines at every nesting. -/
theorem comment_laid (depth : Nat) (doc : Option String) :
    Laid true true (comment depth doc) (comment (depth + 1) doc) := by
  cases doc with
  | none => exact .empty true
  | some text =>
    have hopen : Laid true true (indent depth ++ "/**" ++ "\n")
        (indent (depth + 1) ++ "/**" ++ "\n") :=
      (Laid.indented depth (by decide) (by decide)).newline (.append _ ⟨'*', rfl, by decide⟩)
    have hlines := Laid.join fun line hline =>
      commentLine_laid depth (@newline_not_mem_of_mem_lines text.toList line hline)
    have hclose : Laid true true (indent depth ++ " */" ++ "\n")
        (indent (depth + 1) ++ " */" ++ "\n") :=
      (Laid.indented depth (by decide) (by decide)).newline (.append _ ⟨'/', rfl, by decide⟩)
    have hall := (hopen.append hlines).append hclose
    -- Each line feed belongs to the line before it, and not to the text that is written with it.
    have hends : "/**\n" = "/**" ++ "\n" ∧ " */\n" = " */" ++ "\n" := ⟨rfl, rfl⟩
    simpa only [comment, hends, String.append_assoc] using hall

theorem block_laid (depth : Nat) (empty : Bool) {body body' : String}
    (h : Laid true true body body') :
    Laid false false (block depth empty body) (block (depth + 1) empty body') := by
  cases empty with
  | true =>
    show Laid false false "\x7b\x7d" "\x7b\x7d"
    exact .word (by decide)
  | false =>
    -- Both braces end a line, and only the closing one is indented.
    have hopen : Laid false true ("\x7b" ++ "\n") ("\x7b" ++ "\n") :=
      (Laid.word (by decide)).newline ⟨'\x7b', rfl, by decide⟩
    have hclose : Laid true false (indent depth ++ "\x7d") (indent (depth + 1) ++ "\x7d") :=
      .indented depth (by decide) (by decide)
    have hall := (hopen.append h).append hclose
    have hbrace : "\x7b\n" = "\x7b" ++ "\n" := rfl
    simpa only [block, hbrace, Bool.false_eq_true, if_false, String.append_assoc] using hall

theorem memberName_ne_empty (name : String) : memberName name ≠ "" := by
  unfold memberName
  split
  · rename_i h
    rintro rfl
    exact absurd h (by decide)
  · intro h
    have hquote := congrArg String.toList h
    rw [toList_quote] at hquote
    exact absurd hquote (by simp)

theorem memberLine_laid (depth : Nat) (mem : Member) {ps ps' : List String} {t t' : String}
    (hps : List.Forall₂ (Laid false false) ps ps') (ht : Laid false false t t') :
    Laid true true (memberLine depth mem ps t ++ "\n")
      (memberLine (depth + 1) mem ps' t' ++ "\n") := by
  -- The name stands behind the white space of the line, and all else is behind the name.
  have hname := Laid.indented depth (newline_not_mem_memberName mem.name)
    (memberName_ne_empty mem.name)
  have hmark : Laid false false (if mem.optional then "?" else "")
      (if mem.optional then "?" else "") := by
    cases mem.optional <;> exact .word (by decide)
  have hlist : Laid false false (if mem.function then "(" ++ ", ".intercalate ps ++ ")" else "")
      (if mem.function then "(" ++ ", ".intercalate ps' ++ ")" else "") := by
    cases mem.function with
    | true =>
      have hcomma : '\n' ∉ ", ".toList := by decide
      have hparams := Laid.intercalate hcomma hps
      exact ((Laid.word (by decide)).append hparams).append (.word (by decide))
    | false => exact .empty false
  have hcolon : Laid false false ": " ": " := .word (by decide)
  have hend : Laid false false ";" ";" := .word (by decide)
  have hline := ((((hname.append hmark).append hlist).append hcolon).append ht).append hend
  exact hline.newline (.append _ ⟨';', rfl, by decide⟩)

-- A type begins and ends within a line, members begin and end with one.  An inline interface goes
-- from the one to the other, and its braces are what ends the lines at the passage.

mutual

/-- What is written of a type is indented as a whole, with every line that is in it. -/
theorem type_laid : ∀ (n : TypeNode) (depth : Nat), OneLine n.words →
    SameOutcome (Laid false false) (type depth n) (type (depth + 1) n)
  | .simple name, depth, h => by
    rw [type, type]
    exact .ok (.word (h name List.mem_cons_self))
  | .void, depth, _ => by
    rw [type, type]
    exact .ok (.word (by decide))
  | .array [elem], depth, h => by
    simp only [TypeNode.words, TypeNode.wordsOfAll, List.append_nil] at h
    rw [type, type]
    exact (type_laid elem depth h).bind fun a b hab => .ok (hab.append (.word (by decide)))
  | .map [key, value], depth, h => by
    simp only [TypeNode.words, TypeNode.wordsOfAll, List.append_nil, oneLine_append] at h
    rw [type, type]
    refine (type_laid key depth h.1).bind fun a b hab =>
      (type_laid value depth h.2).bind fun c d hcd => .ok ?_
    have hopen : Laid false false "\x7b [key: " "\x7b [key: " := .word (by decide)
    exact (((hopen.append hab).append (.word (by decide))).append hcd).append (.word (by decide))
  | .interface name comment ms, depth, h => by
    rw [TypeNode.words, oneLine_cons] at h
    rw [type, type]
    exact (members_laid ms (depth + 1) h.2).bind fun a b hab => .ok (block_laid depth _ hab)
  | .enum name comment ms, depth, h => by
    rw [type, type]
    exact .ok (.word (h name List.mem_cons_self))
  -- The other arrays and maps are refused at every nesting.
  | .array [], _, _ | .array (_ :: _ :: _), _, _ => by
    rw [type_array_error _ (by simp), type_array_error _ (by simp)]
    exact .error _
  | .map [], _, _ | .map [_], _, _ | .map (_ :: _ :: _ :: _), _, _ => by
    rw [type_map_error _ (by simp), type_map_error _ (by simp)]
    exact .error _

/-- So are members, which begin and end with their lines. -/
theorem members_laid : ∀ (ms : List Member) (depth : Nat), OneLine (TypeNode.wordsOfMembers ms) →
    SameOutcome (Laid true true) (members depth ms) (members (depth + 1) ms)
  | [], depth, _ => by
    rw [members, members]
    exact .ok (.empty true)
  | ⟨name, t, optional, function, doc, args⟩ :: rest, depth, h => by
    simp only [TypeNode.wordsOfMembers, oneLine_append] at h
    obtain ⟨⟨ht, hargs⟩, hrest⟩ := h
    let mem : Member := ⟨name, t, optional, function, doc, args⟩
    have hparams : SameOutcome (List.Forall₂ (Laid false false))
        (memberParams depth mem) (memberParams (depth + 1) mem) := by
      cases function with
      | true => exact params_laid args depth hargs
      | false => exact .ok .nil
    have htype : SameOutcome (Laid false false) (type depth mem.type) (type (depth + 1) mem.type) :=
      type_laid t depth ht
    rw [members_cons, members_cons]
    -- Parameters come first, then the type, then the other members.
    refine hparams.bind fun ps ps' hps => htype.bind fun a b hab =>
      (members_laid rest depth hrest).bind fun c d hcd => .ok ?_
    have hmem := (comment_laid depth doc).append (memberLine_laid depth mem hps hab)
    simpa only [String.append_assoc] using hmem.append hcd

/-- So are parameters. -/
theorem params_laid : ∀ (args : List Arg) (depth : Nat), OneLine (TypeNode.wordsOfArgs args) →
    SameOutcome (List.Forall₂ (Laid false false)) (params depth args) (params (depth + 1) args)
  | [], depth, _ => by
    rw [params, params]
    exact .ok .nil
  | ⟨name, t⟩ :: rest, depth, h => by
    simp only [TypeNode.wordsOfArgs, List.cons_append, oneLine_cons, oneLine_append] at h
    obtain ⟨hname, ht, hrest⟩ := h
    rw [params_cons, params_cons]
    refine (type_laid t depth ht).bind fun a b hab =>
      (params_laid rest depth hrest).bind fun as bs habs => .ok (.cons ?_ habs)
    exact ((Laid.word hname).append (.word (by decide))).append hab

end

/-! ## Section 4: Declarations -/

theorem endsVisible_block (depth : Nat) (empty : Bool) (body : String) :
    EndsVisible (block depth empty body) := by
  cases empty with
  | true =>
    show EndsVisible "\x7b\x7d"
    exact ⟨'\x7d', rfl, by decide⟩
  | false => exact .append _ ⟨'\x7d', rfl, by decide⟩

theorem enumLine_laid (depth : Nat) {m : EnumMember} (h : '\n' ∉ m.value.toList) :
    Laid true true (enumLine depth m) (enumLine (depth + 1) m) := by
  have hname := Laid.indented depth (newline_not_mem_memberName m.name) (memberName_ne_empty m.name)
  have hequals : Laid false false " = " " = " := .word (by decide)
  have hcomma : Laid false false "," "," := .word (by decide)
  have hline := (((hname.append hequals).append (.word h)).append hcomma).newline
    (.append _ ⟨',', rfl, by decide⟩)
  have hend : ",\n" = "," ++ "\n" := rfl
  simpa only [enumLine, hend, String.append_assoc] using hline

theorem sumType_laid {ms : List EnumMember} (h : OneLine (ms.map (·.value))) :
    Laid false false (sumType ms) (sumType ms) := by
  unfold sumType
  split
  · exact .word (by decide)
  · have hbar : '\n' ∉ " | ".toList := by decide
    exact .intercalate hbar (List.forall₂_same.mpr fun value hvalue => .word (h value hvalue))

/-- The text of a declaration is indented as a whole, and its last line ends in something
    visible. -/
theorem declaration_laid (sumTypes : Bool) (depth : Nat) {n : TypeNode} (h : OneLine n.words) :
    SameOutcome (fun s t => Laid true true (s ++ "\n") (t ++ "\n"))
      (declaration sumTypes depth n) (declaration sumTypes (depth + 1) n) := by
  cases n with
  | interface name doc ms =>
    rw [TypeNode.words, oneLine_cons] at h
    by_cases hname : name = ""
    · subst hname
      exact .error _
    · -- The closing brace makes the last line end in something visible.
      simp only [declaration, hname, if_false, type, bind_assoc]
      refine (members_laid ms (depth + 1) h.2).bind fun a b hab => .ok ?_
      have hhead : Laid true false (indent depth ++ "export interface ")
          (indent (depth + 1) ++ "export interface ") := .indented depth (by decide) (by decide)
      have htext := (((comment_laid depth doc).append hhead).append (.word h.1)).append
        ((Laid.word (s := " ") (by decide)).append (block_laid depth ms.isEmpty hab))
      have hline := htext.newline (.append _ (.append _ (endsVisible_block depth _ a)))
      simpa only [String.append_assoc] using hline
  -- An enumeration has no parts to be laid out, only lines of its own.
  | enum name doc ms =>
    rw [TypeNode.words, oneLine_cons] at h
    refine .ok ?_
    cases sumTypes with
    | true =>
      have hhead : Laid true false (indent depth ++ "export type ")
          (indent (depth + 1) ++ "export type ") := .indented depth (by decide) (by decide)
      have htext := ((((comment_laid depth doc).append hhead).append (.word h.1)).append
        (Laid.word (s := " = ") (by decide))).append (sumType_laid h.2)
      have hline := (htext.append (.word (s := ";") (by decide))).newline
        (.append _ ⟨';', rfl, by decide⟩)
      simpa only [if_true, String.append_assoc] using hline
    | false =>
      have hhead : Laid true false (indent depth ++ "export enum ")
          (indent (depth + 1) ++ "export enum ") := .indented depth (by decide) (by decide)
      have hlines := Laid.join fun (m : EnumMember) hm =>
        enumLine_laid (depth + 1) (h.2 m.value (List.mem_map_of_mem hm))
      have htext := (((comment_laid depth doc).append hhead).append (.word h.1)).append
        ((Laid.word (s := " ") (by decide)).append (block_laid depth ms.isEmpty hlines))
      have hline := htext.newline (.append _ (.append _ (endsVisible_block depth _ _)))
      simpa only [Bool.false_eq_true, if_false, String.append_assoc] using hline
  | _ => simpa [declaration] using .error _

/-- Every line of a declaration ends in something visible. -/
theorem declaration_closesLines {sumTypes : Bool} {depth : Nat} {n : TypeNode}
    (h : OneLine n.words) {s : String} (hs : declaration sumTypes depth n = .ok s) :
    ClosesLines (s.toList ++ ['\n']) := by
  have hlaid := declaration_laid sumTypes depth h
  rw [hs] at hlaid
  generalize declaration sumTypes (depth + 1) n = deeper at hlaid
  cases hlaid with
  | ok hlaid =>
    have hclosed := hlaid.closed
    rwa [String.toList_append] at hclosed

/-- So the clean-up leaves it as it is. -/
theorem declaration_settled {sumTypes : Bool} {depth : Nat} {n : TypeNode} (h : OneLine n.words)
    {s : String} (hs : declaration sumTypes depth n = .ok s) : Settled (s ++ "\n").toList := by
  rw [String.toList_append]
  exact .of_closesLines (declaration_closesLines h hs) (.inr ⟨s.toList, rfl⟩)

theorem mapM_cons_ok {α β : Type} {f : α → Except RenderError β} {x : α} {xs : List α}
    {ys : List β} (h : (x :: xs).mapM f = .ok ys) :
    ∃ y more, f x = .ok y ∧ xs.mapM f = .ok more ∧ ys = y :: more := by
  rw [List.mapM_cons] at h
  obtain ⟨y, hy, h⟩ := bind_ok h
  obtain ⟨more, hmore, h⟩ := bind_ok h
  exact ⟨y, more, hy, hmore, (Except.ok.inj h).symm⟩

/-- So are the texts of all declarations. -/
theorem declarations_settled {sumTypes : Bool} {depth : Nat} {graph : List TypeNode}
    (h : OneLine (graph.flatMap TypeNode.words)) {ds : List String}
    (hds : graph.mapM (declaration sumTypes depth) = .ok ds) :
    ∀ d ∈ ds, Settled (d ++ "\n").toList := by
  induction graph generalizing ds with
  | nil =>
    obtain rfl := Except.ok.inj hds
    simp
  | cons n graph ih =>
    rw [List.flatMap_cons, oneLine_append] at h
    obtain ⟨d, more, hd, hmore, rfl⟩ := mapM_cons_ok hds
    exact List.forall_mem_cons.mpr ⟨declaration_settled h.1 hd, ih h.2 hmore⟩

/-! ## Section 5: Files -/

/-- The declarations of a file, with blank lines between them. -/
def declarationsText (ds : List String) : String := "\n".intercalate (ds.map (· ++ "\n"))

theorem toList_declarationsText_cons (d e : String) (ds : List String) :
    (declarationsText (d :: e :: ds)).toList =
      (d.toList ++ ['\n']) ++ '\n' :: (declarationsText (e :: ds)).toList := by
  have hnewline : "\n".toList = ['\n'] := rfl
  simp [declarationsText, hnewline]

theorem toList_declarationsText_singleton (d : String) :
    (declarationsText [d]).toList = d.toList ++ ['\n'] := by
  have hnewline : "\n".toList = ['\n'] := rfl
  simp [declarationsText, hnewline]

theorem declarationsText_cons_ne_nil (d : String) (ds : List String) :
    (declarationsText (d :: ds)).toList ≠ [] := by
  cases ds with
  | nil => simp [toList_declarationsText_singleton]
  | cons e ds => simp [toList_declarationsText_cons]

/-- The clean-up leaves declarations with blank lines between them as they are. -/
theorem declarationsText_settled {ds : List String} (h : ∀ d ∈ ds, Settled (d ++ "\n").toList) :
    Settled (declarationsText ds).toList := by
  have hnewline : "\n".toList = ['\n'] := rfl
  induction ds with
  | nil => exact .nil
  | cons d ds ih =>
    obtain ⟨hd, hds⟩ := List.forall_mem_cons.mp h
    rw [String.toList_append, hnewline] at hd
    cases ds with
    | nil => rwa [toList_declarationsText_singleton]
    | cons e ds =>
      rw [toList_declarationsText_cons]
      exact hd.append_break (ih hds) (by simp) (declarationsText_cons_ne_nil e ds)

/-- Declarations are indented each for itself. -/
theorem indentLines_declarationsText {ds ds' : List String}
    (h : List.Forall₂ (fun s t => Laid true true (s ++ "\n") (t ++ "\n")) ds ds') :
    indentLines (declarationsText ds) = declarationsText ds' := by
  suffices shiftLines true (declarationsText ds).toList = (declarationsText ds').toList by
    rw [indentLines, this, String.ofList_toList]
  have hnewline : "\n".toList = ['\n'] := rfl
  induction h with
  | nil => rfl
  | @cons d d' ds ds' hd h ih =>
    have hshift := hd.shift
    simp only [String.toList_append, hnewline] at hshift
    cases h with
    | nil =>
      -- Nothing follows the last declaration, not even an empty line.
      have hend := hshift []
      rwa [List.append_nil, shiftLines, List.append_nil, ← toList_declarationsText_singleton,
        ← toList_declarationsText_singleton] at hend
    | cons =>
      rw [toList_declarationsText_cons, toList_declarationsText_cons, hshift, shiftLines_newline,
        ih]

/-- Declarations in the braces of a namespace. -/
theorem namespace_settled {name : String} (hname : '\n' ∉ name.toList) {text : String}
    (h : Settled text.toList) :
    Settled ("export namespace " ++ name ++ " \x7b\n" ++ text ++ "\x7d\n").toList := by
  have hopen : Settled ("export namespace ".toList ++ name.toList ++ [' ', '\x7b'] ++ ['\n']) := by
    have hline : '\n' ∉ "export namespace ".toList ++ name.toList ++ [' ', '\x7b'] := by
      simp [hname]
    exact .line hline (by rw [List.getLast?_append]; rfl) (by decide : isBlank '\x7b' = false)
  have hclose : Settled (['\x7d'] ++ ['\n']) := .line (by decide) rfl (by decide)
  have hall := (hopen.append h).append hclose
  have hends : " \x7b\n".toList = [' ', '\x7b'] ++ ['\n'] ∧ "\x7d\n".toList = ['\x7d'] ++ ['\n'] :=
    ⟨rfl, rfl⟩
  simpa only [String.toList_append, hends, List.append_assoc] using hall

end Render

/-- What is chosen for a declaration that is rendered alone. -/
def RenderOptions.alone (options : RenderOptions) : RenderOptions :=
  { options with namespaceName := none, preamble := "" }

/-- The layout of a file: the cleaned up preamble, and the declarations with single blank lines
    between them.  They are indented if they stand in a namespace. -/
def layOut (options : RenderOptions) (ds : List String) : String :=
  let preamble := collapseBlankLines options.preamble
  match options.namespaceName with
  | none => preamble ++ (if preamble = "" ∨ ds = [] then "" else "\n") ++ "\n".intercalate ds
  | some name =>
    preamble ++ (if preamble = "" then "" else "\n") ++ "export namespace " ++ name ++ " \x7b\n" ++
      indentLines ("\n".intercalate ds) ++ "\x7d\n"

open Render

/-- Alone a declaration is rendered as it is written, with a line feed at its end. -/
theorem render_alone (options : RenderOptions) {n : TypeNode} (h : OneLine n.words) :
    render [n] options.alone =
      (declaration options.enumsAsSumTypes 0 n).map (· ++ "\n") := by
  rw [render, file]
  simp only [RenderOptions.alone, Option.isSome_none, Bool.false_eq_true, if_false, List.mapM_cons,
    List.mapM_nil]
  cases hs : declaration options.enumsAsSumTypes 0 n with
  | error e => rfl
  | ok s =>
    have hempty : collapseBlankLines "" = "" :=
      Settled.collapseBlankLines_eq (.nil : Settled "".toList)
    show Except.ok (collapseBlankLines ("" ++ "\n\n" ++ (s ++ "\n"))) = .ok (s ++ "\n")
    rw [(declaration_settled h hs).collapseBlankLines_break, hempty, apart_empty]

/-- Declarations that are rendered alone are all of them rendered, or fail as the first one does
    that is not. -/
theorem mapM_render_alone (options : RenderOptions) {graph : List TypeNode}
    (h : OneLine (graph.flatMap TypeNode.words)) :
    (graph.mapM fun n => render [n] options.alone) =
      (graph.mapM (declaration options.enumsAsSumTypes 0)).map (List.map (· ++ "\n")) := by
  induction graph with
  | nil => rfl
  | cons n graph ih =>
    rw [List.flatMap_cons, oneLine_append] at h
    rw [List.mapM_cons, List.mapM_cons, render_alone options h.1, ih h.2]
    cases declaration options.enumsAsSumTypes 0 n with
    | error e => rfl
    | ok s => cases graph.mapM (declaration options.enumsAsSumTypes 0) <;> rfl

/-- The layout puts the declarations, or the namespace with them, apart from the preamble. -/
theorem layOut_eq_apart (options : RenderOptions) (ds : List String) :
    layOut options (ds.map (· ++ "\n")) = apart (collapseBlankLines options.preamble)
      (match options.namespaceName with
        | none => declarationsText ds
        | some name => "export namespace " ++ name ++ " \x7b\n" ++
          indentLines (declarationsText ds) ++ "\x7d\n") := by
  unfold layOut apart
  cases options.namespaceName with
  | none =>
    -- Without declarations there is nothing to stand apart from the preamble.
    have hempty : declarationsText ds = "" ↔ ds.map (· ++ "\n") = [] := by
      cases ds with
      | nil => exact ⟨fun _ => rfl, fun _ => rfl⟩
      | cons d ds =>
        have hne := declarationsText_cons_ne_nil d ds
        simp only [ne_eq, String.toList_eq_nil_iff] at hne
        simp [hne]
    simp only [hempty]
    rfl
  | some name =>
    simp [declarationsText, String.append_assoc]

/-- The declarations of a file are rendered alone and then laid out, whatever the preamble and the
    namespace.  A declaration does not depend on its neighbours, it is indented as a whole, and the
    clean-up leaves it as it was written.  A file is refused as the first of its declarations is
    that has no text alone. -/
theorem render_layout {graph : List TypeNode} {options : RenderOptions}
    (hgraph : OneLine (graph.flatMap TypeNode.words))
    (hname : OneLine options.namespaceName.toList) :
    render graph options =
        (graph.mapM fun n => render [n] options.alone).map (layOut options) ∧
      ∀ n ∈ graph, render [n] options.alone =
        (declaration options.enumsAsSumTypes 0 n).map (· ++ "\n") := by
  have hwords : ∀ n ∈ graph, OneLine n.words := fun n hn w hw =>
    hgraph w (List.mem_flatMap.mpr ⟨n, hn, hw⟩)
  refine ⟨?_, fun n hn => render_alone options (hwords n hn)⟩
  rw [mapM_render_alone options hgraph, render, file]
  cases hnamespace : options.namespaceName with
  | none =>
    simp only [Option.isSome_none, Bool.false_eq_true, if_false]
    cases hds : graph.mapM (declaration options.enumsAsSumTypes 0) with
    | error e => rfl
    | ok ds =>
      have hsettled := declarationsText_settled (declarations_settled hgraph hds)
      show Except.ok (collapseBlankLines (options.preamble ++ "\n\n" ++ declarationsText ds)) =
        .ok (layOut options (ds.map (· ++ "\n")))
      rw [hsettled.collapseBlankLines_break, layOut_eq_apart, hnamespace]
  | some name =>
    rw [hnamespace] at hname
    -- The declarations in the namespace are those outside of it, indented.
    have hsame : SameOutcome _ (graph.mapM (declaration options.enumsAsSumTypes 0))
        (graph.mapM (declaration options.enumsAsSumTypes 1)) :=
      .mapM fun n hn => declaration_laid options.enumsAsSumTypes 0 (hwords n hn)
    simp only [Option.isSome_some, if_true]
    cases hds : graph.mapM (declaration options.enumsAsSumTypes 0) <;>
      cases hds' : graph.mapM (declaration options.enumsAsSumTypes 1) <;>
        rw [hds, hds'] at hsame <;> cases hsame
    case error.error.error => rfl
    case ok.ok.ok ds ds' hlaid =>
      have hsettled := namespace_settled (hname name List.mem_cons_self)
        (declarationsText_settled (declarations_settled hgraph hds'))
      show Except.ok (collapseBlankLines (options.preamble ++ "\n\n" ++ ("export namespace " ++
        name ++ " \x7b\n" ++ declarationsText ds' ++ "\x7d\n"))) =
          .ok (layOut options (ds.map (· ++ "\n")))
      rw [hsettled.collapseBlankLines_break, layOut_eq_apart, hnamespace]
      simp only [indentLines_declarationsText hlaid]

/-- An enumeration, and an interface with a comment of three lines and an interface inside. -/
def harborGraph : List TypeNode := [
  .enum "Berth" none [.integer "North" 1],
  .interface "Harbor" (some "Ships.\n\nAnd piers.  ") [
    .property "pier" (.interface "" none [.property "depth" .number])]]

def harborOptions : RenderOptions :=
  { namespaceName := some "Sea", preamble := "\n// A  \n\n\n// B" }

/-- The declarations of the harbor, each rendered alone. -/
def harborTexts : List String := [
  "export enum Berth \x7b\n    North = 1,\n\x7d\n",
  "/**\n * Ships.\n *\n * And piers.\n */\nexport interface Harbor \x7b\n    pier: \x7b\n" ++
    "        depth: number;\n    \x7d;\n\x7d\n"]

def harborText : String :=
  "// A\n\n// B\n\nexport namespace Sea \x7b\n" ++
    "    export enum Berth \x7b\n        North = 1,\n    \x7d\n\n" ++
    "    /**\n     * Ships.\n     *\n     * And piers.\n     */\n" ++
    "    export interface Harbor \x7b\n        pier: \x7b\n            depth: number;\n" ++
    "        \x7d;\n    \x7d\n\x7d\n"

theorem harbor_laid_out :
    OneLine (harborGraph.flatMap TypeNode.words) ∧ OneLine harborOptions.namespaceName.toList ∧
      (harborGraph.mapM fun n => render [n] harborOptions.alone) = .ok harborTexts ∧
      render harborGraph harborOptions = .ok harborText := by
  have hgraph : OneLine (harborGraph.flatMap TypeNode.words) := by decide +kernel
  have hname : OneLine harborOptions.namespaceName.toList := by decide +kernel
  have hds : (harborGraph.mapM fun n => render [n] harborOptions.alone) = .ok harborTexts := by
    decide +kernel
  have htext : layOut harborOptions harborTexts = harborText := by decide +kernel
  refine ⟨hgraph, hname, hds, ?_⟩
  rw [(render_layout hgraph hname).1, hds, Except.map, htext]

end TypeExport
