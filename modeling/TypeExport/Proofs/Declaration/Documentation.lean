import TypeExport.Proofs.Declaration.Comments
import TypeExport.Proofs.Declaration.Rendering
import TypeExport.Proofs.Graph.Rebuild

/-! # Documentation Makes no Difference

    A graph is rendered twice, with its comments and without.  Both renderings end in the same way,
    and their texts differ by comment blocks and nothing else: this is proved along the recursion of
    the renderer, with one lemma for each of its functions.  What is known of such texts and their
    readers then applies to the whole file.

    Two things can still go wrong, and both come from texts that are copied as they stand.  The text
    of a comment can end its block, and a name or the preamble can leave a comment or a literal open
    in which a block is not seen as one. -/

namespace TypeExport

open Text Reading

/-! ## Section 1: Graphs without comments -/

/-- The declaration or inline interface without its own comment and those of its members. -/
def TypeNode.dropComments : TypeNode → TypeNode
  | .interface name _ members =>
    .interface name none (members.map fun mem => { mem with comment := none })
  | .enum name _ members => .enum name none members
  | n => n

/-- The node without comments, wherever they stand in it. -/
def TypeNode.bare : TypeNode → TypeNode := TypeNode.rebuild TypeNode.dropComments

/-- The member without comments, wherever they stand in it. -/
def Member.bare (mem : Member) : Member :=
  { mem.mapTypes TypeNode.bare with comment := none }

namespace TypeNode

@[simp] theorem bare_simple (name : String) : (simple name).bare = simple name :=
  rebuild_simple _ _

@[simp] theorem bare_array (params : List TypeNode) :
    (array params).bare = array (params.map bare) := rebuild_array _ _

@[simp] theorem bare_map (params : List TypeNode) :
    (map params).bare = map (params.map bare) := rebuild_map _ _

@[simp] theorem bare_interface (name : String) (comment : Option String) (members : List Member) :
    (interface name comment members).bare = interface name none (members.map Member.bare) := by
  rw [bare, rebuild_interface, dropComments, List.map_map]
  rfl

@[simp] theorem bare_enum (name : String) (comment : Option String) (members : List EnumMember) :
    (enum name comment members).bare = enum name none members := rebuild_enum _ _ _ _

@[simp] theorem bare_void : void.bare = void := rebuild_void _

mutual

/-- The comments that are written where the node is written as a type. -/
def comments : TypeNode → List String
  | .array params => commentsOfAll params
  | .map params => commentsOfAll params
  | .interface _ _ members => commentsOfMembers members
  | _ => []

def commentsOfAll : List TypeNode → List String
  | [] => []
  | n :: rest => comments n ++ commentsOfAll rest

def commentsOfMembers : List Member → List String
  | [] => []
  | ⟨_, type, _, function, comment, args⟩ :: rest =>
    comment.toList ++ comments type ++ (if function then commentsOfArgs args else []) ++
      commentsOfMembers rest

def commentsOfArgs : List Arg → List String
  | [] => []
  | ⟨_, type⟩ :: rest => comments type ++ commentsOfArgs rest

end

/-- The comments that are written where the node is written as a declaration. -/
def declComments : TypeNode → List String
  | .interface name comment members => comment.toList ++ comments (.interface name comment members)
  | .enum _ comment _ => comment.toList
  | _ => []

end TypeNode

/-! ## Section 2: Texts with and without comments -/

/-- `full` is `plain` with comment blocks, none of which stands at its beginning. -/
def CommentedText (P : String → Prop) (plain full : String) : Prop :=
  Commented P plain.toList full.toList

/-- After a line feed, `full` is `plain` with comment blocks. -/
def CommentedAfterLine (P : String → Prop) (plain full : String) : Prop :=
  CommentedText P ("\n" ++ plain) ("\n" ++ full)

section

variable {P : String → Prop} {a a' b b' : String}

theorem CommentedText.refl (a : String) : CommentedText P a a := Commented.refl _

theorem CommentedText.append (h : CommentedText P a a') (h' : CommentedText P b b') :
    CommentedText P (a ++ b) (a' ++ b') := by
  rw [CommentedText, String.toList_append, String.toList_append]
  exact Commented.append h h'

theorem CommentedText.afterLine (h : CommentedText P a a') : CommentedAfterLine P a a' :=
  (CommentedText.refl "\n").append h

theorem CommentedAfterLine.append (h : CommentedAfterLine P a a') (h' : CommentedText P b b') :
    CommentedAfterLine P (a ++ b) (a' ++ b') := by
  rw [CommentedAfterLine, ← String.append_assoc, ← String.append_assoc]
  exact CommentedText.append h h'

/-- What stands after a line feed may begin with a block. -/
theorem CommentedText.newline (h : CommentedText P a a') (h' : CommentedAfterLine P b b') :
    CommentedText P (a ++ "\n" ++ b) (a' ++ "\n" ++ b') := by
  rw [String.append_assoc, String.append_assoc]
  exact h.append h'

theorem CommentedAfterLine.newline (h : CommentedAfterLine P a a')
    (h' : CommentedAfterLine P b b') :
    CommentedAfterLine P (a ++ "\n" ++ b) (a' ++ "\n" ++ b') := by
  rw [String.append_assoc, String.append_assoc]
  exact h.append h'

/-- A comment before a text. -/
theorem CommentedText.comment (h : CommentedText P a a') (depth : Nat) {doc : Option String}
    (hdoc : ∀ d ∈ doc.toList, P d) :
    CommentedAfterLine P (Render.comment depth none ++ a) (Render.comment depth doc ++ a') := by
  simp only [CommentedAfterLine, CommentedText, String.toList_append]
  cases doc with
  | none => exact .char _ h
  | some d => exact .block depth (hdoc d List.mem_cons_self) h

theorem CommentedText.intercalate (sep : String) {as bs : List String}
    (h : List.Forall₂ (CommentedText P) as bs) :
    CommentedText P (sep.intercalate as) (sep.intercalate bs) := by
  induction h with
  | nil => exact .refl _
  | @cons a b as bs hab h ih =>
    cases h with
    | nil => simpa using hab
    | cons => simpa using (hab.append (.refl sep)).append ih

theorem CommentedAfterLine.intercalate {as bs : List String}
    (h : List.Forall₂ (CommentedAfterLine P) as bs) :
    CommentedAfterLine P ("\n".intercalate (as.map (· ++ "\n")))
      ("\n".intercalate (bs.map (· ++ "\n"))) := by
  induction h with
  | nil => exact Commented.refl _
  | @cons a b as bs hab h ih =>
    cases h with
    | nil => simpa using hab.append (.refl "\n")
    | cons => simpa using (hab.append (.refl "\n")).newline ih

end

/-! ## Section 3: Rendering with and without comments -/

namespace Render

/-- Two computations end in the same way: with results that are related, or with the same error. -/
inductive SameOutcome {α : Type} (R : α → α → Prop) :
    Except RenderError α → Except RenderError α → Prop
  | ok {a b} (h : R a b) : SameOutcome R (.ok a) (.ok b)
  | error (e : RenderError) : SameOutcome R (.error e) (.error e)

namespace SameOutcome

variable {α β : Type} {R : α → α → Prop} {S : β → β → Prop}

theorem bind {x y : Except RenderError α} {f g : α → Except RenderError β}
    (h : SameOutcome R x y) (hfg : ∀ a b, R a b → SameOutcome S (f a) (g b)) :
    SameOutcome S (x >>= f) (y >>= g) := by
  cases h with
  | ok h => exact hfg _ _ h
  | error e => exact .error e

theorem exists_of_ok {x : Except RenderError α} {b : α} (h : SameOutcome R x (.ok b)) :
    ∃ a, x = .ok a ∧ R a b := by
  cases h with
  | ok h => exact ⟨_, rfl, h⟩

/-- Elements that are dealt with one by one end in the same way as a list. -/
theorem mapM {γ : Type} {f g : γ → Except RenderError α} {l : List γ}
    (h : ∀ x ∈ l, SameOutcome R (f x) (g x)) :
    SameOutcome (List.Forall₂ R) (l.mapM f) (l.mapM g) := by
  induction l with
  | nil => exact .ok .nil
  | cons x l ih =>
    obtain ⟨hx, hl⟩ := List.forall_mem_cons.mp h
    rw [List.mapM_cons, List.mapM_cons]
    exact hx.bind fun a b hab => (ih hl).bind fun as bs habs => .ok (.cons hab habs)

end SameOutcome

variable {P : String → Prop}

theorem block_commented (depth : Nat) (empty : Bool) {body body' : String}
    (h : CommentedAfterLine P body body') :
    CommentedText P (block depth empty body) (block depth empty body') := by
  cases empty with
  | true => exact .refl _
  | false =>
    have hopen : CommentedText P ("\x7b" ++ "\n" ++ body) ("\x7b" ++ "\n" ++ body') :=
      (CommentedText.refl "\x7b").newline h
    exact (hopen.append (.refl (indent depth))).append (.refl "\x7d")

theorem memberLine_commented (depth : Nat) (mem : Member) {ps ps' : List String} {t t' : String}
    (hps : List.Forall₂ (CommentedText P) ps ps') (ht : CommentedText P t t') :
    CommentedText P (memberLine depth mem.bare ps t) (memberLine depth mem ps' t') := by
  have hlist : CommentedText P
      (if mem.function then "(" ++ ", ".intercalate ps ++ ")" else "")
      (if mem.function then "(" ++ ", ".intercalate ps' ++ ")" else "") := by
    cases mem.function with
    | true =>
      have hparams := CommentedText.intercalate ", " hps
      exact ((CommentedText.refl _).append hparams).append (.refl _)
    | false => exact .refl _
  exact (((((CommentedText.refl _).append hlist).append (.refl _)).append ht).append (.refl _))

/-- An array is refused for the number of its parameters, which is the same without comments. -/
theorem array_refused (depth : Nat) {ns : List TypeNode} (h : ns.length ≠ 1) :
    SameOutcome (CommentedText P) (type depth (TypeNode.array ns).bare)
      (type depth (.array ns)) := by
  rw [TypeNode.bare_array, type_array_error depth h, type_array_error depth (by simpa using h),
    List.length_map]
  exact .error _

/-- So is a map. -/
theorem map_refused (depth : Nat) {ns : List TypeNode} (h : ns.length ≠ 2) :
    SameOutcome (CommentedText P) (type depth (TypeNode.map ns).bare) (type depth (.map ns)) := by
  rw [TypeNode.bare_map, type_map_error depth h, type_map_error depth (by simpa using h),
    List.length_map]
  exact .error _

mutual

/-- A type is written the same with and without its comments, but for the blocks. -/
theorem type_commented : ∀ (n : TypeNode) (depth : Nat), (∀ doc ∈ n.comments, P doc) →
    SameOutcome (CommentedText P) (type depth n.bare) (type depth n)
  | .simple name, depth, _ => by
    rw [TypeNode.bare_simple, type]
    exact .ok (.refl _)
  | .void, depth, _ => by
    rw [TypeNode.bare_void, type]
    exact .ok (.refl _)
  | .array [elem], depth, h => by
    simp only [TypeNode.comments, TypeNode.commentsOfAll, List.append_nil] at h
    rw [TypeNode.bare_array, List.map_cons, List.map_nil, type, type]
    exact (type_commented elem depth h).bind fun a b hab => .ok (hab.append (.refl "[]"))
  -- Collections with a wrong number of parameters are refused, with or without comments.
  | .array [], depth, _ => array_refused depth (by simp)
  | .array (_ :: _ :: _), depth, _ => array_refused depth (by simp)
  | .map [key, value], depth, h => by
    simp only [TypeNode.comments, TypeNode.commentsOfAll, List.append_nil,
      List.forall_mem_append] at h
    rw [TypeNode.bare_map, List.map_cons, List.map_cons, List.map_nil, type, type]
    refine (type_commented key depth h.1).bind fun a b hab =>
      (type_commented value depth h.2).bind fun c d hcd => .ok ?_
    exact ((((CommentedText.refl _).append hab).append (.refl _)).append hcd).append (.refl _)
  | .map [], depth, _ => map_refused depth (by simp)
  | .map [_], depth, _ => map_refused depth (by simp)
  | .map (_ :: _ :: _ :: _), depth, _ => map_refused depth (by simp)
  -- An inline interface has no comment of its own, only its members have.
  | .interface name comment ms, depth, h => by
    rw [TypeNode.comments] at h
    rw [TypeNode.bare_interface, type, type]
    refine (members_commented ms (depth + 1) h).bind fun a b hab => .ok ?_
    rw [List.isEmpty_map]
    exact block_commented depth _ hab
  | .enum name comment ms, depth, _ => by
    rw [TypeNode.bare_enum, type, type]
    exact .ok (.refl _)

/-- So are members, at the beginning of a line. -/
theorem members_commented : ∀ (ms : List Member) (depth : Nat),
    (∀ doc ∈ TypeNode.commentsOfMembers ms, P doc) →
    SameOutcome (CommentedAfterLine P) (members depth (ms.map Member.bare)) (members depth ms)
  | [], depth, _ => by
    rw [List.map_nil, members]
    exact .ok (.refl _)
  | ⟨name, t, optional, function, doc, args⟩ :: rest, depth, h => by
    simp only [TypeNode.commentsOfMembers, List.forall_mem_append] at h
    obtain ⟨⟨⟨hdoc, ht⟩, hargs⟩, hrest⟩ := h
    let mem : Member := ⟨name, t, optional, function, doc, args⟩
    -- Parameters are written for methods only.
    have hparams : SameOutcome (List.Forall₂ (CommentedText P))
        (memberParams depth mem.bare) (memberParams depth mem) := by
      cases function with
      | true => exact params_commented args depth hargs
      | false => exact .ok .nil
    have htype : SameOutcome (CommentedText P) (type depth mem.bare.type) (type depth mem.type) :=
      type_commented t depth ht
    rw [List.map_cons, members_cons, members_cons]
    refine hparams.bind fun ps ps' hps => htype.bind fun a b hab =>
      (members_commented rest depth hrest).bind fun c d hcd => .ok ?_
    exact ((memberLine_commented depth mem hps hab).comment depth hdoc).newline hcd

/-- So are parameters. -/
theorem params_commented : ∀ (args : List Arg) (depth : Nat),
    (∀ doc ∈ TypeNode.commentsOfArgs args, P doc) →
    SameOutcome (List.Forall₂ (CommentedText P))
      (params depth (args.map (Arg.mapType TypeNode.bare))) (params depth args)
  | [], depth, _ => by
    rw [List.map_nil, params]
    exact .ok .nil
  | ⟨name, t⟩ :: rest, depth, h => by
    simp only [TypeNode.commentsOfArgs, List.forall_mem_append] at h
    rw [List.map_cons, params_cons, params_cons]
    refine (type_commented t depth h.1).bind fun a b hab =>
      (params_commented rest depth h.2).bind fun as bs habs => .ok (.cons ?_ habs)
    exact (CommentedText.refl _).append hab

end

/-- So is a declaration. -/
theorem declaration_commented (sumTypes : Bool) (depth : Nat) {n : TypeNode}
    (h : ∀ doc ∈ n.declComments, P doc) :
    SameOutcome (CommentedAfterLine P) (declaration sumTypes depth n.bare)
      (declaration sumTypes depth n) := by
  cases n with
  | interface name doc ms =>
    obtain ⟨hdoc, hms⟩ := List.forall_mem_append.mp h
    have hhead := (CommentedText.refl (indent depth)).comment depth hdoc
    have hbody := type_commented (.interface name doc ms) depth hms
    rw [TypeNode.bare_interface] at hbody ⊢
    by_cases hname : name = ""
    · subst hname
      exact .error _
    · simp only [declaration, hname, if_false]
      refine hbody.bind fun a b hab => .ok ?_
      exact (((hhead.append (.refl _)).append (.refl _)).append (.refl _)).append hab
  | enum name doc ms =>
    rw [TypeNode.bare_enum]
    exact .ok (((CommentedText.refl (indent depth)).comment depth h).append (.refl _))
  | _ => simpa [declaration] using .error _

/-- What a file says after its preamble, before the clean-up. -/
def body (options : RenderOptions) (graph : List TypeNode) : Except RenderError String := do
  let depth := if options.namespaceName.isSome then 1 else 0
  let ds ← graph.mapM (declaration options.enumsAsSumTypes depth)
  let body := "\n".intercalate (ds.map (· ++ "\n"))
  return match options.namespaceName with
    | none => body
    | some name => "export namespace " ++ name ++ " \x7b\n" ++ body ++ "\x7d\n"

/-- A file has a text if what stands after its preamble has one. -/
theorem render_eq_ok_iff {graph : List TypeNode} {options : RenderOptions} {text : String} :
    render graph options = .ok text ↔ ∃ after, body options graph = .ok after ∧
      text = collapseBlankLines (options.preamble ++ "\n\n" ++ after) := by
  have hfile : file options graph =
      (body options graph).map (options.preamble ++ "\n\n" ++ ·) := by
    rw [file, body]
    cases graph.mapM (declaration options.enumsAsSumTypes
      (if options.namespaceName.isSome then 1 else 0)) <;> rfl
  rw [render, hfile]
  cases body options graph with
  | error e => simp [Except.map, bind, Except.bind]
  | ok after => simp [Except.map, bind, Except.bind, pure, Except.pure, eq_comm]

theorem body_commented (options : RenderOptions) {graph : List TypeNode}
    (h : ∀ doc ∈ graph.flatMap TypeNode.declComments, P doc) :
    SameOutcome (CommentedAfterLine P) (body options (graph.map TypeNode.bare))
      (body options graph) := by
  rw [body, body, List.mapM_map]
  refine SameOutcome.bind (SameOutcome.mapM fun n hn =>
    declaration_commented _ _ fun doc hdoc =>
      h doc (List.mem_flatMap.mpr ⟨n, hn, hdoc⟩)) fun as bs habs => .ok ?_
  have hbody := CommentedAfterLine.intercalate habs
  cases options.namespaceName with
  | none => exact hbody
  | some name =>
    have hline : " \x7b\n" = " \x7b" ++ "\n" := rfl
    have hopen :=
      (CommentedText.refl (P := P) ("export namespace " ++ name ++ " \x7b")).newline hbody
    simp only [hline, ← String.append_assoc]
    exact (hopen.append (.refl "\x7d\n")).afterLine

end Render

/-! ## Section 4: What the reader makes of it -/

/-- Blocks in a text are blocks between its lines, also after the clean-up. -/
theorem CommentedAfterLine.keptLines {P : String → Prop} {plain full : String}
    (h : CommentedAfterLine P plain full) :
    CommentedLines P (Text.keptLines (lines plain.toList))
      (Text.keptLines (lines full.toList)) := by
  have hlines := (Commented.lines h []).keptLines
  simp only [String.toList_append] at hlines
  exact hlines

/-- What is copied into a file as it stands does not hide a comment from the reader. -/
structure Tidy (options : RenderOptions) (graph : List TypeNode) : Prop where
  /-- A block comment in the preamble ends there. -/
  preamble :
    modeAfter .code (lines (collapseBlankLines (options.preamble ++ "\n\n")).toList) = .code
  /-- Names of types and values of enumerations, which may be any texts, do not open a block comment
      or a template that goes on in the next line. -/
  declarations : ∀ text, render (graph.map TypeNode.bare) (options.withPreamble "") = .ok text →
    StaysInCode (lines text.toList)

/-- The lines of a file are those of its preamble, and then those of its declarations. -/
theorem keptLines_file (before after : String) :
    keptLines (lines (before ++ "\n\n" ++ after).toList) =
      keptLines (lines (before ++ "\n\n").toList) ++ keptLines (lines after.toList) := by
  have hbreak : "\n\n".toList = ['\n', '\n'] := rfl
  have hsplit := lines_append_newline (before.toList ++ ['\n']) after.toList
  rw [← keptLines_append, String.toList_append, String.toList_append, hbreak]
  simpa using congrArg Text.keptLines hsplit

theorem mem_lines_file {before after : String} {line : List Char}
    (h : line ∈ keptLines (lines after.toList)) :
    line ∈ lines (collapseBlankLines (before ++ "\n\n" ++ after)).toList := by
  refine List.mem_of_mem_filter (p := (!isBlankLine ·)) ?_
  rw [filter_lines_collapseBlankLines, keptLines_file]
  exact List.mem_append_right _ h

/-- After a preamble that leaves no comment open the code is that of the declarations. -/
theorem codeOfText_file {before : String}
    (h : modeAfter .code (lines (collapseBlankLines (before ++ "\n\n")).toList) = .code)
    (after : String) :
    codeOfText (collapseBlankLines (before ++ "\n\n" ++ after)) =
      codeOf .code (keptLines (lines (before ++ "\n\n").toList)) ++
        codeOf .code (keptLines (lines after.toList)) := by
  rw [← modeAfter_filter rfl, filter_lines_collapseBlankLines] at h
  rw [codeOfText_collapseBlankLines, keptLines_file, codeOf_append, h]

/-- Comments are written as blocks and as nothing else.  A block ends at its very end if and only if
    the text of the comment does not end it.  A graph that has a text has one without its comments
    too, and the two differ by the blocks.  For a reader there is no difference at all when every
    block ends where it should, and is opened where the reader is in code. -/
theorem render_comments {graph : List TypeNode} {options : RenderOptions} {text : String}
    (h : render graph options = .ok text) :
    (∀ depth doc, Render.EndsOnce (Render.comment depth (some doc)).toList ↔
      ¬ commentEnd <:+: doc.toList) ∧
    ∃ plain, render (graph.map TypeNode.bare) options = .ok plain ∧
      CommentedLines (· ∈ graph.flatMap TypeNode.declComments)
        ((lines plain.toList).filter (!isBlankLine ·))
        ((lines text.toList).filter (!isBlankLine ·)) ∧
      ((∀ doc ∈ graph.flatMap TypeNode.declComments, ¬ commentEnd <:+: doc.toList) →
        Tidy options graph → codeOfText text = codeOfText plain) := by
  refine ⟨Render.endsOnce_comment_iff, ?_⟩
  obtain ⟨full, hfull, rfl⟩ := Render.render_eq_ok_iff.mp h
  have hbody := Render.body_commented (P := (· ∈ graph.flatMap TypeNode.declComments)) options
    fun doc hdoc => hdoc
  rw [hfull] at hbody
  obtain ⟨bare, hbare, hlines⟩ := hbody.exists_of_ok
  refine ⟨_, Render.render_eq_ok_iff.mpr ⟨bare, hbare, rfl⟩, ?_, fun hdocs htidy => ?_⟩
  -- The clean-up only takes away blank lines and blanks at the ends of lines.
  · rw [filter_lines_collapseBlankLines, filter_lines_collapseBlankLines, keptLines_file,
      keptLines_file]
    exact .append_left _ hlines.keptLines
  · have hstays : StaysInCode (keptLines (lines bare.toList)) := fun line hline =>
      htidy.declarations _ (Render.render_eq_ok_iff.mpr ⟨bare, hbare, rfl⟩) line
        (mem_lines_file hline)
    rw [codeOfText_file htidy.preamble, codeOfText_file htidy.preamble,
      hlines.keptLines.codeOf_eq hdocs hstays]

/-- Maps with comments on the declaration and on a member of the interface inside. -/
def atlasGraph : List TypeNode := [
  .interface "Atlas" (some "Maps.\n\n  See /a/*.") [
    .property "plates" (.interface "" none [
      { Member.property "title" .string with comment := some "Below." }])]]

def atlasOptions : RenderOptions := { preamble := "/* All */" }

/-- The declaration of the atlas without its comments. -/
def atlasCode : String :=
  "export interface Atlas \x7b\n    plates: \x7b\n        title: string;\n    \x7d;\n\x7d\n"

def atlasText : String :=
  "/* All */\n\n/**\n * Maps.\n *\n *   See /a/*.\n */\nexport interface Atlas \x7b\n" ++
    "    plates: \x7b\n        /**\n         * Below.\n         */\n        title: string;\n" ++
    "    \x7d;\n\x7d\n"

theorem tidy_atlas : Tidy atlasOptions atlasGraph where
  preamble := by decide +kernel
  declarations text h := by
    have hcode : render (atlasGraph.map TypeNode.bare) (atlasOptions.withPreamble "") =
        .ok atlasCode := by decide +kernel
    obtain rfl : atlasCode = text := Except.ok.inj (hcode.symm.trans h)
    unfold StaysInCode
    decide +kernel

theorem atlas_inert :
    render atlasGraph atlasOptions = .ok atlasText ∧
      ∃ plain, render (atlasGraph.map TypeNode.bare) atlasOptions = .ok plain ∧
        codeOfText atlasText = codeOfText plain := by
  have h : render atlasGraph atlasOptions = .ok atlasText := by decide +kernel
  obtain ⟨-, plain, hplain, -, hcode⟩ := render_comments h
  have hdocs : ∀ doc ∈ atlasGraph.flatMap TypeNode.declComments,
      ¬ commentEnd <:+: doc.toList := by decide +kernel
  exact ⟨h, plain, hplain, hcode hdocs tidy_atlas⟩

-- A name that opens a comment hides the rest of the file, up to the end of the first block in it.
example :
    let graph : List TypeNode := [.interface "A/*" none [
      { Member.property "b" .number with comment := some "One." }]]
    (render (graph.map TypeNode.bare) { preamble := "" }).map codeOfText ≠
      (render graph { preamble := "" }).map codeOfText := by
  decide +kernel

/-- A comment that ends itself. -/
def globGraph : List TypeNode := [.interface "Glob" (some "All of maps/*/index.") []]

def globOptions : RenderOptions := { preamble := "" }

/-- What follows the end is read as code, and so is the mark that should have been the end. -/
theorem glob_ends_early :
    Tidy globOptions globGraph ∧
      ¬ Render.EndsOnce (Render.comment 0 (some "All of maps/*/index.")).toList ∧
      ∃ text plain, render globGraph globOptions = .ok text ∧
        render (globGraph.map TypeNode.bare) globOptions = .ok plain ∧
        codeOfText plain = ["export interface Glob \x7b\x7d".toList] ∧
        codeOfText text =
          ["index.".toList, " */".toList, "export interface Glob \x7b\x7d".toList] := by
  have hplain : render (globGraph.map TypeNode.bare) globOptions =
      .ok "export interface Glob \x7b\x7d\n" := by decide +kernel
  have htext : render globGraph globOptions =
      .ok "/**\n * All of maps/*/index.\n */\nexport interface Glob \x7b\x7d\n" := by decide +kernel
  refine ⟨⟨by decide +kernel, fun text h => ?_⟩, ?_, _, _, htext, hplain, by decide +kernel,
    by decide +kernel⟩
  · obtain rfl := Except.ok.inj (hplain.symm.trans h)
    unfold StaysInCode
    decide +kernel
  · rw [Render.endsOnce_comment_iff, not_not]
    decide +kernel

end TypeExport
