import TypeExport.Proofs.Declaration.Layout
import TypeExport.Proofs.Declaration.Unambiguous

/-! # Rendering is Faithful

    Two graphs without comments that are written with the same options and have the same text are
    the same graph.  The graphs are in normal form: their declarations have names, and the types in
    them declare nothing.

    The clean-up of blank lines changes nothing in a declaration, because each of its lines ends in
    punctuation.  It can be seen again in the text of the whole file, line by line, where types and
    members are known from what is written of them. -/

namespace TypeExport

open Text

/-! ## Section 1: Declarations in normal form -/

/-- The value of the member is the literal of a string or of an integer. -/
inductive EnumMember.IsLiteral : EnumMember → Prop
  | string {name text} : IsLiteral (.string name text)
  | integer {name i} : IsLiteral (.integer name i)

/-- A declaration without comments: an interface or an enumeration that has a name. -/
inductive TypeNode.NormalRoot : TypeNode → Prop
  | interface {name members} (hname : isBareName name = true)
    (h : ∀ mem ∈ members, Member.Normal mem) : NormalRoot (.interface name none members)
  | enum {name members} (hname : isBareName name = true)
    (h : ∀ m ∈ members, EnumMember.IsLiteral m) : NormalRoot (.enum name none members)

theorem newline_not_mem_toString (i : Int) : '\n' ∉ (toString i).toList := by
  have hdigits : ∀ n : Nat, '\n' ∉ n.repr.toList := by
    intro n hmem
    rw [Nat.repr_eq_ofList_toDigits, String.toList_ofList] at hmem
    exact absurd (Nat.isDigit_of_mem_toDigits (by decide) (by decide) hmem) (by decide)
  rw [Int.toString_eq_repr, Int.repr_eq_if]
  split
  · exact hdigits _
  · rw [String.toList_append, List.mem_append, not_or]
    exact ⟨by decide, hdigits _⟩

theorem EnumMember.IsLiteral.newline_not_mem {m : EnumMember} (h : m.IsLiteral) :
    '\n' ∉ m.value.toList := by
  cases h with
  | string => exact newline_not_mem_quote _
  | integer => exact newline_not_mem_toString _

namespace Render

/-! ## Section 2: The text of a declaration -/

theorem toList_enumLine (depth : Nat) (m : EnumMember) (after : List Char) :
    (enumLine depth m).toList ++ after = (indent depth).toList ++ ((memberName m.name).toList ++
      ' ' :: '=' :: ' ' :: ((m.value.toList ++ [',']) ++ '\n' :: after)) := by
  have hequals : " = ".toList = [' ', '=', ' '] := rfl
  have hend : ",\n".toList = [',', '\n'] := rfl
  simp [enumLine, hequals, hend]

def enumLines (depth : Nat) (ms : List EnumMember) : String :=
  String.join (ms.map (enumLine depth))

theorem toList_enumLines_cons (depth : Nat) (m : EnumMember) (ms : List EnumMember) :
    (enumLines depth (m :: ms)).toList =
      (enumLine depth m).toList ++ (enumLines depth ms).toList := by
  simp [enumLines, String.toList_join]

theorem not_endsBlock_enumLines (depth : Nat) (m : EnumMember) (ms : List EnumMember)
    (after : List Char) : ¬ EndsBlock depth ((enumLines depth (m :: ms)).toList ++ after) := by
  rw [EndsBlock, not_not, toList_enumLines_cons, List.append_assoc, toList_enumLine]
  exact List.prefix_append _ _

/-- A value that is a literal ends where its line ends. -/
theorem enumLine_append_inj {depth : Nat} {m m' : EnumMember} {after after' : List Char}
    (hm : m.IsLiteral) (hm' : m'.IsLiteral)
    (h : (enumLine depth m).toList ++ after = (enumLine depth m').toList ++ after') :
    m = m' ∧ after = after' := by
  rw [toList_enumLine, toList_enumLine] at h
  have hblank : ∀ xs, EndsName (' ' :: xs) := endsName_punctuation (by simp)
  obtain ⟨hname, hrest⟩ := memberName_append_inj (hblank _) (hblank _) (List.append_cancel_left h)
  simp only [List.cons.injEq, true_and] at hrest
  -- Literals have no line feeds, so the comma behind the value ends the line.
  have hvalue : ∀ {x : EnumMember}, x.IsLiteral → '\n' ∉ x.value.toList ++ [','] := by
    intro x hx hmem
    rcases List.mem_append.mp hmem with hmem | hmem
    · exact hx.newline_not_mem hmem
    · exact absurd hmem (by decide)
  obtain ⟨hline, hnext⟩ := line_append_inj (hvalue hm) (hvalue hm') hrest
  obtain ⟨name, value⟩ := m
  obtain ⟨name', value'⟩ := m'
  obtain rfl : name = name' := hname
  obtain rfl : value = value' := String.toList_injective (List.append_cancel_right hline)
  exact ⟨rfl, hnext⟩

theorem enumLines_append_inj {depth : Nat} {ms ms' : List EnumMember} {after after' : List Char}
    (hms : ∀ m ∈ ms, m.IsLiteral) (hms' : ∀ m ∈ ms', m.IsLiteral)
    (hafter : EndsBlock depth after) (hafter' : EndsBlock depth after')
    (h : (enumLines depth ms).toList ++ after = (enumLines depth ms').toList ++ after') :
    ms = ms' ∧ after = after' := by
  induction ms generalizing ms' with
  | nil =>
    cases ms' with
    | nil => exact ⟨rfl, h⟩
    | cons m' ms' =>
      -- A line of a member cannot stand where the block has ended.
      have h : after = (enumLines depth (m' :: ms')).toList ++ after' := h
      exact absurd (h ▸ hafter) (not_endsBlock_enumLines _ _ _ _)
  | cons m ms ih =>
    cases ms' with
    | nil =>
      have h : (enumLines depth (m :: ms)).toList ++ after = after' := h
      exact absurd (h ▸ hafter') (not_endsBlock_enumLines _ _ _ _)
    | cons m' ms' =>
      obtain ⟨hm, hmore⟩ := List.forall_mem_cons.mp hms
      obtain ⟨hm', hmore'⟩ := List.forall_mem_cons.mp hms'
      rw [toList_enumLines_cons, toList_enumLines_cons, List.append_assoc, List.append_assoc] at h
      obtain ⟨rfl, hlines⟩ := enumLine_append_inj hm hm' h
      obtain ⟨rfl, hsame⟩ := ih hmore hmore' hlines
      exact ⟨rfl, hsame⟩

/-- What is written of a declaration, up to what follows the opening brace. -/
def declText (depth : Nat) (keyword name : String) (rest : List Char) : List Char :=
  (indent depth).toList ++ ("export ".toList ++ (keyword.toList ++
    ' ' :: (name.toList ++ ' ' :: '\x7b' :: rest)))

theorem declaration_interface_ok {depth : Nat} {name : String} {ms : List Member} {s : String}
    (h : declaration false depth (.interface name none ms) = .ok s) :
    ∃ body, members (depth + 1) ms = .ok body ∧
      s.toList = declText depth "interface" name (blockRest depth body ms.isEmpty) := by
  obtain ⟨-, t, ht, rfl⟩ := interface_of_declaration_ok h
  obtain ⟨body, hbody, htext⟩ := type_interface_ok ht
  refine ⟨body, hbody, ?_⟩
  have hkeyword :
      "export interface ".toList = "export ".toList ++ ("interface".toList ++ [' ']) := rfl
  have hblank : " ".toList = [' '] := rfl
  simp [declText, comment, String.toList_append, htext, hkeyword, hblank]

theorem declaration_enum_ok {depth : Nat} {name : String} {ms : List EnumMember} {s : String}
    (h : declaration false depth (.enum name none ms) = .ok s) :
    s.toList =
      declText depth "enum" name (blockRest depth (enumLines (depth + 1) ms) ms.isEmpty) := by
  rw [declaration] at h
  obtain rfl := Except.ok.inj h
  have hkeyword : "export enum ".toList = "export ".toList ++ ("enum".toList ++ [' ']) := rfl
  have hblank : " ".toList = [' '] := rfl
  simp only [comment, Bool.false_eq_true, if_false, String.toList_append, toList_block, hkeyword,
    hblank]
  simp [declText, enumLines]

theorem declText_append_inj {depth : Nat} {keyword name name' : String}
    {rest rest' after after' : List Char} (hname : isBareName name = true)
    (hname' : isBareName name' = true)
    (h : declText depth keyword name rest ++ after = declText depth keyword name' rest' ++ after') :
    name = name' ∧ rest ++ after = rest' ++ after' := by
  unfold declText at h
  simp only [List.append_assoc, List.cons_append, List.append_cancel_left_eq, List.cons.injEq,
    true_and] at h
  have hblank : ∀ xs, EndsName (' ' :: xs) := endsName_punctuation (by simp)
  obtain ⟨hsame, h⟩ := bareName_append_inj hname hname' (hblank _) (hblank _) h
  simp only [List.cons.injEq, true_and] at h
  exact ⟨hsame, h⟩

/-- The keyword tells the declarations apart. -/
theorem interface_ne_enum {depth : Nat} {name name' : String}
    {rest rest' after after' : List Char} :
    declText depth "interface" name rest ++ after ≠
      declText depth "enum" name' rest' ++ after' := by
  intro h
  unfold declText at h
  simp only [List.append_assoc, List.append_cancel_left_eq] at h
  exact absurd (List.cons.inj h).1 (by decide)

/-- A declaration is known from its text, whatever follows it. -/
theorem declaration_append_inj {depth : Nat} {n n' : TypeNode} {s s' : String}
    {after after' : List Char} (hn : n.NormalRoot) (hn' : n'.NormalRoot)
    (hs : declaration false depth n = .ok s) (hs' : declaration false depth n' = .ok s')
    (h : s.toList ++ after = s'.toList ++ after') : n = n' ∧ after = after' := by
  cases hn with
  | interface hname hms =>
    obtain ⟨body, hbody, htext⟩ := declaration_interface_ok hs
    rw [htext] at h
    cases hn' with
    | interface hname' hms' =>
      obtain ⟨body', hbody', htext'⟩ := declaration_interface_ok hs'
      rw [htext'] at h
      obtain ⟨rfl, hrest⟩ := declText_append_inj hname hname' h
      have hdecode := members_decode _ (depth + 1) hms
      obtain ⟨rfl, hsame⟩ := blockRest_append_inj
        (fun hend hend' heq => hdecode hms' hbody hbody' hend hend' heq) hrest
      exact ⟨rfl, hsame⟩
    -- The keywords differ.
    | enum => exact absurd (declaration_enum_ok hs' ▸ h) interface_ne_enum
  | enum hname hms =>
    rw [declaration_enum_ok hs] at h
    cases hn' with
    | interface =>
      obtain ⟨body', _, htext'⟩ := declaration_interface_ok hs'
      exact absurd (htext' ▸ h).symm interface_ne_enum
    | enum hname' hms' =>
      rw [declaration_enum_ok hs'] at h
      obtain ⟨rfl, hrest⟩ := declText_append_inj hname hname' h
      obtain ⟨rfl, hsame⟩ := blockRest_append_inj
        (fun hend hend' heq => enumLines_append_inj hms hms' hend hend' heq) hrest
      exact ⟨rfl, hsame⟩

/-- Declarations in their lines are known from their text. -/
theorem declarations_inj {depth : Nat} {graph graph' : List TypeNode} {ds ds' : List String}
    (hgraph : ∀ n ∈ graph, n.NormalRoot) (hgraph' : ∀ n ∈ graph', n.NormalRoot)
    (hds : graph.mapM (declaration false depth) = .ok ds)
    (hds' : graph'.mapM (declaration false depth) = .ok ds')
    (h : ds.flatMap (·.toList ++ ['\n']) = ds'.flatMap (·.toList ++ ['\n'])) : graph = graph' := by
  induction graph generalizing graph' ds ds' with
  | nil =>
    obtain rfl := Except.ok.inj hds
    cases graph' with
    | nil => rfl
    | cons n' graph' =>
      obtain ⟨d', more', _, _, rfl⟩ := mapM_cons_ok hds'
      exact absurd h.symm (by simp)
  | cons n graph ih =>
    obtain ⟨d, more, hd, hmore, rfl⟩ := mapM_cons_ok hds
    cases graph' with
    | nil =>
      obtain rfl := Except.ok.inj hds'
      exact absurd h (by simp)
    | cons n' graph' =>
      obtain ⟨d', more', hd', hmore', rfl⟩ := mapM_cons_ok hds'
      obtain ⟨hn, hns⟩ := List.forall_mem_cons.mp hgraph
      obtain ⟨hn', hns'⟩ := List.forall_mem_cons.mp hgraph'
      rw [List.flatMap_cons, List.flatMap_cons, List.append_assoc, List.append_assoc] at h
      -- The two first declarations are one, and what follows them is the same text.
      obtain ⟨rfl, hlines⟩ := declaration_append_inj hn hn' hd hd' h
      exact congrArg (n :: ·) (ih hns hns' hmore hmore' (List.cons.inj hlines).2)

/-! ## Section 3: Every line is closed -/

mutual

/-- The names in a normal type are identifiers, which hold no line feeds. -/
theorem type_oneLine : ∀ n : TypeNode, n.Normal → OneLine n.words
  | .simple name, h => by
    cases h with | simple hname hvoid =>
    exact List.forall_mem_singleton.mpr (newline_not_mem_bareName hname)
  | .void, _ => nofun
  | .array [elem], h => by
    cases h with | array helem =>
    simpa [TypeNode.words, TypeNode.wordsOfAll] using type_oneLine elem helem
  | .map [key, value], h => by
    cases h with | map hkey hvalue =>
    simp only [TypeNode.words, TypeNode.wordsOfAll, List.append_nil, oneLine_append]
    exact ⟨type_oneLine key hkey, type_oneLine value hvalue⟩
  | .interface name doc ms, h => by
    cases h with | interface hms =>
    exact oneLine_cons.mpr ⟨by decide, members_oneLine ms hms⟩
  | .array [], h | .array (_ :: _ :: _), h => by cases h
  | .map [], h | .map [_], h | .map (_ :: _ :: _ :: _), h => by cases h
  | .enum .., h => by cases h

/-- So are those in normal members. -/
theorem members_oneLine : ∀ ms : List Member, (∀ mem ∈ ms, mem.Normal) →
    OneLine (TypeNode.wordsOfMembers ms)
  | [], _ => nofun
  | ⟨name, t, optional, function, doc, args⟩ :: rest, h => by
    obtain ⟨hmem, hrest⟩ := List.forall_mem_cons.mp h
    obtain ⟨htype, hnames, hargs⟩ := hmem.parts
    simp only [TypeNode.wordsOfMembers, oneLine_append]
    exact ⟨⟨type_oneLine t htype, args_oneLine args hnames hargs⟩, members_oneLine rest hrest⟩

/-- So are those in normal parameters. -/
theorem args_oneLine : ∀ args : List Arg, (∀ a ∈ args, isBareName a.name = true) →
    (∀ a ∈ args, a.type.Normal) → OneLine (TypeNode.wordsOfArgs args)
  | [], _, _ => nofun
  | ⟨name, t⟩ :: rest, hnames, htypes => by
    obtain ⟨hname, hnames⟩ := List.forall_mem_cons.mp hnames
    obtain ⟨htype, htypes⟩ := List.forall_mem_cons.mp htypes
    simp only [TypeNode.wordsOfArgs, List.cons_append, oneLine_cons, oneLine_append]
    exact ⟨newline_not_mem_bareName hname, type_oneLine t htype, args_oneLine rest hnames htypes⟩

end

/-- The literals of a normal declaration hold no line feeds either. -/
theorem declaration_oneLine {n : TypeNode} (h : n.NormalRoot) : OneLine n.words := by
  cases h with
  | interface hname hms =>
    exact oneLine_cons.mpr ⟨newline_not_mem_bareName hname, members_oneLine _ hms⟩
  | enum hname hms =>
    refine oneLine_cons.mpr ⟨newline_not_mem_bareName hname, fun value hvalue => ?_⟩
    obtain ⟨m, hm, rfl⟩ := List.mem_map.mp hvalue
    exact (hms m hm).newline_not_mem

mutual

/-- A normal type has no fault at any place. -/
theorem type_not_normal {n : TypeNode} : n.Faulty → ¬ n.Normal
  | .arrayCount hcount, .array _ => hcount rfl
  | .mapCount hcount, .map _ _ => hcount rfl
  | .elem hfault, .array helem => type_not_normal hfault helem
  | .key hfault, .map hkey _ => type_not_normal hfault hkey
  | .value hfault, .map _ hvalue => type_not_normal hfault hvalue
  | .member hmem hfault, h => by
    cases h with
    | interface hms => exact member_not_normal hfault (hms _ hmem)

/-- Nor has a normal member. -/
theorem member_not_normal {mem : Member} : mem.Faulty → ¬ mem.Normal
  | .type hfault, h => type_not_normal hfault h.parts.1
  | .arg _ ha hfault, h => type_not_normal hfault (h.parts.2.2 _ ha)

end

theorem not_refused_of_normal {n : TypeNode} (h : n.NormalRoot) : ¬ n.Refused := by
  intro hrefused
  cases h with
  | interface hname hms =>
    cases hrefused with
    | kind hkind => exact hkind .interface
    | nameless => exact absurd hname (by decide)
    | inside hfault =>
      cases hfault with
      | member hmem hfault => exact member_not_normal hfault (hms _ hmem)
  | enum =>
    cases hrefused with
    | kind hkind => exact hkind .enum
    | inside hfault => cases hfault

/-- A normal declaration has a text, and every line in it is closed. -/
theorem declaration_closed (depth : Nat) {n : TypeNode} (h : n.NormalRoot) :
    ∃ s, declaration false depth n = .ok s ∧ ClosesLines (s.toList ++ ['\n']) := by
  obtain ⟨s, hs⟩ := declaration_ok_of_not_refused (not_refused_of_normal h) false depth
  exact ⟨s, hs, declaration_closesLines (declaration_oneLine h) hs⟩

theorem declarations_closed (depth : Nat) {graph : List TypeNode}
    (h : ∀ n ∈ graph, n.NormalRoot) :
    ∃ ds, graph.mapM (declaration false depth) = .ok ds ∧
      ∀ d ∈ ds, ClosesLines (d.toList ++ ['\n']) := by
  induction graph with
  | nil => exact ⟨[], rfl, by simp⟩
  | cons n graph ih =>
    obtain ⟨hn, hns⟩ := List.forall_mem_cons.mp h
    obtain ⟨d, hd, hclosed⟩ := declaration_closed depth hn
    obtain ⟨ds, hds, hall⟩ := ih hns
    refine ⟨d :: ds, ?_, List.forall_mem_cons.mpr ⟨hclosed, hall⟩⟩
    rw [List.mapM_cons, hd, hds]
    rfl

/-! ## Section 4: The lines of a file -/

theorem endsLine_declarationsText (ds : List String) : EndsLine (declarationsText ds).toList := by
  induction ds with
  | nil => exact .inl rfl
  | cons d ds ih =>
    cases ds with
    | nil => exact .inr ⟨d.toList, toList_declarationsText_singleton d⟩
    | cons e ds =>
      have hend : EndsLine (d.toList ++ ['\n'] ++ ['\n']) := .inr ⟨_, rfl⟩
      rw [toList_declarationsText_cons, List.append_cons]
      exact hend.append ih

/-- The clean-up leaves the declarations as they are. -/
theorem keptLines_declarationsText {ds : List String}
    (h : ∀ d ∈ ds, ClosesLines (d.toList ++ ['\n'])) :
    (keptLines (lines (declarationsText ds).toList)).flatMap (· ++ ['\n']) =
      ds.flatMap (·.toList ++ ['\n']) := by
  induction ds with
  | nil => rfl
  | cons d ds ih =>
    obtain ⟨hd, hds⟩ := List.forall_mem_cons.mp h
    obtain ⟨hkept, hjoin⟩ := hd.lines_spec (.inr ⟨_, rfl⟩)
    cases ds with
    | nil =>
      rw [toList_declarationsText_singleton, hkept, hjoin]
      simp
    | cons e ds =>
      -- The empty line between two declarations is not kept.
      have hend : EndsLine (d.toList ++ ['\n']) := .inr ⟨_, rfl⟩
      rw [toList_declarationsText_cons, hend.lines_append, lines_newline, keptLines_append, hkept,
        keptLines_cons_blank rfl, List.flatMap_append, hjoin, ih hds]
      rfl

/-- What a file says before its declarations. -/
def openingLines (options : RenderOptions) : List (List Char) :=
  match options.namespaceName with
  | none => []
  | some name => keptLines (lines ("export namespace " ++ name ++ " \x7b\n").toList)

/-- What a file says after its declarations. -/
def closingLines (options : RenderOptions) : List (List Char) :=
  match options.namespaceName with
  | none => []
  | some _ => keptLines (lines "\x7d\n".toList)

/-- The lines of the declarations stand between the same lines in every file. -/
theorem keptLines_body {options : RenderOptions} {graph : List TypeNode} {ds : List String}
    (hds : graph.mapM (declaration options.enumsAsSumTypes
      (if options.namespaceName.isSome then 1 else 0)) = .ok ds) :
    ∃ after, body options graph = .ok after ∧ keptLines (lines after.toList) =
      openingLines options ++ keptLines (lines (declarationsText ds).toList) ++
        closingLines options := by
  simp only [body, hds]
  refine ⟨_, rfl, ?_⟩
  unfold openingLines closingLines
  cases options.namespaceName with
  | none => exact (List.append_nil _).symm
  | some name =>
    -- The opening of a namespace is a line by itself.
    have hopening : EndsLine ("export namespace " ++ name ++ " \x7b\n").toList := by
      refine .inr ⟨("export namespace " ++ name ++ " \x7b").toList, ?_⟩
      simp only [String.toList_append, List.append_assoc]
      rfl
    have hlines := (hopening.append (endsLine_declarationsText ds)).lines_append "\x7d\n".toList
    rw [hopening.lines_append] at hlines
    have hkept := congrArg keptLines hlines
    rw [keptLines_append, keptLines_append, ← String.toList_append, ← String.toList_append] at hkept
    exact hkept

/-- A normal graph has a text, and the declarations stand in it as they were written. -/
theorem lines_render {options : RenderOptions} (hoptions : options.enumsAsSumTypes = false)
    {graph : List TypeNode} (h : ∀ n ∈ graph, n.NormalRoot) : ∃ ds text,
      graph.mapM (declaration false (if options.namespaceName.isSome then 1 else 0)) = .ok ds ∧
      (∀ d ∈ ds, ClosesLines (d.toList ++ ['\n'])) ∧ render graph options = .ok text ∧
      (lines text.toList).filter (!isBlankLine ·) =
        keptLines (lines (options.preamble ++ "\n\n").toList) ++ (openingLines options ++
          keptLines (lines (declarationsText ds).toList) ++ closingLines options) := by
  obtain ⟨ds, hds, hclosed⟩ := declarations_closed _ h
  obtain ⟨after, hafter, hlines⟩ := keptLines_body (hoptions ▸ hds)
  refine ⟨ds, _, hds, hclosed, render_eq_ok_iff.mpr ⟨after, hafter, rfl⟩, ?_⟩
  rw [filter_lines_collapseBlankLines, keptLines_file, hlines]

end Render

/-- Graphs in normal form have texts, and different graphs have different ones, whatever the
    preamble and the namespace. -/
theorem render_faithful {options : RenderOptions} (hoptions : options.enumsAsSumTypes = false)
    {graph graph' : List TypeNode} (hgraph : ∀ n ∈ graph, n.NormalRoot)
    (hgraph' : ∀ n ∈ graph', n.NormalRoot) :
    (∃ text, render graph options = .ok text) ∧
      (render graph options = render graph' options → graph = graph') := by
  obtain ⟨ds, text, hds, hclosed, hrender, hkept⟩ := Render.lines_render hoptions hgraph
  obtain ⟨ds', text', hds', hclosed', hrender', hkept'⟩ := Render.lines_render hoptions hgraph'
  refine ⟨⟨text, hrender⟩, fun hsame => ?_⟩
  obtain rfl : text = text' := Except.ok.inj (by rw [← hrender, ← hrender', hsame])
  -- Preamble and namespace are the same, so what is left are the lines of the declarations.
  rw [hkept] at hkept'
  have hlines := List.append_cancel_left (List.append_cancel_right (List.append_cancel_left hkept'))
  refine Render.declarations_inj hgraph hgraph' hds hds' ?_
  rw [← Render.keptLines_declarationsText hclosed, ← Render.keptLines_declarationsText hclosed',
    hlines]

/-- Days, and weeks with plans for them that are of the given type. -/
def weekGraph (plans : TypeNode) : List TypeNode := [
  .enum "Day" none [.string "first day" "Mon\n\"day\"", .integer "last" (-7)],
  .interface "Week" none [
    { Member.property "plans;" plans with optional := true },
    .method "at" .void [⟨"day", .simple "Day"⟩, ⟨"rest", .interface "" none []⟩]]]

theorem normal_weekGraph {plans : TypeNode} (h : plans.Normal) :
    ∀ n ∈ weekGraph plans, n.NormalRoot := by
  have hday : (TypeNode.simple "Day").Normal := .simple (by decide +kernel) (by decide)
  have hargs : ∀ a ∈ [Arg.mk "day" (.simple "Day"), ⟨"rest", .interface "" none []⟩],
      isBareName a.name = true ∧ a.type.Normal := by
    refine List.forall_mem_cons.mpr ⟨⟨by decide +kernel, hday⟩, ?_⟩
    exact List.forall_mem_singleton.mpr ⟨by decide +kernel, .interface (by simp)⟩
  refine List.forall_mem_cons.mpr ⟨.enum (by decide +kernel) ?_, ?_⟩
  · exact List.forall_mem_cons.mpr ⟨.string, List.forall_mem_singleton.mpr .integer⟩
  · refine List.forall_mem_singleton.mpr (.interface (by decide +kernel) ?_)
    refine List.forall_mem_cons.mpr ⟨.property h, List.forall_mem_singleton.mpr ?_⟩
    exact .method .void (fun a ha => (hargs a ha).1) fun a ha => (hargs a ha).2

def mapOf (value : TypeNode) : TypeNode := .map [.string, value]

def planOptions : RenderOptions := { namespaceName := some "Plans" }

/-- It can be seen whether the maps are in an array, or the values of a map are arrays. -/
theorem arrays_told_apart :
    (∃ text, render (weekGraph (.array [mapOf .number])) planOptions = .ok text) ∧
      render (weekGraph (.array [mapOf .number])) planOptions ≠
        render (weekGraph (mapOf (.array [.number]))) planOptions := by
  have hnumber : TypeNode.number.Normal := .simple (by decide +kernel) (by decide)
  have hstring : TypeNode.string.Normal := .simple (by decide +kernel) (by decide)
  have hoptions : planOptions.enumsAsSumTypes = false := rfl
  obtain ⟨htext, hsame⟩ := render_faithful hoptions
    (normal_weekGraph (.array (.map hstring hnumber)))
    (normal_weekGraph (.map hstring (.array hnumber)))
  refine ⟨htext, fun h => ?_⟩
  have hgraphs := hsame h
  simp [weekGraph, Member.property] at hgraphs

end TypeExport
