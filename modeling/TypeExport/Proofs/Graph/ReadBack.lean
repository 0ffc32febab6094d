import TypeExport.Graph.Tree
import TypeExport.Proofs.Json.RoundTrip
import TypeExport.Tool.Run

/-! # Emitted Graphs Read Back

    A graph that is emitted as data is found again by whoever reads the text.  Writing leaves out
    comments that are not there and empty parameter lists, and reading puts in exactly those, so the
    two meet on every node, also on nodes that no walk writes and that have no declaration.

    The text is read by the rules of the format alone, with its limit on the nesting of
    containers. -/

namespace TypeExport

open TypeExport.Tree

/-! ## Section 1: Nodes as data -/

theorem optionalText_map (s : Option String) : optionalText (s.map .text) = some s := by
  cases s <;> rfl

/-- A list that is left out when it is empty is read as it was. -/
theorem itemsOrNone_listEntry (items : List Tree) :
    itemsOrNone (if items.isEmpty then none else some (.list items)) = some items := by
  cases items <;> rfl

theorem EnumMember.ofTree_toTree (lenient : Bool) (m : EnumMember) :
    EnumMember.ofTree lenient m.toTree = some m := rfl

theorem EnumMember.mapM_ofTree (lenient : Bool) (ms : List EnumMember) :
    (ms.map EnumMember.toTree).mapM (EnumMember.ofTree lenient) = some ms := by
  induction ms with
  | nil => rfl
  | cons m ms ih =>
    rw [List.map_cons, List.mapM_cons, ih, EnumMember.ofTree_toTree]
    rfl

namespace TypeNode

/-- What a reader finds in a written member. -/
theorem slots_member (name : String) (type : Tree) (optional function : Bool)
    (comment : Option String) (args : List Tree) :
    (Tree.record ([("name", .text name), ("type", type), ("optional", .bool optional),
      ("function", .bool function)] ++ textEntry "comment" comment ++
        listEntry "args" args)).slots
      ["name", "type", "optional", "function", "comment", "args"] false =
    some [some (.text name), some type, some (.bool optional), some (.bool function),
      comment.map .text, if args.isEmpty then none else some (.list args)] := by
  cases comment <;> cases args <;> rfl

/-- What a reader finds in a written declaration or inline interface, with its tag. -/
theorem slots_declaration (kind name : String) (comment : Option String) (members : List Tree) :
    (Tree.record ([("kind", .text kind), ("name", .text name)] ++ textEntry "comment" comment ++
      [("members", .list members)])).slots ["name", "comment", "members"] false =
    some [some (.text name), comment.map .text, some (.list members)] := by
  cases comment <;> rfl

theorem tagged_declaration (kind name : String) (comment : Option String) (members : List Tree) :
    let t := Tree.record ([("kind", .text kind), ("name", .text name)] ++
      textEntry "comment" comment ++ [("members", .list members)])
    t.tagged? = some (.text kind, t) := by
  cases comment <;> rfl

/-- A kind by its name is known everywhere. -/
theorem kindOf_text {kinds : List String} {kind : String} (h : kind ∈ kinds) (indexed : Bool) :
    kindOf kinds indexed (.text kind) = some kind := by
  rw [kindOf, if_pos (List.contains_iff_mem.mpr h)]

/-! ## Section 2: Reading a tagged record -/

section reading

variable {t : Tree} {nested : Bool}

theorem ofTree_simple {name : String} (ht : t.tagged? = some (.text "simple", t))
    (hslots : t.slots ["name"] false = some [some (.text name)]) :
    ofTree nested t = some (.simple name) := by
  have hkind : kindOf kinds nested (.text "simple") = _ := kindOf_text (by decide) nested
  rw [ofTree]
  grind

theorem ofTree_array {params : List Tree} (ht : t.tagged? = some (.text "array", t))
    (hslots : t.slots ["params"] false = some [some (.list params)]) :
    ofTree nested t = .array <$> ofTrees params := by
  have hkind : kindOf kinds nested (.text "array") = _ := kindOf_text (by decide) nested
  rw [ofTree]
  grind

theorem ofTree_map {params : List Tree} (ht : t.tagged? = some (.text "map", t))
    (hslots : t.slots ["params"] false = some [some (.list params)]) :
    ofTree nested t = .map <$> ofTrees params := by
  have hkind : kindOf kinds nested (.text "map") = _ := kindOf_text (by decide) nested
  rw [ofTree]
  grind

theorem ofTree_interface {name : String} {comment : Option Tree} {members : List Tree}
    (ht : t.tagged? = some (.text "interface", t))
    (hslots : t.slots ["name", "comment", "members"] false =
      some [some (.text name), comment, some (.list members)]) :
    ofTree nested t = do
      return .interface name (← optionalText comment) (← membersOfTrees members) := by
  have hkind : kindOf kinds nested (.text "interface") = _ := kindOf_text (by decide) nested
  rw [ofTree]
  grind

theorem ofTree_enum {name : String} {comment : Option Tree} {members : List Tree}
    (ht : t.tagged? = some (.text "enum", t))
    (hslots : t.slots ["name", "comment", "members"] false =
      some [some (.text name), comment, some (.list members)]) :
    ofTree nested t = do
      return .enum name (← optionalText comment) (← members.mapM (EnumMember.ofTree false)) := by
  have hkind : kindOf kinds nested (.text "enum") = _ := kindOf_text (by decide) nested
  rw [ofTree]
  grind

theorem ofTree_void (ht : t.tagged? = some (.text "void", t)) (hbare : t.isBare = true) :
    ofTree nested t = some .void := by
  have hkind : kindOf kinds nested (.text "void") = _ := kindOf_text (by decide) nested
  rw [ofTree]
  grind

/-- Reads a member first. -/
theorem membersOfTrees_cons {t type : Tree} {name : String}
    {optional function comment args : Option Tree} {items : List Tree}
    (hslots : t.slots ["name", "type", "optional", "function", "comment", "args"] false =
      some [some (.text name), some type, optional, function, comment, args])
    (hargs : itemsOrNone args = some items) (rest : List Tree) :
    membersOfTrees (t :: rest) = do
      return ⟨name, ← ofTree true type, ← flag optional, ← flag function,
        ← optionalText comment, ← argsOfTrees items⟩ :: (← membersOfTrees rest) := by
  rw [membersOfTrees]
  grind

/-- Reads a parameter first. -/
theorem argsOfTrees_cons {t type : Tree} {name : String}
    (hslots : t.slots ["name", "type"] false = some [some (.text name), some type])
    (rest : List Tree) :
    argsOfTrees (t :: rest) = do
      return ⟨name, ← ofTree true type⟩ :: (← argsOfTrees rest) := by
  rw [argsOfTrees]
  grind

end reading

/-! ## Section 3: Reading what was written -/

mutual

/-- A written node is read back, on its own and inside another one. -/
theorem ofTree_toTree : ∀ (n : TypeNode) (nested : Bool), ofTree nested n.toTree = some n
  | .simple name, nested => by
    rw [toTree]
    exact ofTree_simple rfl rfl
  | .array params, nested => by
    rw [toTree, ofTree_array rfl rfl, ofTrees_toTrees params]
    rfl
  | .map params, nested => by
    rw [toTree, ofTree_map rfl rfl, ofTrees_toTrees params]
    rfl
  -- A comment that is missing leaves no entry, and is read as missing.
  | .interface name comment members, nested => by
    rw [toTree, ofTree_interface (tagged_declaration _ _ _ _) (slots_declaration _ _ _ _),
      optionalText_map, membersOfTrees_membersToTrees members]
    rfl
  | .enum name comment members, nested => by
    rw [toTree, ofTree_enum (tagged_declaration _ _ _ _) (slots_declaration _ _ _ _),
      optionalText_map, EnumMember.mapM_ofTree]
    rfl
  | .void, nested => by
    rw [toTree]
    exact ofTree_void rfl rfl

/-- So are several nodes. -/
theorem ofTrees_toTrees : ∀ ns : List TypeNode, ofTrees (toTrees ns) = some ns
  | [] => by rw [toTrees, ofTrees]
  | n :: rest => by
    rw [toTrees, ofTrees, ofTree_toTree n true, ofTrees_toTrees rest]
    rfl

/-- So are members. -/
theorem membersOfTrees_membersToTrees :
    ∀ ms : List Member, membersOfTrees (membersToTrees ms) = some ms
  | [] => by rw [membersToTrees, membersOfTrees]
  | ⟨name, type, optional, function, comment, args⟩ :: rest => by
    rw [membersToTrees, membersOfTrees_cons (slots_member _ _ _ _ _ _) (itemsOrNone_listEntry _),
      ofTree_toTree type true, optionalText_map, argsOfTrees_argsToTrees args,
      membersOfTrees_membersToTrees rest]
    rfl

/-- So are parameters. -/
theorem argsOfTrees_argsToTrees : ∀ args : List Arg, argsOfTrees (argsToTrees args) = some args
  | [] => by rw [argsToTrees, argsOfTrees]
  | ⟨name, type⟩ :: rest => by
    rw [argsToTrees, argsOfTrees_cons rfl, ofTree_toTree type true, argsOfTrees_argsToTrees rest]
    rfl

end

/-! ## Section 4: Written nodes have an exact text -/

theorem exact_textEntry (name : String) (s : Option String) :
    ∀ e ∈ textEntry name s, e.2.Exact := by
  cases s with
  | none => exact fun e he => absurd he List.not_mem_nil
  | some s => exact List.forall_mem_singleton.mpr .text

theorem exact_listEntry {name : String} {items : List Tree} (h : ∀ t ∈ items, t.Exact) :
    ∀ e ∈ listEntry name items, e.2.Exact := by
  rw [listEntry]
  split
  · exact fun e he => absurd he List.not_mem_nil
  · exact List.forall_mem_singleton.mpr (.list h)

theorem exact_enumMembers (ms : List EnumMember) :
    ∀ t ∈ ms.map EnumMember.toTree, t.Exact := by
  intro t ht
  obtain ⟨m, _, rfl⟩ := List.mem_map.mp ht
  refine .record ?_
  simp [Exact.text]

theorem exact_declaration (kind name : String) (comment : Option String) {members : List Tree}
    (h : ∀ t ∈ members, t.Exact) :
    (Tree.record ([("kind", .text kind), ("name", .text name)] ++ textEntry "comment" comment ++
      [("members", .list members)])).Exact := by
  refine .record ?_
  simp only [List.forall_mem_append]
  refine ⟨⟨?_, exact_textEntry _ _⟩, List.forall_mem_singleton.mpr (.list h)⟩
  simp [Exact.text]

mutual

theorem exact_toTree : ∀ n : TypeNode, n.toTree.Exact
  | .simple name => by
    rw [toTree]
    exact .record (by simp [Exact.text])
  | .array params => by
    rw [toTree]
    exact .record (by simp [Exact.text, Exact.list (exact_toTrees params)])
  | .map params => by
    rw [toTree]
    exact .record (by simp [Exact.text, Exact.list (exact_toTrees params)])
  | .interface name comment members => by
    rw [toTree]
    exact exact_declaration _ _ _ (exact_membersToTrees members)
  | .enum name comment members => by
    rw [toTree]
    exact exact_declaration _ _ _ (exact_enumMembers members)
  | .void => by
    rw [toTree]
    exact .record (by simp [Exact.text])

theorem exact_toTrees : ∀ ns : List TypeNode, ∀ t ∈ toTrees ns, t.Exact
  | [] => by
    rw [toTrees]
    simp
  | n :: rest => by
    rw [toTrees]
    exact List.forall_mem_cons.mpr ⟨exact_toTree n, exact_toTrees rest⟩

theorem exact_membersToTrees : ∀ ms : List Member, ∀ t ∈ membersToTrees ms, t.Exact
  | [] => by
    rw [membersToTrees]
    simp
  | ⟨name, type, optional, function, comment, args⟩ :: rest => by
    rw [membersToTrees]
    refine List.forall_mem_cons.mpr ⟨.record ?_, exact_membersToTrees rest⟩
    simp only [List.forall_mem_append]
    refine ⟨⟨?_, exact_textEntry _ _⟩, exact_listEntry (exact_argsToTrees args)⟩
    simp [Exact.text, Exact.bool, exact_toTree type]

theorem exact_argsToTrees : ∀ args : List Arg, ∀ t ∈ argsToTrees args, t.Exact
  | [] => by
    rw [argsToTrees]
    simp
  | ⟨name, type⟩ :: rest => by
    rw [argsToTrees]
    refine List.forall_mem_cons.mpr ⟨.record ?_, exact_argsToTrees rest⟩
    simp [Exact.text, exact_toTree type]

end

/-! ## Section 5: Graphs -/

/-- Written nodes are read back one by one. -/
theorem mapM_read_toTrees (graph : List TypeNode) : (toTrees graph).mapM read = some graph := by
  induction graph with
  | nil =>
    rw [toTrees]
    rfl
  | cons n rest ih =>
    have hread : read n.toTree = some n := by
      rw [read, if_pos (exact_toTree n).isReadable, ofTree_toTree n false]
    rw [toTrees, List.mapM_cons, hread, ih]
    rfl

end TypeNode

/-- A graph that is emitted as data, whatever its nodes and the texts in them, has a text that is
    well formed and says exactly this graph, if its containers are not nested too deep. -/
theorem emitText_ir_readsBack {graph : List TypeNode}
    (h : (Tree.list (TypeNode.toTrees graph)).nesting < Json.depthLimit) (options : RenderOptions) :
    ∃ text, Tool.emitText .ir graph options = .ok text ∧
      Json.read text = some (.list (TypeNode.toTrees graph)) ∧
      (Json.read text >>= TypeNode.readAll) = some graph := by
  have hexact : (Tree.list (TypeNode.toTrees graph)).Exact :=
    .list (TypeNode.exact_toTrees graph)
  have hend : ∀ c ∈ "\n".toList, Json.isSeparator c = true :=
    List.forall_mem_singleton.mpr (by decide)
  have hread : Json.read (Tool.graphText graph) = some (.list (TypeNode.toTrees graph)) :=
    Json.read_write hexact h (.lines 0) hend
  have hgraph : TypeNode.readAll (.list (TypeNode.toTrees graph)) = some graph :=
    TypeNode.mapM_read_toTrees graph
  refine ⟨Tool.graphText graph, rfl, hread, ?_⟩
  rw [hread]
  exact hgraph

/-- A graph that no walk finds: an array and a map with the wrong parameters, an enumeration inside
    a property that has parameters, nothing at all as a declaration, and texts that need escapes. -/
def oddGraph : List TypeNode := [
  .interface "Odd \"name\"\n" (some "\x00 \\ \t / é 😀") [
    ⟨"", .array [], true, false, none, [⟨"p", .enum "" none [⟨"A", "\x7f"⟩]⟩]⟩,
    ⟨"m", .map [.void, .simple "", .interface "x" none []], false, true, some "", []⟩],
  .void]

theorem oddGraph_readsBack :
    (Tree.list (TypeNode.toTrees oddGraph)).nesting < Json.depthLimit ∧
      ∃ text, Tool.emitText .ir oddGraph {} = .ok text ∧
        Json.read text = some (.list (TypeNode.toTrees oddGraph)) ∧
        (Json.read text >>= TypeNode.readAll) = some oddGraph := by
  have h : (Tree.list (TypeNode.toTrees oddGraph)).nesting < Json.depthLimit := by decide
  exact ⟨h, emitText_ir_readsBack h {}⟩

end TypeExport
