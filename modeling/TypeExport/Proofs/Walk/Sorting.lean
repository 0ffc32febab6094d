import Mathlib
import TypeExport.Proofs.Policy.Sorting
import TypeExport.Proofs.Walk.Parallel

/-! # Sorting and Walking

    A policy sorts while a walk is under way: the members of every struct, of every interface and of
    every enumeration as they are written, and the nodes in the end.  None of this changes what is
    found.  A graph in another order is the graph in discovery order with every level of it sorted
    afterwards, and the walks fail alike.

    The reason is that a walk never looks at the members of what it has written, only at the names
    of nodes, and at what has been declared, and sorting leaves both alone. -/

namespace TypeExport

/-! ## Section 1: Sorted graphs -/

/-- The declaration or inline interface with its own members in order. -/
def TypeNode.sortMembers (order : SortOrder) : TypeNode → TypeNode
  | .interface name comment members => .interface name comment (order.sortBy (·.name) members)
  | .enum name comment members => .enum name comment (order.sortBy (·.name) members)
  | n => n

/-- The node with the members of all interfaces and enumerations in it in order.  The parameters of
    methods stay where they are. -/
def TypeNode.sorted (order : SortOrder) : TypeNode → TypeNode :=
  TypeNode.rebuild (TypeNode.sortMembers order)

/-- The graph with every level of it in order, and the nodes themselves. -/
def sortGraph (order : SortOrder) (graph : List TypeNode) : List TypeNode :=
  order.sortBy (·.name) (graph.map (TypeNode.sorted order))

theorem TypeNode.name_sorted (order : SortOrder) (n : TypeNode) : (n.sorted order).name = n.name :=
  TypeNode.name_rebuild (fun n => by cases n <;> rfl) n

@[simp] theorem TypeNode.sorted_simple (order : SortOrder) (name : String) :
    (TypeNode.simple name).sorted order = .simple name :=
  TypeNode.rebuild_simple _ _

theorem upsert_sorted (order : SortOrder) (node : TypeNode) (nodes : List TypeNode) :
    upsert TypeNode.name (node.sorted order) (nodes.map (TypeNode.sorted order)) =
      (upsert TypeNode.name node nodes).map (TypeNode.sorted order) :=
  upsert_map_of_iff fun n _ => by rw [TypeNode.name_sorted, TypeNode.name_sorted]

namespace ExtractPolicy

/-! ## Section 2: Walks under two orders -/

/-- The policy with another order. -/
def sortedBy (policy : ExtractPolicy) (order : SortOrder) : ExtractPolicy :=
  { policy with sort := order }

/-- The second state has the nodes of the first, with their members in order. -/
def Sorts (order : SortOrder) (s r : Progress) : Prop :=
  r = ⟨s.nodes.map (TypeNode.sorted order), s.declared⟩

variable {policy : ExtractPolicy} {order : SortOrder} {s r : Progress}

theorem Sorts.put (h : Sorts order s r) (node : TypeNode) :
    Sorts order (s.put node) (r.put (node.sorted order)) := by
  subst h
  simp only [Sorts, Progress.put, upsert_sorted]

theorem Sorts.declare (h : Sorts order s r) (name : String) (node : TypeNode) :
    Sorts order (s.declare name node) (r.declare name (node.sorted order)) := by
  subst h
  simp only [Sorts, Progress.declare, upsert_sorted]

/-- An interface is written in order under the one policy, and put into order under the other. -/
theorem sorted_interface (name : String) (comment : Option String) (members : List Member) :
    TypeNode.sorted order
        (.interface name comment ((policy.sortedBy .discovery).arrange members)) =
      .interface name comment ((policy.sortedBy order).arrange
        (members.map (Member.mapTypes (TypeNode.sorted order)))) := by
  rw [TypeNode.sorted, TypeNode.rebuild_interface]
  rfl

theorem sorts_anonymous (field : Option HostField) (members : List Member) :
    Agree (Sorts order) (TypeNode.sorted order)
      ((policy.sortedBy .discovery).anonymousStruct field
        ((policy.sortedBy .discovery).arrange members))
      ((policy.sortedBy order).anonymousStruct field ((policy.sortedBy order).arrange
        (members.map (Member.mapTypes (TypeNode.sorted order))))) := by
  have hinline : ∀ {x : Walk TypeNode} {y : Walk TypeNode},
      x = pure (.interface "" none ((policy.sortedBy .discovery).arrange members)) →
      y = pure (.interface "" none ((policy.sortedBy order).arrange
        (members.map (Member.mapTypes (TypeNode.sorted order))))) →
      Agree (Sorts order) (TypeNode.sorted order) x y := by
    rintro _ _ rfl rfl
    exact .pure (sorted_interface "" none members).symm
  cases hnamer : policy.anonNamer with
  | none =>
    exact hinline (by simp only [anonymousStruct, sortedBy, hnamer])
      (by simp only [anonymousStruct, sortedBy, hnamer])
  | some namer =>
    cases field with
    | none =>
      exact hinline (by simp only [anonymousStruct, sortedBy, hnamer])
        (by simp only [anonymousStruct, sortedBy, hnamer])
    | some field =>
      -- The struct is promoted, and its node is put into order in the state.
      intro s r hR
      have hput := hR.put (.interface (namer field) none
        ((policy.sortedBy .discovery).arrange members))
      rw [sorted_interface] at hput
      simp only [anonymousStruct, sortedBy, hnamer] at hput ⊢
      exact ⟨(TypeNode.sorted_simple order _).symm, hput⟩

theorem sorts_declare (d : TypeDecl) (members : List Member) :
    Agree (Sorts order) id ((policy.sortedBy .discovery).declare d members)
      ((policy.sortedBy order).declare d
        (members.map (Member.mapTypes (TypeNode.sorted order)))) := by
  intro s r hR
  rw [declare_apply, declare_apply]
  have hdeclare := hR.declare d.name ((policy.sortedBy .discovery).interfaceOf d members)
  rw [interfaceOf, sorted_interface] at hdeclare
  exact ⟨rfl, hdeclare⟩

theorem sorts_enumeration (provider : EnumProvider) (d : TypeDecl) :
    Agree (Sorts order) (TypeNode.sorted order)
      ((policy.sortedBy .discovery).enumeration provider d)
      ((policy.sortedBy order).enumeration provider d) := by
  have hmention : TypeNode.simple ((policy.sortedBy order).typeNamer d) =
      TypeNode.sorted order (.simple ((policy.sortedBy .discovery).typeNamer d)) :=
    (TypeNode.sorted_simple order _).symm
  unfold enumeration
  refine .get_bind fun s r hR => ?_
  have hdeclared : r.declared = s.declared := by rw [hR]
  rw [hdeclared]
  by_cases hn : s.declared.contains d.name
  · simp only [hn]
    exact .pure hmention
  · simp only [hn]
    cases hm : provider.members d with
    | error cause => exact .throw _
    | ok members =>
      -- One walk puts the members in order at once, as sorting does to what the other declares.
      intro s r hR
      have hdeclare := hR.declare d.name ((policy.sortedBy .discovery).enumOf d members)
      rw [TypeNode.sorted, enumOf, TypeNode.rebuild_enum] at hdeclare
      exact ⟨hmention, hdeclare⟩

variable (policy) in
/-- An order makes no difference to the steps of a walk. -/
theorem alike_sortedBy (m : HostModule) (root : TypeDecl) :
    Alike m root (Sorts order) (TypeNode.sorted order) (policy.sortedBy .discovery)
      (policy.sortedBy order) where
  embedStructs := rfl
  followStructs := rfl
  methodDocs := rfl
  argName := rfl
  declared hR := by rw [hR]
  leaf {t site n} h := by
    cases t <;> cases h <;> exact TypeNode.sorted_simple order _
  void := TypeNode.rebuild_void _
  array n := TypeNode.rebuild_array _ _
  map k v := TypeNode.rebuild_map _ _
  mentioned _ _ := TypeNode.sorted_simple order _
  embedded _ := sorted_interface _ _ _
  anonymous _ := sorts_anonymous _
  declare _ := sorts_declare _ _
  claims {d} _ _ := by
    cases hc : policy.claims? d with
    | none => exact .inl ⟨hc, hc⟩
    | some provider => exact .inr ⟨provider, provider, hc, hc, sorts_enumeration provider d⟩

/-! ## Section 3: Graphs under two orders -/

/-- Under a total preorder of names a graph is the one in discovery order with every level of it
    sorted stably afterwards, and an extraction that fails fails with the same error. -/
theorem extract_sortedBy (horder : IsTotalPreorder order.le) (m : HostModule) (root : HostType)
    (policy : ExtractPolicy) :
    (∀ {α : Type} (name : α → String) (items : List α),
      IsStableSort (fun a b => order.le (name a) (name b)) items (order.sortBy name items)) ∧
    extract m root (policy.sortedBy order) =
      (extract m root (policy.sortedBy .discovery)).map (sortGraph order) := by
  refine ⟨fun name items => SortOrder.sortBy_isStableSort horder name items, ?_⟩
  have hempty : Sorts order {} {} := rfl
  have hagree : Agree (Sorts order) id ((policy.sortedBy .discovery).walkRoot m root)
      ((policy.sortedBy order).walkRoot m root) :=
    Alike.walkRoot fun d _ _ => alike_sortedBy policy m d
  unfold extract StateT.run
  rcases hagree.outcome hempty with
    ⟨e, hp, hq⟩ | ⟨a, s, r, hp, hq, rfl⟩
  · rw [hp, hq]
    rfl
  · rw [hp, hq]
    rfl

/-- Shorter names come first, and names of one length are not told apart. -/
def byLength : SortOrder := .custom fun a b => compare a.length b.length

theorem isTotalPreorder_byLength : IsTotalPreorder byLength.le where
  total a b := by
    simp only [byLength, SortOrder.le, Nat.isLE_compare, Bool.or_eq_true]
    omega
  trans a b c := by
    simp only [byLength, SortOrder.le, Nat.isLE_compare]
    omega

/-- A shelf of books, which are structs without a name, and an enumeration of genres. -/
def shelfModule : HostModule where
  types := [
    ⟨"Shelf", .struct [⟨"Books", .slice (.struct [⟨"Title", .string, none⟩,
      ⟨"Genre", .named "Genre", none⟩, ⟨"Id", .word, none⟩]), none⟩, ⟨"Row", .word, none⟩],
      none, none⟩,
    ⟨"Genre", .word, none, some [.integer "Novel" 0, .integer "Poem" 1, .integer "Essay" 2]⟩]

/-- The graph of the shelf as it is found. -/
def shelfFound : List TypeNode :=
  [.enum "Genre" none [.integer "Novel" 0, .integer "Poem" 1, .integer "Essay" 2],
    .interface "Shelf" none [.property "Books" (.array [.interface "" none [
      .property "Title" .string, .property "Genre" (.simple "Genre"), .property "Id" .number]]),
      .property "Row" .number]]

def shelfGraph : List TypeNode :=
  [.enum "Genre" none [.integer "Poem" 1, .integer "Novel" 0, .integer "Essay" 2],
    .interface "Shelf" none [.property "Row" .number,
      .property "Books" (.array [.interface "" none [.property "Id" .number,
        .property "Title" .string, .property "Genre" (.simple "Genre")]])]]

/-- Names of one length stay in the order in which they are found. -/
theorem shelf_sorted_byLength :
    IsTotalPreorder byLength.le ∧
      IsStableSort (fun a b => byLength.le (id a) (id b)) ["Novel", "Poem", "Essay"]
        (byLength.sortBy id ["Novel", "Poem", "Essay"]) ∧
      extract shelfModule (.named "Shelf") (following.sortedBy byLength) = .ok shelfGraph := by
  have h := extract_sortedBy isTotalPreorder_byLength shelfModule (.named "Shelf") following
  have hfound : extract shelfModule (.named "Shelf") (following.sortedBy .discovery) =
      .ok shelfFound := by cbv
  have hsorted : sortGraph byLength shelfFound = shelfGraph := by
    simp +decide [sortGraph, shelfFound, shelfGraph, TypeNode.sorted, TypeNode.sortMembers,
      byLength, SortOrder.sortBy, List.mergeSort, List.MergeSort.Internal.splitInTwo,
      Member.mapTypes, Member.property, TypeNode.number, TypeNode.string]
  refine ⟨isTotalPreorder_byLength, h.1 id _, ?_⟩
  rw [h.2, hfound, ← hsorted]
  rfl

end ExtractPolicy

end TypeExport
