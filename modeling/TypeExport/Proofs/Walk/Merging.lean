import TypeExport.Extraction.Roots
import TypeExport.Proofs.Policy.Sorting
import TypeExport.Proofs.Walk.Order

/-! # Merging Roots

    The graphs of several roots are merged by name, and a later node takes the place of an earlier
    one.  This loses nothing: the walks from two roots may come to a declaration in different states
    and by different ways, but what they write for it is decided by the declaration alone.  So nodes
    of one name are the same node, whichever root they come from, as long as no name is given
    twice. -/

namespace TypeExport

/-! ## Section 1: Merged lists of nodes -/

theorem mem_mergeGraph {x : TypeNode} {nodes graph : List TypeNode}
    (h : x ∈ mergeGraph nodes graph) : x ∈ nodes ∨ x ∈ graph := by
  induction graph generalizing nodes with
  | nil => exact .inl h
  | cons node rest ih =>
    rcases ih h with hx | hx
    · rcases mem_upsert hx with rfl | hx
      · exact .inr List.mem_cons_self
      · exact .inl hx
    · exact .inr (List.mem_cons_of_mem _ hx)

/-- Merging keeps names distinct. -/
theorem nodup_mergeGraph {nodes graph : List TypeNode} (h : (nodes.map TypeNode.name).Nodup) :
    ((mergeGraph nodes graph).map TypeNode.name).Nodup := by
  induction graph generalizing nodes with
  | nil => exact h
  | cons node rest ih => exact ih (Progress.nodup_names_put (s := ⟨nodes, []⟩) h)

/-- Nodes of new names come after those that are there. -/
theorem mergeGraph_of_nodup {nodes graph : List TypeNode}
    (h : ((nodes ++ graph).map TypeNode.name).Nodup) : mergeGraph nodes graph = nodes ++ graph := by
  induction graph generalizing nodes with
  | nil => exact (List.append_nil nodes).symm
  | cons node rest ih =>
    have hnew : node.name ∉ nodes.map TypeNode.name := by
      rw [List.map_append, List.nodup_append] at h
      exact fun hmem => h.2.2 _ hmem _ List.mem_cons_self rfl
    have hstep : mergeGraph nodes (node :: rest) =
        mergeGraph (upsert TypeNode.name node nodes) rest := rfl
    rw [List.append_cons] at h ⊢
    rw [hstep, upsert_of_not_mem hnew, ih h]

/-- The names of merged nodes stand in the order in which they first occur. -/
theorem names_mergeGraph (graph : List TypeNode) :
    (mergeGraph [] graph).map TypeNode.name = (graph.map TypeNode.name).eraseDups := by
  induction graph using List.reverseRecOn with
  | nil => rfl
  | append_singleton graph node ih =>
    have hput : mergeGraph [] (graph ++ [node]) =
        upsert TypeNode.name node (mergeGraph [] graph) := by
      simp [mergeGraph]
    rw [hput, keys_upsert, ih, List.map_append, List.eraseDups_append]
    generalize graph.map TypeNode.name = names
    by_cases hn : node.name ∈ names <;> simp [hn, List.removeAll, List.eraseDups_cons]

/-- A name that occurs has a merged node. -/
theorem mem_names_mergeGraph {k : String} {graph : List TypeNode} :
    k ∈ (mergeGraph [] graph).map TypeNode.name ↔ k ∈ graph.map TypeNode.name := by
  rw [names_mergeGraph, List.mem_eraseDups]

/-- When nodes of one name are equal, merging keeps all of them. -/
theorem mem_mergeGraph_iff {graph : List TypeNode}
    (hagree : ∀ n ∈ graph, ∀ n' ∈ graph, n.name = n'.name → n = n') (x : TypeNode) :
    x ∈ mergeGraph [] graph ↔ x ∈ graph := by
  have hsub : ∀ {y}, y ∈ mergeGraph [] graph → y ∈ graph :=
    fun hy => (mem_mergeGraph hy).resolve_left List.not_mem_nil
  refine ⟨hsub, fun hx => ?_⟩
  obtain ⟨y, hy, hname⟩ :=
    List.mem_map.mp (mem_names_mergeGraph.mpr (List.mem_map_of_mem (f := TypeNode.name) hx))
  exact hagree y (hsub hy) x hx hname ▸ hy

namespace ExtractPolicy

/-! ## Section 2: Nodes of several roots -/

/-- On a walk from one of the roots the target name `k` is given to the type. -/
def GivesAcross (policy : ExtractPolicy) (m : HostModule) (roots : List String) (k : String)
    (t : HostType) : Prop :=
  ∃ d, m.lookup d.name = some d ∧ d.name ∈ roots ∧ policy.Gives m d k t

/-- No two distinct declarations or anonymous structs under any of the roots get the same target
    name. -/
def ApartAcross (policy : ExtractPolicy) (m : HostModule) (roots : List String) : Prop :=
  ∀ k t t', policy.GivesAcross m roots k t → policy.GivesAcross m roots k t' → t = t'

/-- The provider claims none of the roots that are interfaces. -/
def ClaimsNoInterface (policy : ExtractPolicy) (m : HostModule) (roots : List String) : Prop :=
  ∀ d methods, m.lookup d.name = some d → d.name ∈ roots → d.type.deref = .interface methods →
    policy.claims? d = none

variable {policy : ExtractPolicy} {m : HostModule} {roots : List String}

/-- When namers keep distinct names distinct and anonymous structs get none, all names are apart. -/
theorem apartAcross_of_injective (hn : policy.anonNamer = none)
    (hinj : ∀ d d' : TypeDecl, policy.typeNamer d = policy.typeNamer d' → d.name = d'.name) :
    policy.ApartAcross m roots := by
  rintro k t t' ⟨_, _, _, h⟩ ⟨_, _, _, h'⟩
  obtain ⟨d, rfl, rfl⟩ := h.exists_decl hn
  obtain ⟨d', heq, rfl⟩ := h'.exists_decl hn
  rw [hinj d d' heq]

/-- A walk ends with nodes for the types their names are given to, and with the node of its root if
    that is an interface. -/
theorem RootWalk.node_cases {root : HostType} (w : policy.RootWalk m root) {n : TypeNode}
    (hn : n ∈ w.found.nodes) :
    (∃ t, policy.Gives m w.decl n.name t ∧ policy.NodeOf m t n) ∨
      policy.Gives m w.decl n.name (.named w.decl.name) ∧
        ∃ methods, w.decl.type.deref = .interface methods := by
  rcases w.mem_nodes_found hn with rfl | hn
  · have hmembers := w.members_eq
    unfold AreRootMembers at hmembers
    cases hs : w.decl.type.deref with
    | struct fields => exact .inl ⟨_, .root, w.nodeOf_root ⟨_, hs⟩⟩
    | interface methods => exact .inr ⟨.root, methods, rfl⟩
    | _ =>
      rw [hs] at hmembers
      exact hmembers.elim
  · exact .inl (w.faithful_inner n hn)

/-- Nothing but its own walk declares a root that is an interface. -/
theorem ClaimsNoInterface.not_nodeOf (h : policy.ClaimsNoInterface m roots) {d : TypeDecl}
    {methods : List HostMethod} {n : TypeNode} (hd : m.lookup d.name = some d)
    (hroot : d.name ∈ roots) (hi : d.type.deref = .interface methods) :
    ¬ policy.NodeOf m (.named d.name) n := by
  intro hnode
  cases hnode with
  | struct hd' hs _ =>
    obtain rfl := HostModule.lookup_inj hd hd'
    exact absurd (hs.symm.trans hi) (by simp)
  | enum hd' _ hc _ =>
    obtain rfl := HostModule.lookup_inj hd hd'
    exact absurd ((h _ methods hd hroot hi).symm.trans hc) (by simp)

/-- The root that a successful extraction by name starts at. -/
theorem extractNamed_eq_ok {root : String} {graph : List TypeNode}
    (h : extractNamed m root policy = .ok graph) :
    ∃ w : policy.RootWalk m (.named root), w.decl.name = root ∧
      graph = policy.sort.sortBy TypeNode.name w.found.nodes := by
  obtain ⟨w, rfl⟩ := extract_eq_ok h
  exact ⟨w, (HostType.named.inj w.root_eq).symm, rfl⟩

theorem nodup_names_of_extractNamed {root : String} {graph : List TypeNode}
    (h : extractNamed m root policy = .ok graph) : (graph.map TypeNode.name).Nodup := by
  obtain ⟨w, -, rfl⟩ := extractNamed_eq_ok h
  exact ((policy.sort.sortBy_perm TypeNode.name w.found.nodes).map TypeNode.name).nodup_iff.mpr
    w.nodup_names

/-- Two roots have the same node of a name. -/
theorem eq_of_name_eq_across (hapart : policy.ApartAcross m roots)
    (hclaims : policy.ClaimsNoInterface m roots) {root root' : String}
    {graph graph' : List TypeNode} (hroot : root ∈ roots) (hroot' : root' ∈ roots)
    (h : extractNamed m root policy = .ok graph) (h' : extractNamed m root' policy = .ok graph')
    {n n' : TypeNode} (hn : n ∈ graph) (hn' : n' ∈ graph') (hname : n.name = n'.name) : n = n' := by
  obtain ⟨w, hw, hgraph⟩ := extractNamed_eq_ok h
  obtain ⟨w', hw', hgraph'⟩ := extractNamed_eq_ok h'
  rw [← hw] at hroot
  rw [← hw'] at hroot'
  have hacross : ∀ {k t t'}, policy.Gives m w.decl k t → policy.Gives m w'.decl k t' → t = t' :=
    fun hg hg' => hapart _ _ _ ⟨_, w.lookup_eq, hroot, hg⟩ ⟨_, w'.lookup_eq, hroot', hg'⟩
  have hcases := w.node_cases ((mem_graph_iff w n).mp (hgraph ▸ hn))
  have hcases' := w'.node_cases ((mem_graph_iff w' n').mp (hgraph' ▸ hn'))
  rw [hname] at hcases
  -- A node declares a struct, an enumeration or an anonymous struct, or it is that of a root
  -- that is an interface.
  rcases hcases with ⟨t, hg, hnode⟩ | ⟨hg, methods, hi⟩
  · rcases hcases' with ⟨t', hg', hnode'⟩ | ⟨hg', methods, hi⟩
    · obtain rfl := hacross hg hg'
      exact hnode.unique hnode' hname
    · obtain rfl := hacross hg hg'
      exact absurd hnode (hclaims.not_nodeOf w'.lookup_eq hroot' hi)
  · rcases hcases' with ⟨t', hg', hnode'⟩ | ⟨hg', _⟩
    · obtain rfl := hacross hg hg'
      exact absurd hnode' (hclaims.not_nodeOf w.lookup_eq hroot hi)
    · -- Both nodes are those of roots, so there is one root and one graph.
      have hdecls := HostType.named.inj (hacross hg hg')
      obtain rfl : root = root' := hw.symm.trans (hdecls.trans hw')
      obtain rfl : graph = graph' := Except.ok.inj (h.symm.trans h')
      exact List.inj_on_of_nodup_map (nodup_names_of_extractNamed h') hn hn' hname

/-! ## Section 3: Merged roots -/

variable {graph : String → List TypeNode}

/-- When every root has a graph, so have all of them together. -/
theorem extractRoots_eq_ok (hok : ∀ root ∈ roots, extractNamed m root policy = .ok (graph root)) :
    extractRoots m roots policy =
      .ok (policy.sort.sortBy TypeNode.name (mergeGraph [] (roots.flatMap graph))) := by
  have hgraphs : (roots.mapM fun root => (extractNamed m root policy).mapError
      fun cause => (⟨root, cause⟩ : RootError)) = .ok (roots.map graph) := by
    induction roots with
    | nil => rfl
    | cons root rest ih =>
      rw [List.mapM_cons, hok root List.mem_cons_self,
        ih fun r hr => hok r (List.mem_cons_of_mem _ hr)]
      rfl
  rw [extractRoots, hgraphs, List.flatMap_def, mergeGraph, List.foldl_flatten]
  rfl

/-- One root alone has its own graph. -/
theorem extractRoots_singleton (horder : IsTotalPreorder policy.sort.le) (root : String) :
    extractRoots m [root] policy =
      (extractNamed m root policy).mapError fun cause => ⟨root, cause⟩ := by
  cases h : extractNamed m root policy with
  | error cause => simp only [extractRoots, List.mapM_cons, h]; rfl
  | ok nodes =>
    have hok : ∀ r ∈ [root], extractNamed m r policy = .ok ((fun _ => nodes) r) :=
      fun r hr => List.mem_singleton.mp hr ▸ h
    have hmerge : mergeGraph [] nodes = nodes :=
      mergeGraph_of_nodup (nodup_names_of_extractNamed h)
    -- The graph is in order already, so sorting leaves it as it is.
    have hsorted : policy.sort.sortBy TypeNode.name nodes = nodes := by
      obtain ⟨w, -, rfl⟩ := extractNamed_eq_ok h
      exact SortOrder.sortBy_of_pairwise
        (SortOrder.sortBy_isStableSort horder TypeNode.name w.found.nodes).ascending
    rw [extractRoots_eq_ok hok, List.flatMap_singleton, hmerge, hsorted]
    rfl

/-- In alphabetical order there is one list of the same nodes with distinct names. -/
theorem sortBy_alphabetical_eq {nodes nodes' : List TypeNode} (h : nodes.Perm nodes')
    (hnodup : (nodes'.map TypeNode.name).Nodup) :
    SortOrder.alphabetical.sortBy TypeNode.name nodes =
      SortOrder.alphabetical.sortBy TypeNode.name nodes' := by
  have hsorted : ∀ nodes, (SortOrder.alphabetical.sortBy TypeNode.name nodes).Pairwise
      fun a b => SortOrder.alphabetical.le a.name b.name :=
    fun nodes => (SortOrder.sortBy_isStableSort SortOrder.isTotalPreorder_alphabetical
      TypeNode.name nodes).ascending
  have hperm := SortOrder.alphabetical.sortBy_perm TypeNode.name nodes
  have hperm' := SortOrder.alphabetical.sortBy_perm TypeNode.name nodes'
  refine List.Perm.eq_of_pairwise ?_ (hsorted nodes) (hsorted nodes')
    (hperm.trans (h.trans hperm'.symm))
  intro a b ha hb hab hba
  have ha' : a ∈ nodes' := h.mem_iff.mp (hperm.mem_iff.mp ha)
  exact List.inj_on_of_nodup_map hnodup ha' (hperm'.mem_iff.mp hb)
    (SortOrder.alphabetical_antisymm hab hba)

/-- If every root has a graph, no name is given twice across the roots and no root that is an
    interface is claimed, then all roots have the same node of a name.  Together they have the nodes
    that any of them has, each name once, and neither the order nor the number of times in which a
    root is given makes a difference to that.  In discovery order the names stand as they first
    occur, in alphabetical order there is one list, and one root alone has its own graph. -/
theorem extractRoots_eq_union
    (hok : ∀ root ∈ roots, extractNamed m root policy = .ok (graph root))
    (hapart : policy.ApartAcross m roots) (hclaims : policy.ClaimsNoInterface m roots) :
    (∀ root ∈ roots, ∀ root' ∈ roots, ∀ n ∈ graph root, ∀ n' ∈ graph root',
      n.name = n'.name → n = n') ∧
    ∃ merged, extractRoots m roots policy = .ok merged ∧
      (∀ n, n ∈ merged ↔ ∃ root ∈ roots, n ∈ graph root) ∧
      (merged.map TypeNode.name).Nodup ∧
      (∀ roots', (∀ root, root ∈ roots' ↔ root ∈ roots) →
        ∃ merged', extractRoots m roots' policy = .ok merged' ∧ merged'.Perm merged ∧
          (policy.sort = .alphabetical → merged' = merged)) ∧
      (policy.sort = .discovery → merged.map TypeNode.name =
        (roots.flatMap fun root => (graph root).map TypeNode.name).eraseDups) ∧
      (IsTotalPreorder policy.sort.le → ∀ root, extractRoots m [root] policy =
        (extractNamed m root policy).mapError fun cause => ⟨root, cause⟩) := by
  have hagree : ∀ root ∈ roots, ∀ root' ∈ roots, ∀ n ∈ graph root, ∀ n' ∈ graph root',
      n.name = n'.name → n = n' := fun root hroot root' hroot' n hn n' hn' hname =>
    eq_of_name_eq_across hapart hclaims hroot hroot' (hok root hroot) (hok root' hroot') hn hn'
      hname
  -- Membership does not depend on the list of roots, as long as the same roots stand in it.
  have hmem : ∀ roots' : List String, (∀ root, root ∈ roots' ↔ root ∈ roots) → ∀ n,
      n ∈ mergeGraph [] (roots'.flatMap graph) ↔ ∃ root ∈ roots, n ∈ graph root := by
    intro roots' hsame n
    have hall : ∀ x, x ∈ roots'.flatMap graph ↔ ∃ root ∈ roots, x ∈ graph root := by
      intro x
      simp only [List.mem_flatMap, hsame]
    rw [mem_mergeGraph_iff ?_ n, hall]
    intro x hx y hy hname
    obtain ⟨root, hroot, hx⟩ := (hall x).mp hx
    obtain ⟨root', hroot', hy⟩ := (hall y).mp hy
    exact hagree root hroot root' hroot' x hx y hy hname
  have hnodup : ∀ roots' : List String,
      ((mergeGraph [] (roots'.flatMap graph)).map TypeNode.name).Nodup :=
    fun _ => nodup_mergeGraph List.nodup_nil
  have hsort := policy.sort.sortBy_perm TypeNode.name (mergeGraph [] (roots.flatMap graph))
  refine ⟨hagree, _, extractRoots_eq_ok hok, ?_, ?_, ?_, ?_, extractRoots_singleton⟩
  · intro n
    rw [hsort.mem_iff, hmem roots (fun _ => Iff.rfl)]
  · exact (hsort.map TypeNode.name).nodup_iff.mpr (hnodup roots)
  · intro roots' hsame
    -- Two lists without repetition and with the same members are permutations of each other.
    have hperm : (mergeGraph [] (roots'.flatMap graph)).Perm
        (mergeGraph [] (roots.flatMap graph)) := by
      refine (List.perm_ext_iff_of_nodup (hnodup roots').of_map (hnodup roots).of_map).mpr ?_
      intro n
      rw [hmem roots' hsame, hmem roots fun _ => Iff.rfl]
    refine ⟨_, extractRoots_eq_ok fun root hroot => hok root ((hsame root).mp hroot), ?_, ?_⟩
    · exact ((policy.sort.sortBy_perm _ _).trans hperm).trans hsort.symm
    · intro halpha
      rw [halpha]
      exact sortBy_alphabetical_eq hperm (hnodup roots)
  · intro hdiscovery
    rw [hdiscovery]
    show (mergeGraph [] (roots.flatMap graph)).map TypeNode.name = _
    rw [names_mergeGraph, List.map_flatMap]

def registryDecl : TypeDecl :=
  ⟨"Registry", .interface [⟨"Add", ⟨[⟨none, .named "Parent"⟩], [], false⟩, none⟩], none, none⟩

/-- Parents and children, who know their parent, and a registry of parents. -/
def registryModule : HostModule := { familyModule with types := registryDecl :: familyModule.types }

def registryNode : TypeNode :=
  .interface "Registry" none [.method "Add" .void [⟨"arg0", .simple "Parent"⟩]]

/-- The graphs of the roots.  The child is met inside the parent in the one, and the parent inside
    the child in the other. -/
def registryGraph (root : String) : List TypeNode :=
  if root = "Registry" then [childNode, parentNode, registryNode] else [parentNode, childNode]

theorem registry_merged :
    (∀ root ∈ ["Child", "Registry", "Child"],
      extractNamed registryModule root following = .ok (registryGraph root)) ∧
    following.ApartAcross registryModule ["Child", "Registry", "Child"] ∧
    following.ClaimsNoInterface registryModule ["Child", "Registry", "Child"] ∧
    ∃ merged, extractRoots registryModule ["Child", "Registry", "Child"] following = .ok merged ∧
      (∀ n, n ∈ merged ↔ ∃ root ∈ ["Child", "Registry", "Child"], n ∈ registryGraph root) ∧
      merged.map TypeNode.name = ["Parent", "Child", "Registry"] := by
  have hok : ∀ root ∈ ["Child", "Registry", "Child"],
      extractNamed registryModule root following = .ok (registryGraph root) := by
    have hchild : extractNamed registryModule "Child" following = .ok (registryGraph "Child") := by
      cbv
    have hregistry :
        extractNamed registryModule "Registry" following = .ok (registryGraph "Registry") := by
      cbv
    simp [hchild, hregistry]
  have hapart : following.ApartAcross registryModule ["Child", "Registry", "Child"] :=
    apartAcross_of_injective rfl fun _ _ h => h
  have hclaims : following.ClaimsNoInterface registryModule ["Child", "Registry", "Child"] := by
    -- No declaration of the module has the values of an enumeration.
    intro d methods hd _ _
    have hmem := HostModule.mem_of_lookup hd
    simp only [registryModule, familyModule, List.mem_cons, List.not_mem_nil, or_false] at hmem
    rcases hmem with rfl | rfl | rfl <;> rfl
  obtain ⟨_, merged, hmerged, hmem, _, _, hnames, _⟩ := extractRoots_eq_union hok hapart hclaims
  exact ⟨hok, hapart, hclaims, merged, hmerged, hmem, (hnames rfl).trans (by decide)⟩

end ExtractPolicy

end TypeExport
