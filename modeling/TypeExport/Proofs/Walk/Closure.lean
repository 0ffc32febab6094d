import Mathlib
import TypeExport.Proofs.Conformance.Places
import TypeExport.Proofs.Walk.Root

/-! # Closed Graphs

    A graph that a walk gives refers to nothing outside itself: every name in it is a primitive or
    the name of one of its nodes.  While the walk is under way this is not so, because the name of a
    struct may be written before the struct is declared.  Such a struct is on the path, so a name is
    `Known` when it has a node or belongs to a struct on the path; when a struct leaves the path its
    node is there, and at the end the path is empty. -/

namespace TypeExport

/-! ## Section 1: Closed nodes -/

namespace TypeNode

/-- The node `sub` stands somewhere in a node. -/
inductive Occurs (sub : TypeNode) : TypeNode → Prop
  | self : Occurs sub sub
  | array {n params} (hn : n ∈ params) (h : Occurs sub n) : Occurs sub (.array params)
  | map {n params} (hn : n ∈ params) (h : Occurs sub n) : Occurs sub (.map params)
  | member {name comment members mem} (hm : mem ∈ members) (h : Occurs sub mem.type) :
    Occurs sub (.interface name comment members)
  | arg {name comment members mem a} (hm : mem ∈ members) (ha : a ∈ mem.args)
    (h : Occurs sub a.type) : Occurs sub (.interface name comment members)

/-- All names in the node are primitives or in `K`, and its arrays and maps are well formed. -/
inductive Closed (K : String → Prop) : TypeNode → Prop
  | primitive {name} (h : name ∈ primitiveNames) : Closed K (.simple name)
  | simple {name} (h : K name) : Closed K (.simple name)
  | array {elem} (h : Closed K elem) : Closed K (.array [elem])
  | map {key elem} (hk : Closed K key) (he : Closed K elem) : Closed K (.map [key, elem])
  | interface {name comment members} (h : ∀ mem ∈ members, Closed K mem.type)
    (hargs : ∀ mem ∈ members, ∀ a ∈ mem.args, Closed K a.type) :
    Closed K (.interface name comment members)
  | enum {name comment members} : Closed K (.enum name comment members)
  | void : Closed K .void

theorem Closed.imp {K K' : String → Prop} (himp : ∀ k, K k → K' k) {n : TypeNode}
    (h : n.Closed K) : n.Closed K' := by
  induction h with
  | primitive h => exact .primitive h
  | simple h => exact .simple (himp _ h)
  | array _ ih => exact .array ih
  | map _ _ ihk ihe => exact .map ihk ihe
  | interface _ _ ih ihargs => exact .interface ih ihargs
  | enum => exact .enum
  | void => exact .void

/-- The names that occur in a closed node. -/
theorem Closed.of_occurs {K : String → Prop} {n : TypeNode} {k : String} (h : n.Closed K)
    (ho : Occurs (.simple k) n) : k ∈ primitiveNames ∨ K k := by
  revert h
  induction ho with
  | self =>
    intro h
    cases h with
    | primitive h => exact .inl h
    | simple h => exact .inr h
  | array hn _ ih =>
    intro h
    cases h with
    | array h => exact ih (List.mem_singleton.mp hn ▸ h)
  | map hn _ ih =>
    intro h
    cases h with
    | map hk he =>
      rcases List.mem_cons.mp hn with rfl | hn
      · exact ih hk
      · exact ih (List.mem_singleton.mp hn ▸ he)
  -- Members and arguments of a closed interface are closed one by one.
  | member hm _ ih =>
    intro h
    cases h with
    | interface h _ => exact ih (h _ hm)
  | arg hm ha _ ih =>
    intro h
    cases h with
    | interface _ hargs => exact ih (hargs _ hm _ ha)

end TypeNode

/-- The members mention what `K` allows. -/
def ClosedMembers (K : String → Prop) (members : List Member) : Prop :=
  ∀ mem ∈ members, mem.type.Closed K ∧ ∀ a ∈ mem.args, a.type.Closed K

/-- A property mentions what its node mentions. -/
theorem closed_property {K : String → Prop} (f : HostField) (n : TypeNode) (h : n.Closed K) :
    (f.property n).type.Closed K ∧ ∀ a ∈ (f.property n).args, a.type.Closed K :=
  ⟨h, fun a ha => absurd ha (by simp [HostField.property, Member.property])⟩

/-- The members made of fields mention what their nodes mention. -/
theorem closedMembers_fieldMembers {K : String → Prop} {fields : List HostField}
    {nodes : List TypeNode} (h : ∀ n ∈ nodes, n.Closed K) :
    ClosedMembers K (fieldMembers fields nodes) :=
  ExtractPolicy.forall_fieldMembers closed_property h

namespace ExtractPolicy

variable {policy : ExtractPolicy} {m : HostModule}

/-- Arranged members are the same members. -/
theorem closed_arrange {K : String → Prop} {members : List Member} (h : ClosedMembers K members)
    (name : String) (comment : Option String) :
    TypeNode.Closed K (.interface name comment (policy.arrange members)) := by
  have hmem : ∀ {mem}, mem ∈ policy.arrange members → mem ∈ members :=
    fun hm => (policy.sort.sortBy_perm _ members).mem_iff.mp hm
  exact .interface (fun mem hm => (h mem (hmem hm)).1) fun mem hm => (h mem (hmem hm)).2

/-- The members of a root mention what the nodes under it mention. -/
theorem AreRootMembers.closed {K : String → Prop} {d : TypeDecl} {nodes : List TypeNode}
    {members : List Member} (h : policy.AreRootMembers m d nodes members)
    (hn : ∀ n ∈ nodes, n.Closed K) : ClosedMembers K members := by
  refine h.forall ?_ closed_property hn
  rintro d method returns args (rfl | hreturns) hargs
  · exact ⟨.void, hargs⟩
  · exact ⟨hreturns, hargs⟩

/-! ## Section 2: Closed states -/

/-- The name has a node, or it is the name of a struct on the path. -/
def Known (policy : ExtractPolicy) (m : HostModule) (path : List String) (s : Progress)
    (k : String) : Prop :=
  k ∈ s.names ∨ (policy.embedStructs = false ∧
    ∃ d, m.lookup d.name = some d ∧ d.IsStruct ∧ d.name ∈ path ∧ policy.typeNamer d = k)

/-- Whatever is declared has a node, and the nodes mention known names only. -/
structure ClosedState (policy : ExtractPolicy) (m : HostModule) (path : List String)
    (s : Progress) : Prop where
  declared : ∀ d, m.lookup d.name = some d → d.name ∈ s.declared → policy.typeNamer d ∈ s.names
  nodes : ∀ node ∈ s.nodes, node.Closed (policy.Known m path s)

variable {path : List String} {s s' : Progress} {k : String}

/-- Known names stay known when nodes are added. -/
theorem Known.mono (hsub : s.names ⊆ s'.names) (h : policy.Known m path s k) :
    policy.Known m path s' k := by
  rcases h with hk | hk
  · exact .inl (hsub hk)
  · exact .inr hk

theorem Known.cons (a : String) (h : policy.Known m path s k) :
    policy.Known m (a :: path) s k := by
  rcases h with hk | ⟨he, d, hd, hs, hp, hname⟩
  · exact .inl hk
  · exact .inr ⟨he, d, hd, hs, List.mem_cons_of_mem _ hp, hname⟩

/-- An alias on the path makes no name known. -/
theorem Known.of_alias {a : TypeDecl} (ha : m.lookup a.name = some a) (halias : policy.IsAlias a)
    (h : policy.Known m (a.name :: path) s k) : policy.Known m path s k := by
  rcases h with hk | ⟨he, d, hd, hs, hp, hname⟩
  · exact .inl hk
  · rcases List.mem_cons.mp hp with heq | hp
    · obtain rfl := HostModule.eq_of_name_eq ha hd heq
      exact absurd hs halias.1
    · exact .inr ⟨he, d, hd, hs, hp, hname⟩

/-- With embedding no struct on the path makes its name known. -/
theorem Known.of_embedded (he : policy.embedStructs = true) {path' : List String}
    (h : policy.Known m path' s k) : policy.Known m path s k := by
  rcases h with hk | ⟨hne, _⟩
  · exact .inl hk
  · exact absurd (he ▸ hne) (by simp)

/-- The node of a declaration takes over from the path. -/
theorem Known.declare {a : TypeDecl} {node : TypeNode} (ha : m.lookup a.name = some a)
    (hn : node.name = policy.typeNamer a) (h : policy.Known m (a.name :: path) s k) :
    policy.Known m path (s.declare a.name node) k := by
  rcases h with hk | ⟨he, d, hd, hs, hp, rfl⟩
  · refine .inl ?_
    rw [Progress.names_declare, Progress.mem_names_put]
    exact .inr hk
  · rcases List.mem_cons.mp hp with heq | hp
    · obtain rfl := HostModule.eq_of_name_eq ha hd heq
      refine .inl ?_
      rw [Progress.names_declare, Progress.mem_names_put]
      exact .inl hn.symm
    · exact .inr ⟨he, d, hd, hs, hp, rfl⟩

/-- A state is closed for another path when the same names are known. -/
theorem ClosedState.imp {path' : List String}
    (himp : ∀ k, policy.Known m path s k → policy.Known m path' s k)
    (h : policy.ClosedState m path s) : policy.ClosedState m path' s :=
  ⟨h.declared, fun node hnode => (h.nodes node hnode).imp himp⟩

theorem ClosedState.put {node : TypeNode} (h : policy.ClosedState m path s)
    (hn : node.Closed (policy.Known m path s)) : policy.ClosedState m path (s.put node) := by
  have hmono : ∀ k, policy.Known m path s k → policy.Known m path (s.put node) k :=
    fun k hk => hk.mono (s.names_subset_put node)
  refine ⟨fun d hd hdecl => s.names_subset_put node (h.declared d hd hdecl), ?_⟩
  intro x hx
  rcases mem_upsert hx with rfl | hx
  · exact hn.imp hmono
  · exact (h.nodes x hx).imp hmono

/-- A declaration leaves the path when it gets its node. -/
theorem ClosedState.declare {a : TypeDecl} {node : TypeNode} (ha : m.lookup a.name = some a)
    (hname : node.name = policy.typeNamer a) (h : policy.ClosedState m (a.name :: path) s)
    (hn : node.Closed (policy.Known m (a.name :: path) s)) :
    policy.ClosedState m path (s.declare a.name node) := by
  refine ⟨?_, ?_⟩
  · intro d hd hdecl
    rw [Progress.names_declare, Progress.mem_names_put]
    rcases List.mem_cons.mp hdecl with heq | hdecl
    · obtain rfl := HostModule.eq_of_name_eq ha hd heq
      exact .inl hname.symm
    · exact .inr (h.declared d hd hdecl)
  · intro x hx
    rcases mem_upsert hx with rfl | hx
    · exact hn.imp fun k hk => hk.declare ha hname
    · exact (h.nodes x hx).imp fun k hk => hk.declare ha hname

/-! ## Section 3: Walks keep states closed -/

/-- Names of nodes are never lost. -/
theorem preserves_names_subset (s₀ : Progress) :
    policy.Preserves m fun s => s₀.names ⊆ s.names where
  promoted _ hs := List.Subset.trans hs (Progress.names_subset_put _ _)
  followed _ _ hs := List.Subset.trans hs (Progress.names_subset_put _ _)
  enumerated _ _ hs := List.Subset.trans hs (Progress.names_subset_put _ _)

theorem Resolves.names_subset {field : Option HostField} {t : HostType} {n : TypeNode}
    (h : policy.Resolves m path field t s n s') : s.names ⊆ s'.names :=
  h.preserves (preserves_names_subset s) (List.Subset.refl _)

theorem ResolvesAll.names_subset {ps : List Position} {ns : List TypeNode}
    (h : policy.ResolvesAll m path ps s ns s') : s.names ⊆ s'.names :=
  h.preserves (preserves_names_subset s) (List.Subset.refl _)

/-- A leaf is a primitive. -/
theorem closed_leaf {K : String → Prop} {t : HostType} {site : String} {n : TypeNode}
    (h : leaf site t = .ok n) : n.Closed K := by
  have hn : n = .boolean ∨ n = .number ∨ n = .string := by
    cases t <;> simp_all [leaf]
  rcases hn with rfl | rfl | rfl <;> exact .primitive (by simp [primitiveNames])

mutual

/-- Resolving a type keeps the state closed, and its node mentions known names only. -/
theorem Resolves.closed (hf : policy.followStructs = true) {path : List String}
    {field : Option HostField} {t : HostType} {s s' : Progress} {n : TypeNode} :
    policy.Resolves m path field t s n s' → policy.ClosedState m path s →
      policy.ClosedState m path s' ∧ n.Closed (policy.Known m path s')
  | .leaf h, hs => ⟨hs, closed_leaf h⟩
  | .slice h, hs => (h.closed hf hs).imp_right .array
  | .array h, hs => (h.closed hf hs).imp_right .array
  | .map hk hv, hs => by
    -- The node of the key is older than the state in which the value ends.
    obtain ⟨hs₁, hkey⟩ := hk.closed hf hs
    obtain ⟨hs', hvalue⟩ := hv.closed hf hs₁
    exact ⟨hs', .map (hkey.imp fun k hk => hk.mono hv.names_subset) hvalue⟩
  | .pointer h, hs => h.closed hf hs
  | .inline _ h, hs => by
    obtain ⟨hs', hns⟩ := h.closed hf hs
    exact ⟨hs', closed_arrange (closedMembers_fieldMembers hns) _ _⟩
  | .promoted _ h, hs => by
    obtain ⟨hs', hns⟩ := h.closed hf hs
    refine ⟨hs'.put (closed_arrange (closedMembers_fieldMembers hns) _ _), .simple (.inl ?_)⟩
    exact Progress.mem_names_put.mpr (.inl rfl)
  | .embedded _ _ he _ h, hs => by
    -- The path makes no name known here, so one path is as good as another.
    obtain ⟨hs', hns⟩ := h.closed hf (hs.imp fun k hk => hk.of_embedded he)
    exact ⟨hs'.imp fun k hk => hk.of_embedded he,
      (closed_arrange (closedMembers_fieldMembers hns) _ _).imp fun k hk => hk.of_embedded he⟩
  | .mentioned hd hstruct he hk, hs => by
    -- A struct that is not entered is on the path or has its node.
    refine ⟨hs, .simple ?_⟩
    rcases hk hf with hp | hdecl
    · exact .inr ⟨he, _, hd, hstruct, hp, rfl⟩
    · exact .inl (hs.declared _ hd hdecl)
  | .followed hd _ _ _ _ _ h, hs => by
    obtain ⟨hs', hns⟩ := h.closed hf (hs.imp fun k hk => hk.cons _)
    refine ⟨hs'.declare hd rfl (closed_arrange (closedMembers_fieldMembers hns) _ _),
      .simple (.inl ?_)⟩
    exact Progress.mem_names_put.mpr (.inl rfl)
  | .known hd _ hk, hs => ⟨hs, .simple (.inl (hs.declared _ hd hk))⟩
  | .enumerated hd _ _ _ _, hs =>
    ⟨(hs.imp fun k hk => hk.cons _).declare hd rfl .enum,
      .simple (.inl (Progress.mem_names_put.mpr (.inl rfl)))⟩
  | .shape hd ha _ h, hs => by
    obtain ⟨hs', hn⟩ := h.closed hf (hs.imp fun k hk => hk.cons _)
    exact ⟨hs'.imp fun k hk => hk.of_alias hd ha, hn.imp fun k hk => hk.of_alias hd ha⟩

/-- The same for several places. -/
theorem ResolvesAll.closed (hf : policy.followStructs = true) {path : List String}
    {ps : List Position} {s s' : Progress} {ns : List TypeNode} :
    policy.ResolvesAll m path ps s ns s' → policy.ClosedState m path s →
      policy.ClosedState m path s' ∧ ∀ n ∈ ns, n.Closed (policy.Known m path s')
  | .nil, hs => ⟨hs, fun n hn => absurd hn (by simp)⟩
  | .cons h hall, hs => by
    obtain ⟨hs₁, hn⟩ := h.closed hf hs
    obtain ⟨hs', hns⟩ := hall.closed hf hs₁
    refine ⟨hs', ?_⟩
    intro x hx
    rcases List.mem_cons.mp hx with rfl | hx
    · exact hn.imp fun k hk => hk.mono hall.names_subset
    · exact hns x hx

end

/-! ## Section 4: Nodes at the end of a walk -/

/-- Every node that is added is a declaration. -/
theorem preserves_isDeclaration :
    policy.Preserves m fun s => ∀ node ∈ s.nodes, node.IsDeclaration where
  promoted _ hs node hnode := by
    rcases mem_upsert hnode with rfl | hnode
    · exact .interface
    · exact hs node hnode
  followed _ _ hs node hnode := by
    rcases mem_upsert hnode with rfl | hnode
    · exact .interface
    · exact hs node hnode
  enumerated _ _ hs node hnode := by
    rcases mem_upsert hnode with rfl | hnode
    · exact .enum
    · exact hs node hnode

/-- A node takes the place of an earlier one of its name. -/
theorem preserves_nodup_names : policy.Preserves m fun s => s.names.Nodup where
  promoted _ hs := Progress.nodup_names_put hs
  followed _ _ hs := Progress.nodup_names_put hs
  enumerated _ _ hs := Progress.nodup_names_put hs

variable {root : HostType}

theorem RootWalk.isDeclaration (w : policy.RootWalk m root) :
    ∀ node ∈ w.found.nodes, node.IsDeclaration := by
  intro node hnode
  rcases mem_upsert hnode with rfl | hnode
  · exact .interface
  · exact w.resolves.preserves preserves_isDeclaration (fun node h => absurd h (by simp)) node hnode

theorem RootWalk.nodup_names (w : policy.RootWalk m root) : w.found.names.Nodup :=
  Progress.nodup_names_put (w.resolves.preserves preserves_nodup_names List.nodup_nil)

/-- At the end of a walk the names of nodes are all that is mentioned. -/
theorem RootWalk.closed (hf : policy.followStructs = true) (w : policy.RootWalk m root) :
    ∀ node ∈ w.found.nodes, node.Closed fun k => k ∈ w.found.names := by
  have hempty : policy.ClosedState m [w.decl.name] {} :=
    ⟨fun _ _ h => absurd h (by simp), fun _ h => absurd h (by simp)⟩
  obtain ⟨hs, hns⟩ := w.resolves.closed hf hempty
  have hfound : policy.ClosedState m [] w.found :=
    hs.declare w.lookup_eq rfl (closed_arrange (w.members_eq.closed hns) _ _)
  -- The path is empty, so nothing but the nodes makes names known.
  intro node hnode
  refine (hfound.nodes node hnode).imp ?_
  rintro k (hk | ⟨_, d, _, _, hp, _⟩)
  · exact hk
  · exact absurd hp (by simp)

end ExtractPolicy

/-! ## Section 5: Checks on closed graphs -/

/-- The error blames the graph, and not the value. -/
inductive ConformanceError.BlamesGraph : ConformanceError → Prop
  | unknownType {path name} : BlamesGraph (.unknownType path name)
  | malformed {path kind} : BlamesGraph (.malformed path kind)

section

variable {graph : List TypeNode} {node node' : TypeNode} {v w : Json.Value}

/-- The check goes on from a closed node to a closed node. -/
theorem Conformance.GoesOn.closed {k : String → Prop} {step : PathStep}
    (h : Conformance.GoesOn graph node v step node' w) (hn : node.Closed k) : node'.Closed k := by
  cases h with
  | item => cases hn with | array hn => exact hn
  | entry => cases hn with | map _ hn => exact hn
  | member _ hmembers =>
    cases hn with
    | interface hn _ => exact hn _ (Conformance.function_of_filter hmembers).1

/-- In a closed graph, the check arrives at closed nodes only. -/
theorem Conformance.Arrives.closed
    (hclosed : ∀ node ∈ graph, node.Closed fun k => ∃ n ∈ graph, n.name = k)
    {steps : List PathStep} (h : Conformance.Arrives graph node v steps node' w) :
    (node.Closed fun k => ∃ n ∈ graph, n.name = k) →
      node'.Closed fun k => ∃ n ∈ graph, n.name = k := by
  induction h with
  | here => exact id
  | named _ hfind _ _ ih => exact fun _ => ih (hclosed _ (List.mem_of_find?_eq_some hfind))
  | step hs _ ih => exact fun hn => ih (hs.closed hn)

/-- A fault at a closed node is one of the value. -/
theorem Conformance.Fault.not_blamesGraph (hdecl : ∀ node ∈ graph, node.IsDeclaration)
    {path : String} {e : ConformanceError} (h : Conformance.Fault graph node v path e)
    (hn : node.Closed fun k => ∃ n ∈ graph, n.name = k) : ¬ e.BlamesGraph := by
  cases h with
  | unknown hp hnone =>
    cases hn with
    | primitive h => exact absurd h hp
    | simple h =>
      -- The check finds some node of the name, and all nodes are declarations.
      obtain ⟨first, hfirst, hmem, _⟩ := Conformance.find?_of_name h
      exact absurd (hdecl first hmem) (hnone first hfirst)
  | arrayArity h => cases hn with | array _ => exact absurd rfl h
  | mapArity h => cases hn with | map _ _ => exact absurd rfl h
  | _ =>
    intro hblame
    cases hblame

end

/-- A check against a name of a closed graph fails because of the value. -/
theorem checkInstance_not_blamesGraph {graph : List TypeNode}
    (hdecl : ∀ node ∈ graph, node.IsDeclaration)
    (hclosed : ∀ node ∈ graph, node.Closed fun k => ∃ n ∈ graph, n.name = k) {node : TypeNode}
    (hnode : node ∈ graph) {v : Json.Value} {e : ConformanceError}
    (h : checkInstance graph node.name v = .error e) : ¬ e.BlamesGraph := by
  obtain ⟨steps, node', w, harrives, hfault⟩ := Conformance.check_eq_error_iff.mp h
  exact hfault.not_blamesGraph hdecl (harrives.closed hclosed (.simple ⟨node, hnode, rfl⟩))

namespace ExtractPolicy

variable {policy : ExtractPolicy} {m : HostModule}

/-- When structs are followed or embedded, a graph consists of interfaces and enumerations with
    different names, it mentions primitives and its own names only, and no check against one of its
    names fails because of the graph. -/
theorem extract_closed (hf : policy.followStructs = true) {root : HostType}
    {graph : List TypeNode} (h : extract m root policy = .ok graph) :
    (∀ node ∈ graph, node.IsDeclaration) ∧ (graph.map TypeNode.name).Nodup ∧
      (∀ node ∈ graph, ∀ k, TypeNode.Occurs (.simple k) node →
        k ∈ primitiveNames ∨ ∃ n ∈ graph, n.name = k) ∧
      ∀ node ∈ graph, ∀ v e, checkInstance graph node.name v = .error e → ¬ e.BlamesGraph := by
  obtain ⟨w, rfl⟩ := extract_eq_ok h
  -- Sorting moves nodes, and none of what is said depends on their places.
  have hperm := policy.sort.sortBy_perm TypeNode.name w.found.nodes
  have hdecl : ∀ node ∈ policy.sort.sortBy TypeNode.name w.found.nodes, node.IsDeclaration :=
    fun node hnode => w.isDeclaration node (hperm.mem_iff.mp hnode)
  have hclosed : ∀ node ∈ policy.sort.sortBy TypeNode.name w.found.nodes,
      node.Closed fun k => ∃ n ∈ policy.sort.sortBy TypeNode.name w.found.nodes, n.name = k := by
    intro node hnode
    refine (w.closed hf node (hperm.mem_iff.mp hnode)).imp ?_
    intro k hk
    obtain ⟨n, hn, hname⟩ := List.mem_map.mp hk
    exact ⟨n, hperm.mem_iff.mpr hn, hname⟩
  refine ⟨hdecl, ?_, ?_, ?_⟩
  · exact (hperm.map TypeNode.name).nodup_iff.mpr w.nodup_names
  · intro node hnode k hoccurs
    exact (hclosed node hnode).of_occurs hoccurs
  · intro node hnode v e hcheck
    exact checkInstance_not_blamesGraph hdecl hclosed hnode hcheck

/-- An interface with a method that finds the start of a list, or fails. -/
def finderModule : HostModule where
  types := [
    ⟨"Finder", .interface [⟨"Find", ⟨[⟨none, .string⟩], [.pointer (.named "Item"), .error], false⟩,
      none⟩], none, none⟩,
    ⟨"Item", .struct [⟨"Next", .pointer (.named "Item"), none⟩], none, none⟩]

def finderGraph : List TypeNode :=
  [.interface "Item" none [.property "Next" (.simple "Item")],
    .interface "Finder" none [.method "Find" (.simple "Item") [⟨"arg0", .string⟩]]]

theorem finderGraph_closed :
    extract finderModule (.named "Finder") following = .ok finderGraph ∧
      (∀ node ∈ finderGraph, node.IsDeclaration) ∧ (finderGraph.map TypeNode.name).Nodup ∧
      (∀ node ∈ finderGraph, ∀ k, TypeNode.Occurs (.simple k) node →
        k ∈ primitiveNames ∨ ∃ n ∈ finderGraph, n.name = k) ∧
      ∀ node ∈ finderGraph, ∀ v e,
        checkInstance finderGraph node.name v = .error e → ¬ e.BlamesGraph := by
  have h : extract finderModule (.named "Finder") following = .ok finderGraph := by cbv
  exact ⟨h, extract_closed rfl h⟩

end ExtractPolicy

end TypeExport
