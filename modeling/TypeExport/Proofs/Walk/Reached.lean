import Mathlib
import TypeExport.Proofs.Walk.Search

/-! # What a Walk Declares

    With structs followed and not embedded, a walk declares exactly what can be reached from its
    root.  `Reached` is the reachable part of a module, without any walk: a struct refers to the
    structs and enumerations that its visible fields mention, through aliases or directly, and a
    root that is an interface refers to those that its methods mention.

    A struct is not searched again when it is on the path or has been declared.  Nothing is lost by
    it, because declared names are `Settled`: all that a declared struct refers to is declared too
    or still on the path, and at the end of a walk the path holds the root alone. -/

namespace TypeExport

namespace ExtractPolicy

variable (policy : ExtractPolicy) (m : HostModule)

/-! ## Section 1: Reachable declarations -/

/-- One of `names` leads, through aliases, to the struct or the enumeration `d`. -/
def Mentions (names : List String) (d : TypeDecl) : Prop :=
  m.lookup d.name = some d ∧ policy.IsDeclarable d ∧ ∃ a ∈ names, policy.AliasReach m a d.name

/-- The declarations that can be reached from a root. -/
inductive Reached (root : TypeDecl) : TypeDecl → Prop
  | root : Reached root root
  | struct {d fields d'} (h : Reached root d) (hs : d.type.deref = .struct fields)
    (hm : policy.Mentions m (positionMentions (visiblePositions fields)) d') : Reached root d'
  | interface {methods d'} (hi : root.type.deref = .interface methods)
    (hm : policy.Mentions m (positionMentions (methods.flatMap m.exposedPositions)) d') :
    Reached root d'

/-- All that a declared struct refers to is declared or on the path. -/
def Settled (path D : List String) : Prop :=
  ∀ d, m.lookup d.name = some d → d.IsStruct → d.name ∈ D →
    ∀ d', policy.Mentions m d.type.mentions d' → d'.name ∈ D ∨ d'.name ∈ path

variable {policy : ExtractPolicy} {m : HostModule}

/-- What a struct refers to can be reached when the struct can. -/
theorem Reached.of_isStruct {root d d' : TypeDecl} (h : policy.Reached m root d)
    (hs : d.IsStruct) (hm : policy.Mentions m d.type.mentions d') :
    policy.Reached m root d' := by
  obtain ⟨fields, hs⟩ := hs
  rw [mentions_struct hs] at hm
  exact .struct h hs hm

/-- What is under the root can be reached. -/
theorem Reached.of_root {root d : TypeDecl}
    (hm : policy.Mentions m (positionMentions (m.rootPositions root)) d) :
    policy.Reached m root d := by
  cases h : root.type.deref with
  | struct fields => exact .struct .root h (by simpa only [HostModule.rootPositions, h] using hm)
  | interface methods => exact .interface h (by simpa only [HostModule.rootPositions, h] using hm)
  | _ =>
    obtain ⟨_, _, a, ha, _⟩ := hm
    simp [HostModule.rootPositions, h, positionMentions] at ha

/-! ## Section 2: Mentions of a list of names -/

theorem Mentions.tail {a : String} {names : List String} {d : TypeDecl}
    (h : policy.Mentions m names d) : policy.Mentions m (a :: names) d := by
  obtain ⟨hd, hdecl, b, hb, hreach⟩ := h
  exact ⟨hd, hdecl, b, List.mem_cons_of_mem _ hb, hreach⟩

/-- A declarable name is mentioned itself. -/
theorem Mentions.of_mem {names : List String} {d : TypeDecl} (hmem : d.name ∈ names)
    (hd : m.lookup d.name = some d) (hdecl : policy.IsDeclarable d) :
    policy.Mentions m names d :=
  ⟨hd, hdecl, d.name, hmem, .refl⟩

/-- The name of an alias mentions what its shape mentions. -/
theorem Mentions.of_alias {names : List String} {a d : TypeDecl} (hmem : a.name ∈ names)
    (ha : m.lookup a.name = some a) (halias : policy.IsAlias a)
    (h : policy.Mentions m a.type.mentions d) : policy.Mentions m names d := by
  obtain ⟨hd, hdecl, b, hb, hreach⟩ := h
  exact ⟨hd, hdecl, a.name, hmem, .head ⟨a, ha, halias, hb⟩ hreach⟩

/-- What a list of names mentions is mentioned by the first of them or by the others. -/
theorem Mentions.cons_cases {a d : TypeDecl} {names : List String} (ha : m.lookup a.name = some a)
    (h : policy.Mentions m (a.name :: names) d) :
    (policy.IsDeclarable a ∧ d = a) ∨ (policy.IsAlias a ∧ policy.Mentions m a.type.mentions d) ∨
      policy.Mentions m names d := by
  obtain ⟨hd, hdecl, b, hb, hreach⟩ := h
  rcases List.mem_cons.mp hb with rfl | hb
  · rcases Relation.ReflTransGen.cases_head hreach with heq | ⟨c, ⟨a', ha', halias, hc⟩, hreach⟩
    · obtain rfl := HostModule.eq_of_name_eq hd ha heq
      exact .inl ⟨hdecl, rfl⟩
    · obtain rfl := HostModule.lookup_inj ha ha'
      exact .inr (.inl ⟨halias, hd, hdecl, c, hc, hreach⟩)
  · exact .inr (.inr ⟨hd, hdecl, b, hb, hreach⟩)

/-- A struct or an enumeration at the head of a list of names is mentioned, and what else is
    mentioned comes from the others. -/
theorem Mentions.cons_declarable {a d : TypeDecl} {names : List String}
    (ha : m.lookup a.name = some a) (hdecl : policy.IsDeclarable a)
    (h : policy.Mentions m (a.name :: names) d) : d = a ∨ policy.Mentions m names d := by
  rcases h.cons_cases ha with ⟨_, heq⟩ | ⟨halias, _⟩ | hm
  · exact .inl heq
  · exact absurd hdecl (policy.not_isDeclarable_of_isAlias halias)
  · exact .inr hm

/-! ## Section 3: Nothing is missing -/

theorem isAlias_of_isWrittenOut {d : TypeDecl} (he : policy.embedStructs = false)
    (hw : policy.IsWrittenOut d) : policy.IsAlias d := by
  rcases hw with ha | ⟨h, _⟩
  · exact ha
  · exact absurd (he ▸ h) (by simp)

/-- A longer path settles no less. -/
theorem Settled.cons {path D : List String} (h : policy.Settled m path D) (a : String) :
    policy.Settled m (a :: path) D := by
  intro d hd hs hD d' hm
  rcases h d hd hs hD d' hm with hin | hin
  · exact .inl hin
  · exact .inr (List.mem_cons_of_mem _ hin)

/-- The name of an alias on the path settles nothing. -/
theorem Settled.of_alias {path D : List String} {a : TypeDecl} (ha : m.lookup a.name = some a)
    (halias : policy.IsAlias a) (h : policy.Settled m (a.name :: path) D) :
    policy.Settled m path D := by
  intro d hd hs hD d' hm
  rcases h d hd hs hD d' hm with hin | hin
  · exact .inl hin
  · rcases List.mem_cons.mp hin with heq | hin
    · -- What is mentioned is declarable and an alias is not.
      have hd' := hm.1
      obtain rfl := HostModule.eq_of_name_eq ha hd' heq
      exact absurd hm.2.1 (policy.not_isDeclarable_of_isAlias halias)
    · exact .inr hin

/-- A struct leaves the path when it is declared. -/
theorem Settled.declare {path D : List String} {a : TypeDecl} (ha : m.lookup a.name = some a)
    (hcov : ∀ d, policy.Mentions m a.type.mentions d → d.name ∈ D ∨ d.name ∈ a.name :: path)
    (h : policy.Settled m (a.name :: path) D) : policy.Settled m path (a.name :: D) := by
  have hmove : ∀ x, x ∈ D ∨ x ∈ a.name :: path → x ∈ a.name :: D ∨ x ∈ path := by
    intro x hx
    rcases hx with hx | hx
    · exact .inl (List.mem_cons_of_mem _ hx)
    · rcases List.mem_cons.mp hx with rfl | hx
      · exact .inl List.mem_cons_self
      · exact .inr hx
  intro d hd hs hD d' hm
  rcases List.mem_cons.mp hD with heq | hD
  · obtain rfl := HostModule.eq_of_name_eq ha hd heq
    exact hmove _ (hcov d' hm)
  · exact hmove _ (h d hd hs hD d' hm)

/-- An enumeration refers to nothing. -/
theorem Settled.enumerate {path D : List String} {a : TypeDecl} (ha : m.lookup a.name = some a)
    (henum : policy.IsEnum a) (h : policy.Settled m path D) :
    policy.Settled m path (a.name :: D) := by
  intro d hd hs hD d' hm
  rcases List.mem_cons.mp hD with heq | hD
  · obtain rfl := HostModule.eq_of_name_eq ha hd heq
    exact absurd hs henum.1
  · rcases h d hd hs hD d' hm with hin | hin
    · exact .inl (List.mem_cons_of_mem _ hin)
    · exact .inr hin

/-- A search leaves settled names settled, and all that its names mention is declared at its end
    or on its path. -/
theorem Visits.covers (he : policy.embedStructs = false) (hf : policy.followStructs = true)
    {path names D D' : List String} (h : policy.Visits m path names D D') :
    policy.Settled m path D → policy.Settled m path D' ∧
      ∀ d, policy.Mentions m names d → d.name ∈ D' ∨ d.name ∈ path := by
  induction h with
  | done =>
    intro hset
    refine ⟨hset, ?_⟩
    rintro d ⟨_, _, a, ha, _⟩
    exact absurd ha (by simp)
  | @mentioned path a names D D' ha hs _ hk h ih =>
    intro hset
    obtain ⟨hset', hcov⟩ := ih hset
    refine ⟨hset', ?_⟩
    intro d hm
    rcases hm.cons_declarable ha (.inl hs) with rfl | hm
    · rcases hk hf with hp | hD
      · exact .inr hp
      · exact .inl (h.subset hD)
    · exact hcov d hm
  | @followed path a names D D₁ D' ha hfol _ _ _ h ihin ih =>
    intro hset
    -- Inside the struct its name is on the path; behind it the name is declared instead.
    obtain ⟨hset₁, hcov₁⟩ := ihin (hset.cons a.name)
    obtain ⟨hset', hcov⟩ := ih (hset₁.declare ha hcov₁)
    refine ⟨hset', ?_⟩
    intro d hm
    rcases hm.cons_declarable ha (.inl hfol.2.2) with rfl | hm
    · exact .inl (h.subset List.mem_cons_self)
    · exact hcov d hm
  | @known path a names D D' ha henum hk h ih =>
    intro hset
    obtain ⟨hset', hcov⟩ := ih hset
    refine ⟨hset', ?_⟩
    intro d hm
    rcases hm.cons_declarable ha (.inr henum) with rfl | hm
    · exact .inl (h.subset hk)
    · exact hcov d hm
  | @enumerated path a names D D' ha henum _ h ih =>
    intro hset
    obtain ⟨hset', hcov⟩ := ih (hset.enumerate ha henum)
    refine ⟨hset', ?_⟩
    intro d hm
    rcases hm.cons_declarable ha (.inr henum) with rfl | hm
    · exact .inl (h.subset List.mem_cons_self)
    · exact hcov d hm
  | @writtenOut path a names D D₁ D' ha hw _ _ h ihin ih =>
    intro hset
    have halias := isAlias_of_isWrittenOut he hw
    -- An alias only leaves the path, which loses nothing because it settled nothing there.
    obtain ⟨hset₁, hcov₁⟩ := ihin (hset.cons a.name)
    obtain ⟨hset', hcov⟩ := ih (hset₁.of_alias ha halias)
    refine ⟨hset', ?_⟩
    intro d hm
    rcases hm.cons_cases ha with ⟨hdecl, rfl⟩ | ⟨_, hm⟩ | hm
    · exact absurd hdecl (policy.not_isDeclarable_of_isAlias halias)
    · rcases hcov₁ d hm with hD | hp
      · exact .inl (h.subset hD)
      · rcases List.mem_cons.mp hp with heq | hp
        · have hd := hm.1
          obtain rfl := HostModule.eq_of_name_eq ha hd heq
          exact absurd hm.2.1 (policy.not_isDeclarable_of_isAlias halias)
        · exact .inr hp
    · exact hcov d hm

/-! ## Section 4: Nothing else is declared -/

/-- When all that its names mention can be reached, then so can all that a search declares. -/
theorem Visits.reached (he : policy.embedStructs = false) {root : TypeDecl}
    {path names D D' : List String} (h : policy.Visits m path names D D') :
    (∀ d, policy.Mentions m names d → policy.Reached m root d) →
      ∀ x ∈ D', x ∈ D ∨ ∃ d, d.name = x ∧ m.lookup x = some d ∧ policy.Reached m root d := by
  induction h with
  | done => exact fun _ x hx => .inl hx
  | mentioned _ _ _ _ _ ih => exact fun hm => ih fun d hd => hm d hd.tail
  | @followed path a names D D₁ D' ha hfol _ _ _ _ ihin ih =>
    intro hm x hx
    -- The struct itself can be reached, and all inside it by way of it.
    have hreached := hm a (.of_mem List.mem_cons_self ha (.inl hfol.2.2))
    rcases ih (fun d hd => hm d hd.tail) x hx with hx | hx
    · rcases List.mem_cons.mp hx with rfl | hx
      · exact .inr ⟨a, rfl, ha, hreached⟩
      · exact ihin (fun d hd => hreached.of_isStruct hfol.2.2 hd) x hx
    · exact .inr hx
  | known _ _ _ _ ih => exact fun hm => ih fun d hd => hm d hd.tail
  | @enumerated path a names D D' ha henum _ _ ih =>
    intro hm x hx
    rcases ih (fun d hd => hm d hd.tail) x hx with hx | hx
    · rcases List.mem_cons.mp hx with rfl | hx
      · exact .inr ⟨a, rfl, ha, hm a (.of_mem List.mem_cons_self ha (.inr henum))⟩
      · exact .inl hx
    · exact .inr hx
  | @writtenOut path a names D D₁ D' ha hw _ _ _ ihin ih =>
    intro hm x hx
    have halias := isAlias_of_isWrittenOut he hw
    -- What the shape mentions is mentioned by the name of the alias.
    rcases ih (fun d hd => hm d hd.tail) x hx with hx | hx
    · exact ihin (fun d hd => hm d (.of_alias List.mem_cons_self ha halias hd)) x hx
    · exact .inr hx

/-! ## Section 5: Names of nodes -/

/-- The nodes go by the names of the declared declarations. -/
def NamesDeclared (policy : ExtractPolicy) (m : HostModule) (s : Progress) : Prop :=
  ∀ k, k ∈ s.names ↔
    ∃ d, m.lookup d.name = some d ∧ d.name ∈ s.declared ∧ policy.typeNamer d = k

theorem namesDeclared_empty : policy.NamesDeclared m {} := by
  intro k
  simp [Progress.names]

/-- A declaration and its node are added together. -/
theorem NamesDeclared.declare {s : Progress} {d : TypeDecl} {node : TypeNode}
    (hd : m.lookup d.name = some d) (hn : node.name = policy.typeNamer d)
    (h : policy.NamesDeclared m s) : policy.NamesDeclared m (s.declare d.name node) := by
  intro k
  rw [Progress.names_declare, Progress.mem_names_put, h k]
  constructor
  · rintro (rfl | ⟨e, he, hdecl, rfl⟩)
    · exact ⟨d, hd, List.mem_cons_self, hn.symm⟩
    · exact ⟨e, he, List.mem_cons_of_mem _ hdecl, rfl⟩
  · rintro ⟨e, he, hdecl, rfl⟩
    rcases List.mem_cons.mp hdecl with heq | hdecl
    · obtain rfl := HostModule.eq_of_name_eq hd he heq
      exact .inl hn.symm
    · exact .inr ⟨e, he, hdecl, rfl⟩

theorem preserves_namesDeclared (ha : policy.anonNamer = none) :
    policy.Preserves m (policy.NamesDeclared m) where
  promoted hn := absurd (ha ▸ hn) (by simp)
  followed hd _ hs := hs.declare hd rfl
  enumerated hd _ hs := hs.declare hd rfl

/-! ## Section 6: Exactly what can be reached -/

/-- Names stand for what can be reached. -/
theorem Reached.lookup {root d : TypeDecl} (hroot : m.lookup root.name = some root)
    (h : policy.Reached m root d) : m.lookup d.name = some d := by
  cases h with
  | root => exact hroot
  | struct _ _ hm => exact hm.1
  | interface _ hm => exact hm.1

/-- All that can be reached from the root of a walk is declared at its end. -/
theorem RootWalk.mem_declared_of_reached (he : policy.embedStructs = false)
    (hf : policy.followStructs = true) {root : HostType} (w : policy.RootWalk m root)
    {d : TypeDecl} (h : policy.Reached m w.decl d) : d.name ∈ w.found.declared := by
  have hempty : policy.Settled m [w.decl.name] [] := fun _ _ _ hD => absurd hD (by simp)
  obtain ⟨hsettled, hcovers⟩ := w.resolves.visits_all.covers he hf hempty
  -- At the end only the root itself is on the path, and the root is declared last.
  have hfound : ∀ {a : String}, a ∈ w.inner.declared ∨ a ∈ [w.decl.name] →
      a ∈ w.found.declared := by
    rintro a (ha | ha)
    · exact List.mem_cons_of_mem _ ha
    · exact List.mem_singleton.mp ha ▸ List.mem_cons_self
  induction h with
  | root => exact List.mem_cons_self
  | @struct d fields d' h hs hm ih =>
    have hd := h.lookup w.lookup_eq
    rcases List.mem_cons.mp ih with heq | hmem
    · have hroot := w.lookup_eq
      obtain rfl := HostModule.eq_of_name_eq hd hroot heq.symm
      refine hfound (hcovers d' ?_)
      simpa only [HostModule.rootPositions, hs] using hm
    · exact hfound (hsettled d hd ⟨fields, hs⟩ hmem d' (by rwa [mentions_struct hs]))
  | @interface methods d' hi hm =>
    refine hfound (hcovers d' ?_)
    simpa only [HostModule.rootPositions, hi] using hm

/-- All that is declared at the end of a walk can be reached from its root. -/
theorem RootWalk.reached_of_mem_declared (he : policy.embedStructs = false) {root : HostType}
    (w : policy.RootWalk m root) {x : String} (hx : x ∈ w.found.declared) :
    ∃ d, d.name = x ∧ m.lookup x = some d ∧ policy.Reached m w.decl d := by
  rcases List.mem_cons.mp hx with rfl | hx
  · exact ⟨w.decl, rfl, w.lookup_eq, .root⟩
  · rcases w.resolves.visits_all.reached he (fun _ hm => .of_root hm) x hx with hx | hx
    · exact absurd hx (by simp)
    · exact hx

/-- The names of the nodes at the end of a walk are those of the declared declarations. -/
theorem RootWalk.namesDeclared (ha : policy.anonNamer = none) {root : HostType}
    (w : policy.RootWalk m root) : policy.NamesDeclared m w.found := by
  have hinner := w.resolves.preserves (preserves_namesDeclared ha) namesDeclared_empty
  exact hinner.declare w.lookup_eq rfl

/-- With structs followed and nothing else turned into a declaration, the graph declares exactly
    what can be reached from the root: each declaration under its target name, and no other. -/
theorem names_eq_image_reached (hf : policy.followStructs = true)
    (he : policy.embedStructs = false) (ha : policy.anonNamer = none) {root : HostType}
    {graph : List TypeNode} (h : extract m root policy = .ok graph) :
    ∃ d, root.deref = .named d.name ∧ m.lookup d.name = some d ∧
      {k | ∃ node ∈ graph, node.name = k} = policy.typeNamer '' {e | policy.Reached m d e} := by
  obtain ⟨w, rfl⟩ := extract_eq_ok h
  refine ⟨w.decl, w.root_eq, w.lookup_eq, ?_⟩
  ext k
  have hnames : (∃ node ∈ policy.sort.sortBy TypeNode.name w.found.nodes, node.name = k) ↔
      k ∈ w.found.names := by
    simp only [mem_graph_iff, Progress.names, List.mem_map]
  -- Names of nodes are target names of what is declared, and that is what can be reached.
  rw [Set.mem_ofPred_eq, hnames, w.namesDeclared ha k]
  constructor
  · rintro ⟨d, hd, hdecl, rfl⟩
    obtain ⟨e, he', hlook, hreached⟩ := w.reached_of_mem_declared he hdecl
    obtain rfl := HostModule.lookup_inj hd hlook
    exact ⟨d, hreached, rfl⟩
  · rintro ⟨d, hreached, rfl⟩
    exact ⟨d, hreached.lookup w.lookup_eq, w.mem_declared_of_reached he hf hreached, rfl⟩

/-- A struct that contains itself by way of an alias, an enumeration behind a pointer, and a hidden
    field. -/
def treeModule : HostModule where
  types := [
    ⟨"Node", .struct [⟨"Kind", .pointer (.named "Kind"), none⟩,
      ⟨"Children", .named "Nodes", none⟩, ⟨"parent", .named "Hidden", none⟩], none, none⟩,
    ⟨"Nodes", .slice (.named "Node"), none, none⟩,
    ⟨"Kind", .string, none, some [.string "Leaf" "leaf"]⟩,
    ⟨"Hidden", .struct [], none, none⟩]

def treeGraph : List TypeNode :=
  [.enum "Kind" none [.string "Leaf" "leaf"],
    .interface "Node" none [.property "Kind" (.simple "Kind"),
      .property "Children" (.array [.simple "Node"])]]

theorem names_treeGraph : extract treeModule (.named "Node") following = .ok treeGraph ∧
    ∃ d, (HostType.named "Node").deref = .named d.name ∧ treeModule.lookup d.name = some d ∧
      {k | ∃ node ∈ treeGraph, node.name = k} =
        following.typeNamer '' {e | following.Reached treeModule d e} := by
  have h : extract treeModule (.named "Node") following = .ok treeGraph := by cbv
  exact ⟨h, names_eq_image_reached rfl rfl rfl h⟩

end ExtractPolicy

end TypeExport
