import TypeExport.Proofs.Walk.Closure

/-! # What Nodes are Written for

    A walk writes types as nodes, and where a node is only a name, the walk keeps the node of that
    name for the type that the name was given to.  `Writes` relates a type to the node that takes
    its place, without states and paths, and `NodeOf` relates a type to the node that declares it.

    A name may be given to several types, and then only one of them has its node in the graph.
    Under a root whose names are `Apart` this does not happen. -/

namespace TypeExport

namespace ExtractPolicy

variable (policy : ExtractPolicy) (m : HostModule)

/-! ## Section 1: Places and names under a root -/

/-- A walk from `root` may come to a place where the type stands in the field, or in no field. -/
inductive Stands (root : TypeDecl) : Option HostField → HostType → Prop
  | root {p} (hp : p ∈ m.rootPositions root) : Stands root p.field p.type
  | slice {field elem} (h : Stands root field (.slice elem)) : Stands root none elem
  | array {field len elem} (h : Stands root field (.array len elem)) : Stands root none elem
  | key {field key value} (h : Stands root field (.map key value)) : Stands root none key
  | value {field key value} (h : Stands root field (.map key value)) : Stands root none value
  | pointer {field elem} (h : Stands root field (.pointer elem)) : Stands root field elem
  | struct {field fields f} (h : Stands root field (.struct fields))
    (hf : f ∈ visibleFields fields) : Stands root (some f) f.type
  | declared {field d fields f} (h : Stands root field (.named d.name))
    (hfollow : policy.followStructs = true) (hd : m.lookup d.name = some d)
    (hs : d.type.deref = .struct fields) (hf : f ∈ visibleFields fields) :
    Stands root (some f) f.type
  | shape {field d} (h : Stands root field (.named d.name)) (hd : m.lookup d.name = some d)
    (ha : policy.IsAlias d) : Stands root none d.type

/-- On a walk from `root` the target name `k` is given to a declaration or to an anonymous
    struct. -/
inductive Gives (root : TypeDecl) : String → HostType → Prop
  | root : Gives root (policy.typeNamer root) (.named root.name)
  | struct {field d} (h : policy.Stands m root field (.named d.name))
    (hd : m.lookup d.name = some d) (hs : d.IsStruct) (he : policy.embedStructs = false) :
    Gives root (policy.typeNamer d) (.named d.name)
  | enum {field d} (h : policy.Stands m root field (.named d.name))
    (hd : m.lookup d.name = some d) (he : policy.IsEnum d) :
    Gives root (policy.typeNamer d) (.named d.name)
  | anonymous {f fields namer} (h : policy.Stands m root (some f) (.struct fields))
    (hn : policy.anonNamer = some namer) : Gives root (namer f) (.struct fields)

/-- No two distinct declarations or anonymous structs under the root get the same target name. -/
def Apart (root : TypeDecl) : Prop :=
  ∀ k t t', policy.Gives m root k t → policy.Gives m root k t' → t = t'

/-! ## Section 2: Nodes for types -/

/-- The node takes the place of the type in a field, or in no field. -/
inductive Writes : Option HostField → HostType → TypeNode → Prop
  | leaf {field t site n} (h : leaf site t = .ok n) : Writes field t n
  | slice {field elem n} (h : Writes none elem n) : Writes field (.slice elem) (.array [n])
  | array {field len elem n} (h : Writes none elem n) : Writes field (.array len elem) (.array [n])
  | map {field key value k v} (hk : Writes none key k) (hv : Writes none value v) :
    Writes field (.map key value) (.map [k, v])
  | pointer {field elem n} (h : Writes field elem n) : Writes field (.pointer elem) n
  | inline {field fields ns} (hf : policy.anonNamer = none ∨ field = none)
    (hlen : (visibleFields fields).length = ns.length)
    (h : ∀ f n, (f, n) ∈ (visibleFields fields).zip ns → Writes (some f) f.type n) :
    Writes field (.struct fields)
      (.interface "" none (policy.arrange (fieldMembers fields ns)))
  | promoted {f fields namer} (hn : policy.anonNamer = some namer) :
    Writes (some f) (.struct fields) (.simple (namer f))
  | embedded {field d fields ns} (hd : m.lookup d.name = some d)
    (hs : d.type.deref = .struct fields) (he : policy.embedStructs = true)
    (hlen : (visibleFields fields).length = ns.length)
    (h : ∀ f n, (f, n) ∈ (visibleFields fields).zip ns → Writes (some f) f.type n) :
    Writes field (.named d.name)
      (.interface "" (policy.declComment d) (policy.arrange (fieldMembers fields ns)))
  | struct {field d} (hd : m.lookup d.name = some d) (hs : d.IsStruct)
    (he : policy.embedStructs = false) : Writes field (.named d.name) (.simple (policy.typeNamer d))
  | enum {field d} (hd : m.lookup d.name = some d) (he : policy.IsEnum d) :
    Writes field (.named d.name) (.simple (policy.typeNamer d))
  | shape {field d n} (hd : m.lookup d.name = some d) (ha : policy.IsAlias d)
    (h : Writes none d.type n) : Writes field (.named d.name) n

/-- The nodes take the places of the visible fields, in their order. -/
def WritesFields (fields : List HostField) (ns : List TypeNode) : Prop :=
  (visibleFields fields).length = ns.length ∧
    ∀ f n, (f, n) ∈ (visibleFields fields).zip ns → policy.Writes m (some f) f.type n

/-- The node declares the type. -/
inductive NodeOf : HostType → TypeNode → Prop
  | struct {name d fields ns} (hd : m.lookup name = some d) (hs : d.type.deref = .struct fields)
    (h : policy.WritesFields m fields ns) :
    NodeOf (.named name) (policy.interfaceOf d (fieldMembers fields ns))
  | enum {name d provider members} (hd : m.lookup name = some d) (hs : ¬ d.IsStruct)
    (hc : policy.claims? d = some provider) (hm : provider.members d = .ok members) :
    NodeOf (.named name) (policy.enumOf d members)
  | anonymous {name fields ns} (h : policy.WritesFields m fields ns) :
    NodeOf (.struct fields) (.interface name none (policy.arrange (fieldMembers fields ns)))

/-- All nodes declare what their names have been given to. -/
def Faithful (root : TypeDecl) (s : Progress) : Prop :=
  ∀ node ∈ s.nodes, ∃ t, policy.Gives m root node.name t ∧ policy.NodeOf m t node

variable {policy : ExtractPolicy} {m : HostModule} {root : TypeDecl}

/-- When anonymous structs get no names, all names are those of declarations. -/
theorem Gives.exists_decl (hn : policy.anonNamer = none) {k : String} {t : HostType}
    (h : policy.Gives m root k t) :
    ∃ d : TypeDecl, k = policy.typeNamer d ∧ t = .named d.name := by
  cases h with
  | root => exact ⟨_, rfl, rfl⟩
  | struct => exact ⟨_, rfl, rfl⟩
  | enum => exact ⟨_, rfl, rfl⟩
  | anonymous _ hsome => exact absurd (hn.symm.trans hsome) (by simp)

/-- When namers keep distinct names distinct and anonymous structs get none, all names are apart. -/
theorem apart_of_injective (hn : policy.anonNamer = none)
    (hinj : ∀ d d' : TypeDecl, policy.typeNamer d = policy.typeNamer d' → d.name = d'.name) :
    policy.Apart m root := by
  intro k t t' h h'
  obtain ⟨d, rfl, rfl⟩ := h.exists_decl hn
  obtain ⟨d', heq, rfl⟩ := h'.exists_decl hn
  rw [hinj d d' heq]

/-! ## Section 3: Walks write nodes for types -/

/-- The members of a struct are its visible fields with their nodes, in some order. -/
theorem mem_arrange_fieldMembers {fields : List HostField} {ns : List TypeNode} {mem : Member} :
    mem ∈ policy.arrange (fieldMembers fields ns) ↔
      ∃ f n, (f, n) ∈ (visibleFields fields).zip ns ∧ mem = f.property n := by
  rw [arrange, (policy.sort.sortBy_perm _ _).mem_iff, fieldMembers,
    ← List.map_uncurry_zip_eq_zipWith, List.mem_map]
  constructor
  · rintro ⟨⟨f, n⟩, hzip, rfl⟩
    exact ⟨f, n, hzip, rfl⟩
  · rintro ⟨f, n, hzip, rfl⟩
    exact ⟨(f, n), hzip, rfl⟩

/-- In lists of the same length everything has a counterpart. -/
theorem exists_mem_zip {α β : Type} {a : α} : ∀ {as : List α} {bs : List β},
    as.length = bs.length → a ∈ as → ∃ b, (a, b) ∈ as.zip bs
  | [], _, _, h => absurd h (by simp)
  | _ :: _, [], hlen, _ => absurd hlen (by simp)
  | x :: xs, b :: bs, hlen, h => by
    rcases List.mem_cons.mp h with rfl | h
    · exact ⟨b, List.mem_cons_self⟩
    · obtain ⟨b', hb'⟩ := exists_mem_zip (Nat.succ.inj hlen) h
      exact ⟨b', List.mem_cons_of_mem _ hb'⟩

/-- The places of visible fields are the fields. -/
theorem writesFields_of_positions {fields : List HostField} {ns : List TypeNode}
    (h : (visiblePositions fields).length = ns.length ∧
      ∀ p n, (p, n) ∈ (visiblePositions fields).zip ns → policy.Writes m p.field p.type n) :
    policy.WritesFields m fields ns := by
  obtain ⟨hlen, hzip⟩ := h
  rw [visiblePositions, List.length_map] at hlen
  refine ⟨hlen, ?_⟩
  intro f n hmem
  refine hzip f.position n ?_
  rw [visiblePositions, List.zip_map_left]
  exact List.mem_map.mpr ⟨(f, n), hmem, rfl⟩

mutual

/-- What a type is resolved to takes its place. -/
theorem Resolves.writes {path : List String} {field : Option HostField} {t : HostType}
    {s s' : Progress} {n : TypeNode} : policy.Resolves m path field t s n s' →
    policy.Writes m field t n
  | .leaf h => .leaf h
  | .slice h => .slice h.writes
  | .array h => .array h.writes
  | .map hk hv => .map hk.writes hv.writes
  | .pointer h => .pointer h.writes
  | .inline hf h => by
    obtain ⟨hlen, hns⟩ := writesFields_of_positions h.writes
    exact .inline hf hlen hns
  | .promoted hn _ => .promoted hn
  | .embedded hd hs he _ h => by
    obtain ⟨hlen, hns⟩ := writesFields_of_positions h.writes
    exact .embedded hd hs he hlen hns
  | .mentioned hd hs he _ => .struct hd hs he
  | .followed hd hs he _ _ _ _ => .struct hd ⟨_, hs⟩ he
  | .known hd he _ => .enum hd he
  | .enumerated hd hs hc _ _ => .enum hd ⟨hs, by rw [hc]; rfl⟩
  | .shape hd ha _ h => .shape hd ha h.writes

/-- What several places are resolved to takes their places. -/
theorem ResolvesAll.writes {path : List String} {ps : List Position} {s s' : Progress}
    {ns : List TypeNode} : policy.ResolvesAll m path ps s ns s' →
    ps.length = ns.length ∧ ∀ p n, (p, n) ∈ ps.zip ns → policy.Writes m p.field p.type n
  | .nil => ⟨rfl, fun p n h => absurd h (by simp)⟩
  | .cons h hall => by
    have hfirst := h.writes
    obtain ⟨hlen, hrest⟩ := hall.writes
    refine ⟨by simp [hlen], ?_⟩
    intro q k hmem
    rw [List.zip_cons_cons] at hmem
    rcases List.mem_cons.mp hmem with heq | hmem
    · cases heq
      exact hfirst
    · exact hrest q k hmem

end

theorem ResolvesAll.writesFields {path : List String} {fields : List HostField} {s s' : Progress}
    {ns : List TypeNode} (h : policy.ResolvesAll m path (visiblePositions fields) s ns s') :
    policy.WritesFields m fields ns := writesFields_of_positions h.writes

/-! ## Section 4: A type is written in one way -/

/-- A leaf has one node, wherever it stands. -/
theorem leaf_unique {t : HostType} {site site' : String} {n n' : TypeNode}
    (h : leaf site t = .ok n) (h' : leaf site' t = .ok n') : n = n' := by
  cases t <;> simp_all [leaf]

/-- Lists that go with the same list are equal when each place has one value. -/
theorem eq_of_zip {α β : Type} {P : α → β → Prop} :
    ∀ {as : List α} {bs bs' : List β}, as.length = bs.length → as.length = bs'.length →
      (∀ a b, (a, b) ∈ as.zip bs → ∀ b', P a b' → b = b') →
      (∀ a b, (a, b) ∈ as.zip bs' → P a b) → bs = bs'
  | [], [], [], _, _, _, _ => rfl
  | a :: as, b :: bs, b' :: bs', hlen, hlen', h, h' => by
    rw [h a b List.mem_cons_self b' (h' a b' List.mem_cons_self)]
    rw [eq_of_zip (Nat.succ.inj hlen) (Nat.succ.inj hlen')
      (fun x y hmem => h x y (List.mem_cons_of_mem _ hmem))
      fun x y hmem => h' x y (List.mem_cons_of_mem _ hmem)]

/-- What a reference is written as is decided by the role of its declaration. -/
theorem Writes.named_cases {field : Option HostField} {d : TypeDecl} {n : TypeNode}
    (hd : m.lookup d.name = some d) (h : policy.Writes m field (.named d.name) n) :
    (policy.embedStructs = true ∧ ∃ fields ns, d.type.deref = .struct fields ∧
      policy.WritesFields m fields ns ∧
      n = .interface "" (policy.declComment d) (policy.arrange (fieldMembers fields ns))) ∨
    (policy.embedStructs = false ∧ d.IsStruct ∧ n = .simple (policy.typeNamer d)) ∨
    (policy.IsEnum d ∧ n = .simple (policy.typeNamer d)) ∨
    (policy.IsAlias d ∧ policy.Writes m none d.type n) := by
  -- The index has to be a variable before the cases can be told apart.
  generalize ht : HostType.named d.name = t at h
  cases h with
  | leaf h =>
    subst ht
    cases h
  | embedded hd' hs he hlen hns =>
    obtain rfl := HostModule.eq_of_name_eq hd hd' (HostType.named.inj ht).symm
    exact .inl ⟨he, _, _, hs, ⟨hlen, hns⟩, rfl⟩
  | struct hd' hs he =>
    obtain rfl := HostModule.eq_of_name_eq hd hd' (HostType.named.inj ht).symm
    exact .inr (.inl ⟨he, hs, rfl⟩)
  | enum hd' he =>
    obtain rfl := HostModule.eq_of_name_eq hd hd' (HostType.named.inj ht).symm
    exact .inr (.inr (.inl ⟨he, rfl⟩))
  | shape hd' ha h =>
    obtain rfl := HostModule.eq_of_name_eq hd hd' (HostType.named.inj ht).symm
    exact .inr (.inr (.inr ⟨ha, h⟩))
  | _ => cases ht

/-- In one place a type is written as one node. -/
theorem Writes.unique {field : Option HostField} {t : HostType} {n n' : TypeNode}
    (h : policy.Writes m field t n) : policy.Writes m field t n' → n = n' := by
  induction h generalizing n' with
  -- A leaf is written in one way, and the shapes that other rules are about are no leaves.
  | leaf h =>
    intro hw
    cases hw with
    | leaf h' => exact leaf_unique h h'
    | _ => cases h
  | slice _ ih =>
    intro hw
    cases hw with
    | leaf h => cases h
    | slice hw => rw [ih hw]
  | array _ ih =>
    intro hw
    cases hw with
    | leaf h => cases h
    | array hw => rw [ih hw]
  | map _ _ ihk ihv =>
    intro hw
    cases hw with
    | leaf h => cases h
    | map hk hv => rw [ihk hk, ihv hv]
  | pointer _ ih =>
    intro hw
    cases hw with
    | leaf h => cases h
    | pointer hw => exact ih hw
  -- Whether a struct without a name is promoted is a matter of the policy and the field.
  | inline hf hlen _ ih =>
    intro hw
    cases hw with
    | leaf h => cases h
    | inline _ hlen' hns => rw [eq_of_zip hlen hlen' (fun f n hzip _ => ih f n hzip) hns]
    | promoted hn => simp [hn] at hf
  | promoted hn =>
    intro hw
    cases hw with
    | leaf h => cases h
    | inline hf => simp [hn] at hf
    | promoted hn' => rw [Option.some.inj (hn.symm.trans hn')]
  -- For a reference the role of its declaration decides, and the other roles contradict it.
  | embedded hd hs he hlen _ ih =>
    intro hw
    rcases hw.named_cases hd with ⟨_, fields, ns, hs', hns, rfl⟩ | ⟨hne, _, _⟩ | ⟨hen, _⟩ | ⟨ha, _⟩
    · obtain rfl := HostType.struct.inj (hs.symm.trans hs')
      rw [eq_of_zip hlen hns.1 (fun f n hzip _ => ih f n hzip) hns.2]
    · exact absurd (he.symm.trans hne) (by simp)
    · exact absurd ⟨_, hs⟩ hen.1
    · exact absurd ⟨_, hs⟩ ha.1
  | struct hd hs he =>
    intro hw
    rcases hw.named_cases hd with ⟨hembed, _⟩ | ⟨_, _, rfl⟩ | ⟨_, rfl⟩ | ⟨ha, _⟩
    · exact absurd (hembed.symm.trans he) (by simp)
    · rfl
    · rfl
    · exact absurd hs ha.1
  | enum hd he =>
    intro hw
    rcases hw.named_cases hd with ⟨_, _, _, hs, _⟩ | ⟨_, _, rfl⟩ | ⟨_, rfl⟩ | ⟨ha, _⟩
    · exact absurd ⟨_, hs⟩ he.1
    · rfl
    · rfl
    · exact absurd (.inr he) (policy.not_isDeclarable_of_isAlias ha)
  | shape hd ha _ ih =>
    intro hw
    rcases hw.named_cases hd with ⟨_, _, _, hs, _⟩ | ⟨_, hs, _⟩ | ⟨he, _⟩ | ⟨_, hw⟩
    · exact absurd ⟨_, hs⟩ ha.1
    · exact absurd hs ha.1
    · exact absurd (.inr he) (policy.not_isDeclarable_of_isAlias ha)
    · exact ih hw

theorem WritesFields.unique {fields : List HostField} {ns ns' : List TypeNode}
    (h : policy.WritesFields m fields ns) (h' : policy.WritesFields m fields ns') : ns = ns' :=
  eq_of_zip h.1 h'.1 (fun f n hzip _ => (h.2 f n hzip).unique) h'.2

/-- A type is declared by one node of a name. -/
theorem NodeOf.unique {t : HostType} {n n' : TypeNode} (h : policy.NodeOf m t n)
    (h' : policy.NodeOf m t n') (hname : n.name = n'.name) : n = n' := by
  cases h with
  | struct hd hs h =>
    cases h' with
    | struct hd' hs' h' =>
      obtain rfl := HostModule.lookup_inj hd hd'
      obtain rfl := HostType.struct.inj (hs.symm.trans hs')
      rw [h.unique h']
    -- A struct is never an enumeration.
    | enum hd' hns _ _ =>
      obtain rfl := HostModule.lookup_inj hd hd'
      exact absurd ⟨_, hs⟩ hns
  | enum hd hns hc hm =>
    cases h' with
    | struct hd' hs _ =>
      obtain rfl := HostModule.lookup_inj hd hd'
      exact absurd ⟨_, hs⟩ hns
    | enum hd' _ hc' hm' =>
      obtain rfl := HostModule.lookup_inj hd hd'
      obtain rfl := Option.some.inj (hc.symm.trans hc')
      rw [Except.ok.inj (hm.symm.trans hm')]
  | anonymous h =>
    cases h' with
    | anonymous h' =>
      -- Only here the names must be given to agree, as the type says nothing about them.
      rw [TypeNode.name, TypeNode.name] at hname
      rw [h.unique h', hname]

/-! ## Section 5: Walks keep nodes for the types their names are given to -/

theorem Faithful.put {s : Progress} {node : TypeNode} {t : HostType}
    (h : policy.Faithful m root s) (hg : policy.Gives m root node.name t)
    (hn : policy.NodeOf m t node) : policy.Faithful m root (s.put node) := by
  intro x hx
  rcases mem_upsert hx with rfl | hx
  · exact ⟨t, hg, hn⟩
  · exact h x hx

/-- A declaration is a node that is added. -/
theorem Faithful.declare {s : Progress} {name : String} {node : TypeNode} {t : HostType}
    (h : policy.Faithful m root s) (hg : policy.Gives m root node.name t)
    (hn : policy.NodeOf m t node) : policy.Faithful m root (s.declare name node) :=
  h.put hg hn

/-- The visible fields of a type stand in their places. -/
theorem stands_of_visible {fields : List HostField}
    (h : ∀ f ∈ visibleFields fields, policy.Stands m root (some f) f.type) :
    ∀ p ∈ visiblePositions fields, policy.Stands m root p.field p.type :=
  forall_visiblePositions.mpr h

-- Nodes are added in three rules, for anonymous structs, followed structs and enumerations, and
-- each of them gives a name.

mutual

/-- Resolving a type keeps the nodes faithful. -/
theorem Resolves.faithful {path : List String} {field : Option HostField} {t : HostType}
    {s s' : Progress} {n : TypeNode} :
    policy.Resolves m path field t s n s' → policy.Stands m root field t →
      policy.Faithful m root s → policy.Faithful m root s'
  | .leaf _, _, hs => hs
  | .slice h, hstands, hs => h.faithful hstands.slice hs
  | .array h, hstands, hs => h.faithful hstands.array hs
  | .map hk hv, hstands, hs =>
    hv.faithful hstands.value (hk.faithful hstands.key hs)
  | .pointer h, hstands, hs => h.faithful hstands.pointer hs
  | .inline _ h, hstands, hs =>
    h.faithful (stands_of_visible fun f hf => hstands.struct hf) hs
  | .promoted hn h, hstands, hs =>
    (h.faithful (stands_of_visible fun f hf => hstands.struct hf) hs).put
      (.anonymous hstands hn) (.anonymous h.writesFields)
  | .embedded hd hfields he _ h, hstands, hs =>
    h.faithful (stands_of_visible fun f hf =>
      hstands.declared (policy.follow_of_embed he) hd hfields hf) hs
  | .mentioned _ _ _ _, _, hs => hs
  | .followed hd hfields he hfollow _ _ h, hstands, hs =>
    (h.faithful
      (stands_of_visible fun f hf => hstands.declared hfollow hd hfields hf) hs).declare
      (.struct hstands hd ⟨_, hfields⟩ he) (.struct hd hfields h.writesFields)
  | .known _ _ _, _, hs => hs
  | .enumerated hd hns hc _ hm, hstands, hs =>
    hs.declare (.enum hstands hd ⟨hns, by rw [hc]; rfl⟩) (.enum hd hns hc hm)
  | .shape hd ha _ h, hstands, hs => h.faithful (hstands.shape hd ha) hs

/-- Resolving several places keeps the nodes faithful. -/
theorem ResolvesAll.faithful {path : List String} {ps : List Position} {s s' : Progress}
    {ns : List TypeNode} :
    policy.ResolvesAll m path ps s ns s' → (∀ p ∈ ps, policy.Stands m root p.field p.type) →
      policy.Faithful m root s → policy.Faithful m root s'
  | .nil, _, hs => hs
  | .cons h hall, hstands, hs =>
    hall.faithful (fun p hp => hstands p (List.mem_cons_of_mem _ hp))
      (h.faithful (hstands _ List.mem_cons_self) hs)

end

variable {type : HostType}

/-- The nodes found before the root gets its own are faithful. -/
theorem RootWalk.faithful_inner (w : policy.RootWalk m type) : policy.Faithful m w.decl w.inner :=
  w.resolves.faithful (fun p hp => .root hp) fun _ h => absurd h (by simp)

/-- The node of a root that is a struct declares it. -/
theorem RootWalk.nodeOf_root (w : policy.RootWalk m type) (hs : w.decl.IsStruct) :
    policy.NodeOf m (.named w.decl.name) (policy.interfaceOf w.decl w.members) := by
  obtain ⟨fields, hs⟩ := hs
  have hresolves := w.resolves
  have hmembers := w.members_eq
  rw [HostModule.rootPositions, hs] at hresolves
  rw [AreRootMembers, hs] at hmembers
  rw [hmembers]
  exact .struct w.lookup_eq hs hresolves.writesFields

/-- At the end of a walk from a struct the nodes are faithful.  The root comes last, and its node
    may take the place of one of the same name. -/
theorem RootWalk.faithful (w : policy.RootWalk m type) (hs : w.decl.IsStruct) :
    policy.Faithful m w.decl w.found :=
  w.faithful_inner.declare .root (w.nodeOf_root hs)

end ExtractPolicy

end TypeExport
