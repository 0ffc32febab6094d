import TypeExport.Proofs.Walk.Merging
import TypeExport.Proofs.Walk.Replay
import TypeExport.Proofs.Walk.Unfolding

/-! # Following only Adds Declarations

    A walk that follows structs goes into each of them once, between two fields of whatever mentions
    it, and comes back with more nodes and more declarations than before.  A walk that only mentions
    structs stays outside.  None of what the first one brings back has an influence on what is
    written at the places that both of them come to.

    `Covers` is the relation between the two states: the walk that follows structs knows all names
    that the other one knows, and whatever enumeration it has declared, inside of a struct or
    outside, the provider has answered for it.  So an enumeration that is old to the first walk and
    new to the second can be declared there.

    That nodes of one name are the same node then follows from what each of them is written for. -/

namespace TypeExport

namespace ExtractPolicy

/-- The policy that only mentions structs, and is the same in all else. -/
def mentioning (policy : ExtractPolicy) : ExtractPolicy :=
  { policy with
    embedStructs := false
    followStructs := false
    follow_of_embed := ExtractPolicy.default.follow_of_embed }

variable {policy : ExtractPolicy} {m : HostModule}

/-! ## Section 1: Two states side by side -/

/-- The state `s` of a walk that follows structs has all that is asked of the state `r` of one that
    mentions them. -/
structure Covers (policy : ExtractPolicy) (m : HostModule) (s r : Progress) : Prop where
  names : r.names ⊆ s.names
  /-- Declared enumerations have their node, and the provider has given their members. -/
  enums : ∀ d, m.lookup d.name = some d → policy.IsEnum d → d.name ∈ s.declared →
    policy.typeNamer d ∈ s.names ∧
      ∃ provider members, policy.claims? d = some provider ∧ provider.members d = .ok members

theorem covers_empty : policy.Covers m {} {} :=
  ⟨List.Subset.refl _, fun _ _ _ h => absurd h (by simp)⟩

/-- What is added on both walks. -/
theorem Covers.put {s r : Progress} (h : policy.Covers m s r) (node : TypeNode) :
    policy.Covers m (s.put node) (r.put node) := by
  refine ⟨fun k hk => ?_, fun d hd he hmem => ?_⟩
  · rw [Progress.mem_names_put] at hk ⊢
    exact hk.imp_right fun hk => h.names hk
  · obtain ⟨hname, hanswer⟩ := h.enums d hd he hmem
    exact ⟨s.names_subset_put node hname, hanswer⟩

section declarations

variable {s r : Progress} {d : TypeDecl}

/-- A struct is declared on the walk that follows it. -/
theorem Covers.follow (h : policy.Covers m s r) (hd : m.lookup d.name = some d)
    (hs : d.IsStruct) (node : TypeNode) : policy.Covers m (s.declare d.name node) r := by
  refine ⟨List.Subset.trans h.names (s.names_subset_put node), fun e he hen hmem => ?_⟩
  rcases List.mem_cons.mp hmem with heq | hmem
  · obtain rfl := HostModule.eq_of_name_eq hd he heq
    exact absurd hs hen.1
  · obtain ⟨hname, hanswer⟩ := h.enums e he hen hmem
    exact ⟨s.names_subset_put node hname, hanswer⟩

/-- An enumeration that is declared now has been answered for. -/
theorem Covers.enumerate_left (h : policy.Covers m s r) (hd : m.lookup d.name = some d)
    {provider : EnumProvider} {members : List EnumMember} (hc : policy.claims? d = some provider)
    (hm : provider.members d = .ok members) :
    policy.Covers m (s.declare d.name (policy.enumOf d members)) r := by
  refine ⟨List.Subset.trans h.names (s.names_subset_put _), fun e he hen hmem => ?_⟩
  rcases List.mem_cons.mp hmem with heq | hmem
  · obtain rfl := HostModule.eq_of_name_eq hd he heq
    exact ⟨Progress.mem_names_put.mpr (.inl rfl), provider, members, hc, hm⟩
  · obtain ⟨hname, hanswer⟩ := h.enums e he hen hmem
    exact ⟨s.names_subset_put _ hname, hanswer⟩

/-- An enumeration of a known name may be declared behind. -/
theorem Covers.enumerate_right (h : policy.Covers m s r) {members : List EnumMember}
    (hname : policy.typeNamer d ∈ s.names) :
    policy.Covers m s (r.declare d.name (policy.enumOf d members)) := by
  refine ⟨fun k hk => ?_, h.enums⟩
  rw [Progress.names_declare, Progress.mem_names_put] at hk
  rcases hk with rfl | hk
  · exact hname
  · exact h.names hk

end declarations

/-! ## Section 2: Two walks side by side -/

-- At the one rule where the walks part, a struct is followed by the first and mentioned by the
-- second.  The induction hypothesis for the places inside says what is known when the first walk
-- comes back; the derivation that it gives for the second walk is dropped.

mutual

/-- Where a walk that follows structs resolves a type, one that mentions them writes the same
    node. -/
theorem Resolves.onlyMentioned {path : List String} {field : Option HostField} {t : HostType}
    {s s' : Progress} {n : TypeNode} : policy.referring.Resolves m path field t s n s' →
    ∀ r, policy.Covers m s r → ∃ r',
      policy.mentioning.Resolves m path field t r n r' ∧ policy.Covers m s' r'
  | .leaf h, r, hr => ⟨r, .leaf h, hr⟩
  | .slice h, r, hr => by
    obtain ⟨r', h', hr'⟩ := h.onlyMentioned r hr
    exact ⟨r', .slice h', hr'⟩
  | .array h, r, hr => by
    obtain ⟨r', h', hr'⟩ := h.onlyMentioned r hr
    exact ⟨r', .array h', hr'⟩
  | .map hk hv, r, hr => by
    obtain ⟨r₁, hk', hr₁⟩ := hk.onlyMentioned r hr
    obtain ⟨r', hv', hr'⟩ := hv.onlyMentioned r₁ hr₁
    exact ⟨r', .map hk' hv', hr'⟩
  | .pointer h, r, hr => by
    obtain ⟨r', h', hr'⟩ := h.onlyMentioned r hr
    exact ⟨r', .pointer h', hr'⟩
  | .inline hn h, r, hr => by
    obtain ⟨r', h', hr'⟩ := h.onlyMentioned r hr
    exact ⟨r', .inline hn h', hr'⟩
  | .promoted hn h, r, hr => by
    obtain ⟨r', h', hr'⟩ := h.onlyMentioned r hr
    exact ⟨_, .promoted hn h', hr'.put _⟩
  | .embedded _ _ he _ _, _, _ => absurd he (by simp [referring])
  | .mentioned hd hs _ _, r, hr =>
    ⟨r, .mentioned hd hs rfl fun h => absurd h (by simp [mentioning]), hr⟩
  -- Here the walks part: the second one stays where it is and writes the name.
  | .followed hd hs _ _ _ _ h, r, hr => by
    obtain ⟨_, _, hinside⟩ := h.onlyMentioned r hr
    have hback : policy.Covers m _ r :=
      ⟨List.Subset.trans hr.names h.names_subset, hinside.enums⟩
    exact ⟨r, .mentioned hd ⟨_, hs⟩ rfl fun h => absurd h (by simp [mentioning]),
      hback.follow hd ⟨_, hs⟩ _⟩
  | .known (d := d) hd he hk, r, hr => by
    by_cases hknown : d.name ∈ r.declared
    · exact ⟨r, .known hd he hknown, hr⟩
    · -- The first walk has met the enumeration inside of a struct.
      obtain ⟨hname, provider, members, hc, hm⟩ := hr.enums d hd he hk
      exact ⟨_, .enumerated hd he.1 hc hknown hm, hr.enumerate_right hname⟩
  -- The second walk may have declared the enumeration before, under another reference.
  | .enumerated (d := d) hd hs hc _ hm, r, hr => by
    have hleft := hr.enumerate_left hd hc hm
    by_cases hknown : d.name ∈ r.declared
    · have henum : policy.IsEnum d := ⟨hs, Option.isSome_iff_exists.mpr ⟨_, hc⟩⟩
      exact ⟨r, .known hd henum hknown, hleft⟩
    · exact ⟨_, .enumerated hd hs hc hknown hm,
        hleft.enumerate_right (Progress.mem_names_put.mpr (.inl rfl))⟩
  | .shape hd ha hp h, r, hr => by
    obtain ⟨r', h', hr'⟩ := h.onlyMentioned r hr
    exact ⟨r', .shape hd ha hp h', hr'⟩

/-- The same for several places. -/
theorem ResolvesAll.onlyMentioned {path : List String} {ps : List Position} {s s' : Progress}
    {ns : List TypeNode} : policy.referring.ResolvesAll m path ps s ns s' →
    ∀ r, policy.Covers m s r → ∃ r',
      policy.mentioning.ResolvesAll m path ps r ns r' ∧ policy.Covers m s' r'
  | .nil, r, hr => ⟨r, .nil, hr⟩
  | .cons h hall, r, hr => by
    obtain ⟨r₁, h', hr₁⟩ := h.onlyMentioned r hr
    obtain ⟨r', hall', hr'⟩ := hall.onlyMentioned r₁ hr₁
    exact ⟨r', .cons h' hall', hr'⟩

end

/-- Members of a root do not depend on whether structs are followed. -/
theorem AreRootMembers.onlyMentioned {d : TypeDecl} {nodes : List TypeNode} {members : List Member}
    (h : policy.referring.AreRootMembers m d nodes members) :
    policy.mentioning.AreRootMembers m d nodes members := by
  unfold AreRootMembers at h ⊢
  cases hd : d.type.deref with
  | struct fields =>
    rw [hd] at h
    exact h
  | interface methods =>
    rw [hd] at h
    have hmethods : policy.referring.AreMethods m d methods nodes members := h
    clear h hd
    induction hmethods with
    | nil => exact .nil
    | cons hlen his _ ih => exact .cons hlen his ih
  | _ =>
    rw [hd] at h
    exact h

/-- When the walk that follows structs succeeds, the one that mentions them succeeds and finds no
    other names.  Both write the same members for their root. -/
theorem walkRoot_mentioning {root : HostType} {s : Progress}
    (h : policy.referring.walkRoot m root {} = .ok ((), s)) :
    ∃ (w : policy.referring.RootWalk m root) (w' : policy.mentioning.RootWalk m root),
      s = w.found ∧ policy.mentioning.walkRoot m root {} = .ok ((), w'.found) ∧
        w'.decl = w.decl ∧ w'.members = w.members ∧ w'.found.names ⊆ w.found.names := by
  obtain ⟨w, rfl⟩ := walkRoot_ok h
  obtain ⟨r, hr, hcovers⟩ := w.resolves.onlyMentioned {} covers_empty
  let w' : policy.mentioning.RootWalk m root :=
    ⟨w.decl, w.nodes, w.members, r, w.root_eq, w.lookup_eq, hr, w.members_eq.onlyMentioned⟩
  refine ⟨w, w', rfl, ?_, rfl, rfl, ?_⟩
  · exact w'.walkRoot_eq (exportableRoot_of_walkRoot w.root_eq w.lookup_eq h)
  · exact (hcovers.put (policy.interfaceOf w.decl w.members)).names

/-! ## Section 3: What names are given to -/

section given

variable {root : TypeDecl} {field : Option HostField} {t : HostType} {n : TypeNode}

/-- A walk that mentions structs comes to no other places. -/
theorem Stands.of_mentioning (h : policy.mentioning.Stands m root field t) :
    policy.referring.Stands m root field t := by
  induction h with
  | root hp => exact .root hp
  | slice _ ih => exact ih.slice
  | array _ ih => exact ih.array
  | key _ ih => exact ih.key
  | value _ ih => exact ih.value
  | pointer _ ih => exact ih.pointer
  | struct _ hf ih => exact ih.struct hf
  | declared _ hfollow => exact absurd hfollow (by simp [mentioning])
  | shape _ hd ha ih => exact ih.shape hd ha

theorem Gives.of_mentioning {k : String} (h : policy.mentioning.Gives m root k t) :
    policy.referring.Gives m root k t := by
  cases h with
  | root => exact .root
  | struct h hd hs _ => exact .struct h.of_mentioning hd hs rfl
  | enum h hd he => exact .enum h.of_mentioning hd he
  | anonymous h hn => exact .anonymous h.of_mentioning hn

/-- Types are written in the same way. -/
theorem Writes.of_mentioning (h : policy.mentioning.Writes m field t n) :
    policy.referring.Writes m field t n := by
  induction h with
  | leaf h => exact .leaf h
  | slice _ ih => exact .slice ih
  | array _ ih => exact .array ih
  | map _ _ ihk ihv => exact .map ihk ihv
  | pointer _ ih => exact .pointer ih
  | inline hf hlen _ ih => exact .inline hf hlen ih
  | promoted hn => exact .promoted hn
  | embedded _ _ he => exact absurd he (by simp [mentioning])
  | struct hd hs _ => exact .struct hd hs rfl
  | enum hd he => exact .enum hd he
  | shape hd ha _ ih => exact .shape hd ha ih

theorem NodeOf.of_mentioning (h : policy.mentioning.NodeOf m t n) :
    policy.referring.NodeOf m t n := by
  cases h with
  | struct hd hs h => exact .struct hd hs ⟨h.1, fun f n hmem => (h.2 f n hmem).of_mentioning⟩
  | enum hd hs hc hm => exact .enum hd hs hc hm
  | anonymous h => exact .anonymous ⟨h.1, fun f n hmem => (h.2 f n hmem).of_mentioning⟩

end given

/-! ## Section 4: Graphs -/

/-- A node that is found with structs mentioned, under a name that is found with structs followed,
    is found there, too. -/
theorem RootWalk.mem_of_mentioning {root : HostType} (w : policy.referring.RootWalk m root)
    (w' : policy.mentioning.RootWalk m root) (hdecl : w'.decl = w.decl)
    (hmembers : w'.members = w.members) (hnames : w'.found.names ⊆ w.found.names)
    (hapart : policy.referring.Apart m w.decl)
    (hclaims : policy.referring.ClaimsNoInterface m [w.decl.name]) {n : TypeNode}
    (hn : n ∈ w'.found.nodes) : n ∈ w.found.nodes := by
  rcases w'.mem_nodes_found hn with rfl | hinner
  · rw [hdecl, hmembers]
    exact w.root_mem
  · obtain ⟨t, hgives, hnode⟩ := w'.faithful_inner n hinner
    rw [hdecl] at hgives
    obtain ⟨n', hn', hname⟩ := List.mem_map.mp (hnames (List.mem_map_of_mem hn))
    -- The node of this name declares the same type.
    rcases w.node_cases hn' with ⟨t', hgives', hnode'⟩ | ⟨hgives', methods, hi⟩
    · rw [hname] at hgives'
      obtain rfl := hapart _ _ _ hgives.of_mentioning hgives'
      obtain rfl := hnode.of_mentioning.unique hnode' hname.symm
      exact hn'
    · rw [hname] at hgives'
      obtain rfl := hapart _ _ _ hgives.of_mentioning hgives'
      exact absurd hnode.of_mentioning
        (hclaims.not_nodeOf w.lookup_eq (List.mem_singleton_self _) hi)

/-- Following structs only adds declarations.  If a walk that follows structs succeeds, then so does
    the one that only mentions them, and its graph consists of nodes of the graph of the first, with
    the node of the root among them.  The names under the root must be apart, and the provider must
    not claim a root that is an interface. -/
theorem extract_mentioning_subset {root : HostType} {graph : List TypeNode}
    (hapart : ∀ d, m.lookup d.name = some d → root.deref = .named d.name →
      policy.referring.Apart m d)
    (hclaims : ∀ d methods, m.lookup d.name = some d → root.deref = .named d.name →
      d.type.deref = .interface methods → policy.claims? d = none)
    (h : extract m root policy.referring = .ok graph) :
    ∃ graph', extract m root policy.mentioning = .ok graph' ∧ graph' ⊆ graph ∧
      ∃ d members, root.deref = .named d.name ∧ m.lookup d.name = some d ∧
        policy.interfaceOf d members ∈ graph' := by
  obtain ⟨s, hs, rfl⟩ := extract_eq_ok_iff.mp h
  obtain ⟨w, w', rfl, hwalk, hdecl, hmembers, hnames⟩ := walkRoot_mentioning hs
  refine ⟨_, extract_eq_ok_iff.mpr ⟨_, hwalk, rfl⟩, fun n hn => ?_,
    w'.decl, w'.members, w'.root_eq, w'.lookup_eq, (mem_graph_iff w' _).mpr w'.root_mem⟩
  have hroot : policy.referring.ClaimsNoInterface m [w.decl.name] := by
    intro d methods hd hmem hi
    refine hclaims d methods hd ?_ hi
    rw [List.mem_singleton.mp hmem, w.root_eq]
  exact (mem_graph_iff w n).mpr (w.mem_of_mentioning w' hdecl hmembers hnames
    (hapart _ w.lookup_eq w.root_eq) hroot ((mem_graph_iff w' n).mp hn))

/-- A shop whose owner has a mood, and which has one itself. -/
def shopModule : HostModule where
  types := [
    ⟨"Shop", .struct [⟨"Owner", .pointer (.named "Owner"), none⟩, ⟨"Mood", .named "Mood", none⟩],
      none, none⟩,
    ⟨"Owner", .struct [⟨"Mood", .named "Mood", none⟩, ⟨"Shops", .slice (.named "Shop"), none⟩],
      none, none⟩,
    ⟨"Mood", .string, none, some [.string "Good" "good"]⟩]

/-- The graph of the shop.  The enumeration is met inside of the owner. -/
def shopGraph : List TypeNode :=
  [.enum "Mood" none [.string "Good" "good"],
    .interface "Owner" none [.property "Mood" (.simple "Mood"),
      .property "Shops" (.array [.simple "Shop"])],
    .interface "Shop" none [.property "Owner" (.simple "Owner"),
      .property "Mood" (.simple "Mood")]]

theorem shopGraph_mentioning :
    (∀ d, shopModule.lookup d.name = some d → (HostType.named "Shop").deref = .named d.name →
      following.Apart shopModule d) ∧
    extract shopModule (.named "Shop") following = .ok shopGraph ∧
    ∃ graph, extract shopModule (.named "Shop") following.mentioning = .ok graph ∧
      graph ⊆ shopGraph ∧ graph.map TypeNode.name = ["Mood", "Shop"] := by
  have hapart : ∀ d, shopModule.lookup d.name = some d →
      (HostType.named "Shop").deref = .named d.name → following.Apart shopModule d :=
    fun _ _ _ => apart_of_injective rfl fun _ _ h => h
  have hclaims : ∀ d methods, shopModule.lookup d.name = some d →
      (HostType.named "Shop").deref = .named d.name → d.type.deref = .interface methods →
        following.claims? d = none := by
    intro d methods hd _ hi
    -- No declaration of the module is an interface.
    have hmem := HostModule.mem_of_lookup hd
    simp only [shopModule, List.mem_cons, List.not_mem_nil, or_false] at hmem
    rcases hmem with rfl | rfl | rfl <;> cases hi
  have h : extract shopModule (.named "Shop") following = .ok shopGraph := by cbv
  obtain ⟨graph, hgraph, hsubset, -⟩ := extract_mentioning_subset hapart hclaims h
  have hnames : (extract shopModule (.named "Shop") following.mentioning).map
      (·.map TypeNode.name) = .ok ["Mood", "Shop"] := by cbv
  rw [hgraph] at hnames
  exact ⟨hapart, h, graph, hgraph, hsubset, Except.ok.inj hnames⟩

end ExtractPolicy

end TypeExport
