import TypeExport.Proofs.Walk.Writing

/-! # Serialized Values

    `Serializes` says which values a host type is serialized to, by the type alone.  A graph says
    which values its declarations describe.  For the graph that a walk gives the two agree: a value
    passes the check against the name of the root if and only if the root is serialized to it.

    A node may lead back to itself through names, so the agreement of a node with its type is not an
    induction on either of them.  It is an induction on the size of values first, and for values of
    one size on how the node has been written: behind a name stands a declaration, and what the
    declaration demands of a value it demands of smaller parts. -/

namespace TypeExport

open Json Conformance

namespace ExtractPolicy

variable (policy : ExtractPolicy) (m : HostModule)

/-! ## Section 1: Values of host types -/

/-- Values of the type are serialized to this JSON value. -/
inductive Serializes : HostType → Value → Prop
  | bool {b} : Serializes .bool (.bool b)
  | int {bits unsigned v} (h : v.kind = "number") : Serializes (.int bits unsigned) v
  | float {bits v} (h : v.kind = "number") : Serializes (.float bits) v
  | string {s} : Serializes .string (.string s)
  | slice {elem items} (h : ∀ v ∈ items, Serializes elem v) :
    Serializes (.slice elem) (.array items)
  | array {len elem items} (h : ∀ v ∈ items, Serializes elem v) :
    Serializes (.array len elem) (.array items)
  | map {key value entries} (h : ∀ e ∈ entries, Serializes value e.2) :
    Serializes (.map key value) (.object entries)
  | pointer {elem v} (h : Serializes elem v) : Serializes (.pointer elem) v
  /-- Keys are names of visible fields, and what is left out is optional. -/
  | struct {fields entries}
    (hkeys : ∀ e ∈ entries, ∃ f ∈ visibleFields fields, f.serializedName = e.1)
    (hpresent : ∀ f ∈ visibleFields fields, ∀ v,
      Value.lookup f.serializedName entries = some v → Serializes f.type v)
    (habsent : ∀ f ∈ visibleFields fields,
      Value.lookup f.serializedName entries = none → f.parsedTag.optional = true) :
    Serializes (.struct fields) (.object entries)
  | declared {name d fields v} (hd : m.lookup name = some d) (hs : d.type.deref = .struct fields)
    (h : Serializes (.struct fields) v) : Serializes (.named name) v
  /-- The value is one that the literal of a member denotes. -/
  | enum {name d provider members member v} (hd : m.lookup name = some d) (hs : ¬ d.IsStruct)
    (hc : policy.claims? d = some provider) (hm : provider.members d = .ok members)
    (hmem : member ∈ members) (hv : Value.parse member.value = some v) : Serializes (.named name) v
  | shape {name d v} (hd : m.lookup name = some d) (ha : policy.IsAlias d)
    (h : Serializes d.type v) : Serializes (.named name) v

variable {policy : ExtractPolicy} {m : HostModule}

theorem serializes_struct_named {name : String} {d : TypeDecl} {fields : List HostField}
    {v : Value} (hd : m.lookup name = some d) (hs : d.type.deref = .struct fields) :
    policy.Serializes m (.named name) v ↔ policy.Serializes m (.struct fields) v := by
  constructor
  · intro h
    cases h with
    | declared hd' hs' h =>
      obtain rfl := HostModule.lookup_inj hd hd'
      rw [hs] at hs'
      cases hs'
      exact h
    | enum hd' hns _ _ _ _ =>
      obtain rfl := HostModule.lookup_inj hd hd'
      exact absurd ⟨fields, hs⟩ hns
    | shape hd' ha _ =>
      obtain rfl := HostModule.lookup_inj hd hd'
      exact absurd ⟨fields, hs⟩ ha.1
  · exact .declared hd hs

theorem serializes_enum_named {name : String} {d : TypeDecl} {provider : EnumProvider}
    {members : List EnumMember} {v : Value} (hd : m.lookup name = some d) (hs : ¬ d.IsStruct)
    (hc : policy.claims? d = some provider) (hm : provider.members d = .ok members) :
    policy.Serializes m (.named name) v ↔
      ∃ member ∈ members, Value.parse member.value = some v := by
  constructor
  · intro h
    cases h with
    -- A declaration that is claimed as an enumeration is neither a struct nor an alias.
    | declared hd' hs' _ =>
      obtain rfl := HostModule.lookup_inj hd hd'
      exact absurd ⟨_, hs'⟩ hs
    | enum hd' _ hc' hm' hmem hv =>
      obtain rfl := HostModule.lookup_inj hd hd'
      rw [hc] at hc'
      cases hc'
      rw [hm] at hm'
      cases hm'
      exact ⟨_, hmem, hv⟩
    | shape hd' ha _ =>
      obtain rfl := HostModule.lookup_inj hd hd'
      rw [ha.2] at hc
      exact absurd hc (by simp)
  · rintro ⟨member, hmem, hv⟩
    exact .enum hd hs hc hm hmem hv

theorem serializes_alias_named {name : String} {d : TypeDecl} {v : Value}
    (hd : m.lookup name = some d) (ha : policy.IsAlias d) :
    policy.Serializes m (.named name) v ↔ policy.Serializes m d.type v := by
  constructor
  · intro h
    cases h with
    | declared hd' hs' _ =>
      obtain rfl := HostModule.lookup_inj hd hd'
      exact absurd ⟨_, hs'⟩ ha.1
    | enum hd' _ hc _ _ _ =>
      obtain rfl := HostModule.lookup_inj hd hd'
      rw [ha.2] at hc
      exact absurd hc (by simp)
    | shape hd' _ h =>
      obtain rfl := HostModule.lookup_inj hd hd'
      exact h
  · exact .shape hd ha

/-! ## Section 2: Agreement of one layer -/

/-- On values below the bound, the node describes what the type is serialized to. -/
def Agrees (policy : ExtractPolicy) (m : HostModule) (graph : List TypeNode) (bound : Nat)
    (t : HostType) (n : TypeNode) : Prop :=
  ∀ v : Value, sizeOf v < bound → (Conforms graph n v ↔ policy.Serializes m t v)

variable {graph : List TypeNode} {bound : Nat}

/-- A primitive describes the values of its kind. -/
theorem conforms_primitive {name : String} (hp : name ∈ primitiveNames) {v : Value} :
    Conforms graph (.simple name) v ↔ v.kind = name := by
  constructor
  · intro h
    cases h with
    | primitive _ h => exact h
    | named hn _ _ _ => exact absurd hp hn
  · exact .primitive hp

theorem agrees_leaf {t : HostType} {site : String} {n : TypeNode} (h : leaf site t = .ok n) :
    policy.Agrees m graph bound t n := by
  intro v _
  cases t with
  -- A leaf is written as a primitive, and conforming to it is to be of its kind.
  | bool =>
    cases h
    rw [TypeNode.boolean, conforms_primitive (by simp [primitiveNames])]
    constructor
    · intro hk
      cases v <;> first | exact .bool | exact absurd hk (by simp [Value.kind])
    · intro hs
      cases hs
      rfl
  | int bits unsigned =>
    cases h
    rw [TypeNode.number, conforms_primitive (by simp [primitiveNames])]
    constructor
    · exact .int
    · intro hs
      cases hs with
      | int h => exact h
  | float bits =>
    cases h
    rw [TypeNode.number, conforms_primitive (by simp [primitiveNames])]
    constructor
    · exact .float
    · intro hs
      cases hs with
      | float h => exact h
  | string =>
    cases h
    rw [TypeNode.string, conforms_primitive (by simp [primitiveNames])]
    constructor
    · intro hk
      cases v <;> first | exact .string | exact absurd hk (by simp [Value.kind])
    · intro hs
      cases hs
      rfl
  | _ => exact absurd h (by simp [leaf])

/-- Arrays agree when their elements do. -/
theorem conforms_array_iff {elem : HostType} {n : TypeNode}
    (h : policy.Agrees m graph bound elem n) {v : Value} (hv : sizeOf v < bound) :
    Conforms graph (.array [n]) v ↔
      ∃ items, v = .array items ∧ ∀ w ∈ items, policy.Serializes m elem w := by
  have hitem : ∀ {items}, v = .array items → ∀ w ∈ items, sizeOf w < bound :=
    fun heq w hw => Nat.lt_trans (heq ▸ sizeOf_item_lt hw) hv
  constructor
  · intro hc
    cases hc with
    | array hitems => exact ⟨_, rfl, fun w hw => (h w (hitem rfl w hw)).mp (hitems w hw)⟩
  · rintro ⟨items, rfl, hitems⟩
    exact .array fun w hw => (h w (hitem rfl w hw)).mpr (hitems w hw)

/-- Maps agree when their values do. -/
theorem agrees_map {key value : HostType} {k n : TypeNode}
    (h : policy.Agrees m graph bound value n) :
    policy.Agrees m graph bound (.map key value) (.map [k, n]) := by
  intro v hv
  have hentry : ∀ {entries}, v = .object entries → ∀ e ∈ entries, sizeOf e.2 < bound :=
    fun heq e he => Nat.lt_trans (heq ▸ sizeOf_entry_lt he) hv
  constructor
  · intro hc
    cases hc with
    | map hentries => exact .map fun e he => (h e.2 (hentry rfl e he)).mp (hentries e he)
  · intro hs
    cases hs with
    | map hentries => exact .map fun e he => (h e.2 (hentry rfl e he)).mpr (hentries e he)

/-- A struct and an interface agree on a value when the fields and their nodes agree on smaller
    ones. -/
theorem conforms_struct_iff {fields : List HostField} {ns : List TypeNode} {v : Value}
    (hlen : (visibleFields fields).length = ns.length)
    (h : ∀ f n, (f, n) ∈ (visibleFields fields).zip ns →
      policy.Agrees m graph (sizeOf v) f.type n)
    (name : String) (comment : Option String) :
    Conforms graph (.interface name comment (policy.arrange (fieldMembers fields ns))) v ↔
      policy.Serializes m (.struct fields) v := by
  -- Both sides ask the same three things, the one of members and the other of the fields that the
  -- members are made of.
  constructor
  · intro hc
    cases hc with
    | interface hkeys hpresent habsent =>
      refine .struct ?_ ?_ ?_
      · intro e he
        obtain ⟨mem, hmem, _, hname⟩ := hkeys e he
        obtain ⟨f, n, hzip, rfl⟩ := mem_arrange_fieldMembers.mp hmem
        exact ⟨f, (List.of_mem_zip hzip).1, hname⟩
      · intro f hf w hw
        obtain ⟨n, hzip⟩ := exists_mem_zip hlen hf
        have hmem : f.property n ∈ policy.arrange (fieldMembers fields ns) :=
          mem_arrange_fieldMembers.mpr ⟨f, n, hzip, rfl⟩
        exact (h f n hzip w (sizeOf_lookup_lt hw)).mp (hpresent _ hmem rfl w hw)
      · intro f hf hw
        obtain ⟨n, hzip⟩ := exists_mem_zip hlen hf
        have hmem : f.property n ∈ policy.arrange (fieldMembers fields ns) :=
          mem_arrange_fieldMembers.mpr ⟨f, n, hzip, rfl⟩
        exact habsent _ hmem rfl hw
  · intro hs
    cases hs with
    | struct hkeys hpresent habsent =>
      refine .interface ?_ ?_ ?_
      · intro e he
        obtain ⟨f, hf, hname⟩ := hkeys e he
        obtain ⟨n, hzip⟩ := exists_mem_zip hlen hf
        exact ⟨_, mem_arrange_fieldMembers.mpr ⟨f, n, hzip, rfl⟩, rfl, hname⟩
      · intro mem hmem _ w hw
        obtain ⟨f, n, hzip, rfl⟩ := mem_arrange_fieldMembers.mp hmem
        exact (h f n hzip w (sizeOf_lookup_lt hw)).mpr
          (hpresent f (List.of_mem_zip hzip).1 w hw)
      · intro mem hmem _ hw
        obtain ⟨f, n, hzip, rfl⟩ := mem_arrange_fieldMembers.mp hmem
        exact habsent f (List.of_mem_zip hzip).1 hw

/-- An enumeration describes what the literals of its members denote. -/
theorem conforms_enumOf {d : TypeDecl} {members : List EnumMember} {v : Value} :
    Conforms graph (policy.enumOf d members) v ↔
      ∃ member ∈ members, Value.parse member.value = some v := by
  have hmem : ∀ {member}, member ∈ policy.sort.sortBy (·.name) members ↔ member ∈ members :=
    (policy.sort.sortBy_perm _ members).mem_iff
  constructor
  · intro h
    cases h with
    | enum hm hread => exact ⟨_, hmem.mp hm, hread⟩
  · rintro ⟨member, hm, hv⟩
    exact .enum (hmem.mpr hm) hv

/-! ## Section 3: Agreement of whole graphs -/

/-- A graph whose nodes are those of what their names are given to under the root. -/
structure Keeps (policy : ExtractPolicy) (m : HostModule) (root : TypeDecl)
    (graph : List TypeNode) : Prop where
  apart : policy.Apart m root
  /-- No name is taken for a primitive. -/
  free : ∀ k t, policy.Gives m root k t → k ∉ primitiveNames
  isDeclaration : ∀ node ∈ graph, node.IsDeclaration
  closed : ∀ node ∈ graph, node.Closed fun k => ∃ n ∈ graph, n.name = k
  faithful : ∀ node ∈ graph, ∃ t, policy.Gives m root node.name t ∧ policy.NodeOf m t node

variable {root : TypeDecl}

/-- A given name stands for the node of what it is given to. -/
theorem Keeps.conforms_iff (hg : policy.Keeps m root graph) {k : String} {t : HostType}
    (hgives : policy.Gives m root k t)
    (hk : (TypeNode.simple k).Closed fun k => ∃ n ∈ graph, n.name = k) :
    ∃ node ∈ graph, policy.NodeOf m t node ∧
      ∀ v, Conforms graph (.simple k) v ↔ Conforms graph node v := by
  have hp := hg.free k t hgives
  have hnamed : ∃ n ∈ graph, n.name = k := by
    cases hk with
    | primitive h => exact absurd h hp
    | simple h => exact h
  obtain ⟨node, hfind, hmem, hnode⟩ := find?_of_name hnamed
  -- The node found was written for some type of this name, and there is only one.
  obtain ⟨t', hgives', hof⟩ := hg.faithful node hmem
  rw [hnode] at hgives'
  obtain rfl := hg.apart k t t' hgives hgives'
  refine ⟨node, hmem, hof, ?_⟩
  intro v
  constructor
  · intro h
    cases h with
    | primitive hin _ => exact absurd hin hp
    | named _ hfind' _ h =>
      rw [hfind] at hfind'
      cases hfind'
      exact h
  · exact .named hp hfind (hg.isDeclaration node hmem)

/-- The nodes of the fields of a closed interface are closed. -/
theorem closed_of_zip {K : String → Prop} {fields : List HostField} {ns : List TypeNode}
    {name : String} {comment : Option String}
    (h : TypeNode.Closed K (.interface name comment (policy.arrange (fieldMembers fields ns))))
    {f : HostField} {n : TypeNode} (hzip : (f, n) ∈ (visibleFields fields).zip ns) :
    n.Closed K := by
  cases h with
  | interface h _ => exact h _ (mem_arrange_fieldMembers.mpr ⟨f, n, hzip, rfl⟩)

/-- A node that takes the place of a type agrees with it. -/
theorem Writes.agrees (hfollow : policy.followStructs = true)
    (hg : policy.Keeps m root graph) (bound : Nat) :
    ∀ {field : Option HostField} {t : HostType} {n : TypeNode}, policy.Writes m field t n →
      policy.Stands m root field t →
      (n.Closed fun k => ∃ n ∈ graph, n.name = k) → policy.Agrees m graph bound t n := by
  induction bound using Nat.strongRecOn with
  | _ bound ih =>
  -- Behind a name the fields of a declaration are compared on smaller values.
  have hfields : ∀ {fields : List HostField} {ns : List TypeNode} {name : String}
      {comment : Option String},
      policy.WritesFields m fields ns →
      (∀ f ∈ visibleFields fields, policy.Stands m root (some f) f.type) →
      (.interface name comment (policy.arrange (fieldMembers fields ns)) : TypeNode) ∈ graph →
      policy.Agrees m graph bound (.struct fields)
        (.interface name comment (policy.arrange (fieldMembers fields ns))) := by
    rintro fields ns name comment ⟨hlen, hns⟩ hstands hmem v hv
    refine conforms_struct_iff hlen ?_ name comment
    intro f n hzip
    exact ih (sizeOf v) hv (hns f n hzip) (hstands f (List.of_mem_zip hzip).1)
      (closed_of_zip (hg.closed _ hmem) hzip)
  -- For values of one size it is an induction on how the node has been written.
  intro field t n hw
  induction hw with
  | leaf h => exact fun _ _ => agrees_leaf h
  | @slice _ elem n _ ihn =>
    intro hstands hclosed v hv
    have hn : policy.Agrees m graph bound elem n := by
      cases hclosed with
      | array hclosed => exact ihn hstands.slice hclosed
    rw [conforms_array_iff hn hv]
    constructor
    · rintro ⟨items, rfl, hitems⟩
      exact .slice hitems
    · intro hs
      cases hs with
      | slice hitems => exact ⟨_, rfl, hitems⟩
  | @array _ len elem n _ ihn =>
    intro hstands hclosed v hv
    have hn : policy.Agrees m graph bound elem n := by
      cases hclosed with
      | array hclosed => exact ihn hstands.array hclosed
    rw [conforms_array_iff hn hv]
    constructor
    · rintro ⟨items, rfl, hitems⟩
      exact .array hitems
    · intro hs
      cases hs with
      | array hitems => exact ⟨_, rfl, hitems⟩
  | map _ _ _ ihv =>
    intro hstands hclosed
    cases hclosed with
    | map _ hclosed => exact agrees_map (ihv hstands.value hclosed)
  | pointer _ ihn =>
    intro hstands hclosed v hv
    rw [ihn hstands.pointer hclosed v hv]
    constructor
    · exact .pointer
    · intro hs
      cases hs with
      | pointer hs => exact hs
  | inline _ hlen _ ihns =>
    intro hstands hclosed v hv
    refine conforms_struct_iff hlen ?_ _ _
    intro f n hzip w hlt
    exact ihns f n hzip (hstands.struct (List.of_mem_zip hzip).1) (closed_of_zip hclosed hzip) w
      (Nat.lt_trans hlt hv)
  | promoted hn =>
    intro hstands hclosed v hv
    -- The node is a name, and what it is written for stands in the graph.
    obtain ⟨node, hmem, hof, hiff⟩ := hg.conforms_iff (.anonymous hstands hn) hclosed
    rw [hiff]
    cases hof with
    | anonymous hns => exact hfields hns (fun f hf => hstands.struct hf) hmem v hv
  | embedded hd hs _ hlen _ ihns =>
    intro hstands hclosed v hv
    rw [serializes_struct_named hd hs]
    refine conforms_struct_iff hlen ?_ _ _
    intro f n hzip w hlt
    exact ihns f n hzip (hstands.declared hfollow hd hs (List.of_mem_zip hzip).1)
      (closed_of_zip hclosed hzip) w (Nat.lt_trans hlt hv)
  | struct hd hs he =>
    intro hstands hclosed v hv
    obtain ⟨node, hmem, hof, hiff⟩ := hg.conforms_iff (.struct hstands hd hs he) hclosed
    rw [hiff]
    cases hof with
    | struct hd' hs' hns =>
      obtain rfl := HostModule.lookup_inj hd hd'
      rw [serializes_struct_named hd hs']
      exact hfields hns (fun f hf => hstands.declared hfollow hd hs' hf) hmem v hv
    | enum hd' hns _ _ =>
      obtain rfl := HostModule.lookup_inj hd hd'
      exact absurd hs hns
  | enum hd he =>
    intro hstands hclosed v _
    obtain ⟨node, hmem, hof, hiff⟩ := hg.conforms_iff (.enum hstands hd he) hclosed
    rw [hiff]
    cases hof with
    | struct hd' hs' _ =>
      obtain rfl := HostModule.lookup_inj hd hd'
      exact absurd ⟨_, hs'⟩ he.1
    | enum hd' hns hc hm =>
      obtain rfl := HostModule.lookup_inj hd hd'
      rw [serializes_enum_named hd hns hc hm, conforms_enumOf]
  | shape hd ha _ ihn =>
    intro hstands hclosed v hv
    rw [serializes_alias_named hd ha]
    exact ihn (hstands.shape hd ha) hclosed v hv

/-- The graph of a walk from a struct has the nodes of what its names are given to. -/
theorem RootWalk.keeps (hfollow : policy.followStructs = true) {type : HostType}
    (w : policy.RootWalk m type) (hs : w.decl.IsStruct) (hapart : policy.Apart m w.decl)
    (hfree : ∀ k t, policy.Gives m w.decl k t → k ∉ primitiveNames) :
    policy.Keeps m w.decl (policy.sort.sortBy TypeNode.name w.found.nodes) where
  apart := hapart
  free := hfree
  isDeclaration node hnode := w.isDeclaration node ((mem_graph_iff w node).mp hnode)
  closed node hnode := by
    refine (w.closed hfollow node ((mem_graph_iff w node).mp hnode)).imp ?_
    intro k hk
    obtain ⟨n, hn, hname⟩ := List.mem_map.mp hk
    exact ⟨n, (mem_graph_iff w n).mpr hn, hname⟩
  faithful node hnode := w.faithful hs node ((mem_graph_iff w node).mp hnode)

/-- The graph of a walk from a struct describes exactly what the struct is serialized to, when its
    target names are distinct and none is the name of a primitive. -/
theorem checkInstance_iff_serializes (hfollow : policy.followStructs = true) {type : HostType}
    {d : TypeDecl} (htype : type.deref = .named d.name) (hd : m.lookup d.name = some d)
    (hs : d.IsStruct) (hapart : policy.Apart m d)
    (hfree : ∀ k t, policy.Gives m d k t → k ∉ primitiveNames) {graph : List TypeNode}
    (h : extract m type policy = .ok graph) (v : Value) :
    checkInstance graph (policy.typeNamer d) v = .ok () ↔
      policy.Serializes m (.named d.name) v := by
  obtain ⟨w, rfl⟩ := extract_eq_ok h
  obtain rfl : w.decl = d := w.decl_eq htype hd
  have hg := w.keeps hfollow hs hapart hfree
  have hname : (TypeNode.simple (policy.typeNamer w.decl)).Closed fun k =>
      ∃ n ∈ policy.sort.sortBy TypeNode.name w.found.nodes, n.name = k := by
    obtain ⟨n, hn, hname⟩ := List.mem_map.mp w.typeNamer_mem_names
    exact .simple ⟨n, (mem_graph_iff w n).mpr hn, hname⟩
  obtain ⟨node, hmem, hof, hiff⟩ := hg.conforms_iff .root hname
  unfold checkInstance
  rw [check_eq_ok_iff, hiff]
  -- The root is a struct, so its node is the interface made of its fields.
  cases hof with
  | enum hd' hns _ _ =>
    obtain rfl := HostModule.lookup_inj hd hd'
    exact absurd hs hns
  | @struct _ e fields ns hd' hfields hns =>
    obtain rfl := HostModule.lookup_inj hd hd'
    rw [serializes_struct_named hd hfields]
    refine conforms_struct_iff hns.1 ?_ _ _
    intro f n hzip
    have hf : f ∈ visibleFields fields := (List.of_mem_zip hzip).1
    have hstands : policy.Stands m w.decl f.position.field f.position.type := by
      refine .root ?_
      rw [HostModule.rootPositions, hfields]
      exact List.mem_map_of_mem hf
    exact (hns.2 f n hzip).agrees hfollow hg (sizeOf v) hstands
      (closed_of_zip (hg.closed _ hmem) hzip)

/-! ## Section 4: A list and a shadowed primitive -/

/-- The start of a list: a value and, unless it is the last one, the next item. -/
def itemFields : List HostField :=
  [⟨"Value", .string, none⟩, ⟨"Next", .pointer (.named "Item"), some ",omitempty"⟩]

def itemModule : HostModule where
  types := [⟨"Item", .struct itemFields, none, none⟩]

def itemGraph : List TypeNode :=
  [.interface "Item" none [.property "Value" .string,
    { Member.property "Next" (.simple "Item") with optional := true }]]

def itemValue : Value :=
  .object [("Next", .object [("Value", .string "b")]), ("Value", .string "a")]

theorem lookup_itemModule {name : String} {d : TypeDecl} (h : itemModule.lookup name = some d) :
    name = "Item" ∧ d = ⟨"Item", .struct itemFields, none, none⟩ := by
  have hmem := HostModule.mem_of_lookup h
  obtain rfl := List.mem_singleton.mp hmem
  exact ⟨(HostModule.name_of_lookup h).symm, rfl⟩

/-- The list is the only thing that gets a name. -/
theorem gives_item {k : String} {t : HostType}
    (h : following.Gives itemModule ⟨"Item", .struct itemFields, none, none⟩ k t) :
    k = "Item" ∧ t = .named "Item" := by
  cases h with
  | root => exact ⟨rfl, rfl⟩
  | struct _ hd _ _ =>
    obtain ⟨_, rfl⟩ := lookup_itemModule hd
    exact ⟨rfl, rfl⟩
  | enum _ hd _ =>
    obtain ⟨_, rfl⟩ := lookup_itemModule hd
    exact ⟨rfl, rfl⟩
  | anonymous _ hn => exact absurd hn (by simp [following])

theorem itemGraph_exact :
    extract itemModule (.named "Item") following = .ok itemGraph ∧
      following.Apart itemModule ⟨"Item", .struct itemFields, none, none⟩ ∧
      (checkInstance itemGraph "Item" itemValue = .ok () ↔
        following.Serializes itemModule (.named "Item") itemValue) := by
  have h : extract itemModule (.named "Item") following = .ok itemGraph := by cbv
  have hapart : following.Apart itemModule ⟨"Item", .struct itemFields, none, none⟩ := by
    intro k t t' hk hk'
    rw [(gives_item hk).2, (gives_item hk').2]
  have hfree : ∀ k t, following.Gives itemModule ⟨"Item", .struct itemFields, none, none⟩ k t →
      k ∉ primitiveNames := by
    intro k t hk
    rw [(gives_item hk).1]
    decide
  exact ⟨h, hapart, checkInstance_iff_serializes rfl rfl rfl ⟨_, rfl⟩ hapart hfree h itemValue⟩

/-- A struct that goes by the name of a primitive. -/
def shadowModule : HostModule where
  types := [⟨"string", .struct [], none, none⟩]

/-- Distinct names are not enough: the check takes the name of a primitive for the primitive. -/
theorem shadowed_primitive :
    extract shadowModule (.named "string") following = .ok [.interface "string" none []] ∧
      following.Apart shadowModule ⟨"string", .struct [], none, none⟩ ∧
      following.Serializes shadowModule (.named "string") (.object []) ∧
      checkInstance [.interface "string" none []] "string" (.object []) ≠ .ok () := by
  -- The struct has no fields, so the root is all that the walk meets.
  have hstands : ∀ field t,
      ¬ following.Stands shadowModule ⟨"string", .struct [], none, none⟩ field t := by
    intro field t h
    induction h with
    | root hp => exact absurd hp (by simp [HostModule.rootPositions, HostType.deref,
        visiblePositions, visibleFields])
    | _ => assumption
  have hgives : ∀ {k t}, following.Gives shadowModule ⟨"string", .struct [], none, none⟩ k t →
      t = .named "string" := by
    intro k t h
    cases h with
    | root => rfl
    | struct h => exact absurd h (hstands _ _)
    | enum h => exact absurd h (hstands _ _)
    | anonymous h => exact absurd h (hstands _ _)
  refine ⟨by cbv, ?_, ?_, ?_⟩
  · intro k t t' hk hk'
    rw [hgives hk, hgives hk']
  · exact .declared rfl rfl (.struct (by simp) (by simp [visibleFields]) (by simp [visibleFields]))
  · intro h
    -- The check takes the name for the primitive type, and an object is no text.
    rw [checkInstance, check_eq_ok_iff, conforms_primitive (by decide)] at h
    exact absurd h (by decide)

end ExtractPolicy

end TypeExport
