import TypeExport.Proofs.Walk.Order

/-! # Unfolding References to Structs

    Where one policy refers to a struct by its name, another one that is the same in all else embeds
    the struct.  A node becomes its unfolded form when each reference to a struct in it is replaced
    by an unnamed interface with the comment and the unfolded members of the struct's own node.

    `Unfolds` goes by the types that nodes are written for.  The names alone do not tell what has to
    be replaced, as a struct may go by the name of a primitive.  That nodes written under both
    policies are related by unfolding follows from what each of them is written for. -/

namespace TypeExport

namespace ExtractPolicy

/-- The policy that follows structs and refers to them by their names, and is the same in all
    else. -/
def referring (policy : ExtractPolicy) : ExtractPolicy :=
  { policy with embedStructs := false, followStructs := true, follow_of_embed := fun _ => rfl }

@[simp] theorem referring_arrange (policy : ExtractPolicy) (members : List Member) :
    policy.referring.arrange members = policy.arrange members := rfl

@[simp] theorem referring_anonNamer (policy : ExtractPolicy) :
    policy.referring.anonNamer = policy.anonNamer := rfl

@[simp] theorem referring_interfaceOf (policy : ExtractPolicy) (d : TypeDecl)
    (members : List Member) :
    policy.referring.interfaceOf d members = policy.interfaceOf d members := rfl

variable (policy : ExtractPolicy) (m : HostModule) (graph : List TypeNode)

/-! ## Section 1: Unfolded nodes -/

mutual

/-- The node, written for the type in the field or in no field, becomes the second node when
    references to structs are replaced by what is in `graph`. -/
inductive Unfolds : Option HostField → HostType → TypeNode → TypeNode → Prop
  | leaf {field t site n} (h : leaf site t = .ok n) : Unfolds field t n n
  | slice {field elem n n'} (h : Unfolds none elem n n') :
    Unfolds field (.slice elem) (.array [n]) (.array [n'])
  | array {field len elem n n'} (h : Unfolds none elem n n') :
    Unfolds field (.array len elem) (.array [n]) (.array [n'])
  | map {field key value k k' v v'} (hk : Unfolds none key k k') (hv : Unfolds none value v v') :
    Unfolds field (.map key value) (.map [k, v]) (.map [k', v'])
  | pointer {field elem n n'} (h : Unfolds field elem n n') : Unfolds field (.pointer elem) n n'
  | inline {field fields comment members members'} (hf : policy.anonNamer = none ∨ field = none)
    (h : UnfoldsFields (visibleFields fields) members members') :
    Unfolds field (.struct fields) (.interface "" comment members) (.interface "" comment members')
  | promoted {f fields k} (hn : policy.anonNamer ≠ none) :
    Unfolds (some f) (.struct fields) (.simple k) (.simple k)
  /-- A reference to a struct is replaced, and the node of its name says by what. -/
  | struct {field name d fields k comment members members'} (hd : m.lookup name = some d)
    (hs : d.type.deref = .struct fields) (hnode : .interface k comment members ∈ graph)
    (h : UnfoldsFields (visibleFields fields) members members') :
    Unfolds field (.named name) (.simple k) (.interface "" comment members')
  | enum {field name d k} (hd : m.lookup name = some d) (he : policy.IsEnum d) :
    Unfolds field (.named name) (.simple k) (.simple k)
  | shape {field name d n n'} (hd : m.lookup name = some d) (ha : policy.IsAlias d)
    (h : Unfolds none d.type n n') : Unfolds field (.named name) n n'

/-- The properties become the second ones: their types are unfolded and all else stays. -/
inductive UnfoldsFields : List HostField → List Member → List Member → Prop
  | nil : UnfoldsFields [] [] []
  | cons {f fields member type members members'} (h : Unfolds (some f) f.type member.type type)
    (hs : UnfoldsFields fields members members') :
    UnfoldsFields (f :: fields) (member :: members) ({ member with type } :: members')

end

inductive UnfoldsResult : Option HostType → TypeNode → TypeNode → Prop
  | nothing {n} : UnfoldsResult none n n
  | type {t n n'} (h : policy.Unfolds m graph none t n n') : UnfoldsResult (some t) n n'

inductive UnfoldsArgs : List HostParam → List Arg → List Arg → Prop
  | nil : UnfoldsArgs [] [] []
  | cons {param params arg type args args'}
    (h : policy.Unfolds m graph none param.type arg.type type)
    (hs : UnfoldsArgs params args args') :
    UnfoldsArgs (param :: params) (arg :: args) ({ arg with type } :: args')

inductive UnfoldsMethods : List HostMethod → List Member → List Member → Prop
  | nil : UnfoldsMethods [] [] []
  | cons {method methods member type args members members'}
    (h : policy.UnfoldsResult m graph (m.result? method) member.type type)
    (hargs : policy.UnfoldsArgs m graph method.signature.params member.args args)
    (hs : UnfoldsMethods methods members members') :
    UnfoldsMethods (method :: methods) (member :: members)
      ({ member with type, args } :: members')

/-- The node that declares the type becomes the second node. -/
inductive UnfoldsNode : HostType → TypeNode → TypeNode → Prop
  | struct {name d fields k comment members members'} (hd : m.lookup name = some d)
    (hs : d.type.deref = .struct fields)
    (h : policy.UnfoldsFields m graph (visibleFields fields) members members') :
    UnfoldsNode (.named name) (.interface k comment members) (.interface k comment members')
  | interface {name d methods k comment members members'} (hd : m.lookup name = some d)
    (hi : d.type.deref = .interface methods)
    (h : policy.UnfoldsMethods m graph methods members members') :
    UnfoldsNode (.named name) (.interface k comment members) (.interface k comment members')
  | anonymous {fields k comment members members'}
    (h : policy.UnfoldsFields m graph (visibleFields fields) members members') :
    UnfoldsNode (.struct fields) (.interface k comment members) (.interface k comment members')
  | enum {name d k comment members} (hd : m.lookup name = some d) (he : policy.IsEnum d) :
    UnfoldsNode (.named name) (.enum k comment members) (.enum k comment members)

variable {policy : ExtractPolicy} {m : HostModule} {graph : List TypeNode}

/-! ## Section 2: There is one unfolded form -/

mutual

/-- In a graph with different names a node has one unfolded form. -/
theorem Unfolds.unique (hnodup : (graph.map TypeNode.name).Nodup) {field : Option HostField}
    {t : HostType} {n a b : TypeNode} :
    policy.Unfolds m graph field t n a → policy.Unfolds m graph field t n b → a = b
  | .leaf h, hb => by
    cases hb with
    | leaf => rfl
    | _ => cases h
  | .slice h, hb => by
    cases hb with
    | leaf h => cases h
    | slice hb => rw [h.unique hnodup hb]
  | .array h, hb => by
    cases hb with
    | leaf h => cases h
    | array hb => rw [h.unique hnodup hb]
  | .map hk hv, hb => by
    cases hb with
    | leaf h => cases h
    | map hk' hv' => rw [hk.unique hnodup hk', hv.unique hnodup hv']
  | .pointer h, hb => by
    cases hb with
    | leaf h => cases h
    | pointer hb => exact h.unique hnodup hb
  | .inline _ h, hb => by
    cases hb with
    | leaf h => cases h
    | inline _ hb => rw [h.unique hnodup hb]
  | .promoted _, hb => by
    cases hb with
    | leaf h => cases h
    | promoted _ => rfl
  | .struct hd hs hnode h, hb => by
    cases hb with
    | leaf h => cases h
    | struct hd' hs' hnode' hb =>
      -- The declaration is found by its name, and so is its node.
      obtain rfl := HostModule.lookup_inj hd hd'
      obtain rfl := HostType.struct.inj (hs.symm.trans hs')
      have hnodes := List.inj_on_of_nodup_map hnodup hnode hnode' rfl
      obtain ⟨-, rfl, rfl⟩ := TypeNode.interface.inj hnodes
      rw [h.unique hnodup hb]
    | enum hd' he =>
      obtain rfl := HostModule.lookup_inj hd hd'
      exact absurd ⟨_, hs⟩ he.1
    | shape hd' ha _ =>
      obtain rfl := HostModule.lookup_inj hd hd'
      exact absurd ⟨_, hs⟩ ha.1
  | .enum hd he, hb => by
    cases hb with
    | leaf h => cases h
    | struct hd' hs _ _ =>
      obtain rfl := HostModule.lookup_inj hd hd'
      exact absurd ⟨_, hs⟩ he.1
    | enum => rfl
    | shape hd' ha _ =>
      obtain rfl := HostModule.lookup_inj hd hd'
      exact absurd (.inr he) (policy.not_isDeclarable_of_isAlias ha)
  | .shape hd ha h, hb => by
    cases hb with
    | leaf h => cases h
    | struct hd' hs _ _ =>
      obtain rfl := HostModule.lookup_inj hd hd'
      exact absurd ⟨_, hs⟩ ha.1
    | enum hd' he =>
      obtain rfl := HostModule.lookup_inj hd hd'
      exact absurd (.inr he) (policy.not_isDeclarable_of_isAlias ha)
    | shape hd' _ hb =>
      obtain rfl := HostModule.lookup_inj hd hd'
      exact h.unique hnodup hb

theorem UnfoldsFields.unique (hnodup : (graph.map TypeNode.name).Nodup) {fields : List HostField}
    {members a b : List Member} : policy.UnfoldsFields m graph fields members a →
      policy.UnfoldsFields m graph fields members b → a = b
  | .nil, hb => by
    cases hb
    rfl
  | .cons h hs, hb => by
    cases hb with
    | cons hb hbs => rw [h.unique hnodup hb, hs.unique hnodup hbs]

end

theorem UnfoldsResult.unique (hnodup : (graph.map TypeNode.name).Nodup) {result : Option HostType}
    {n a b : TypeNode} (ha : policy.UnfoldsResult m graph result n a)
    (hb : policy.UnfoldsResult m graph result n b) : a = b := by
  cases ha with
  | nothing => cases hb; rfl
  | type ha =>
    cases hb with
    | type hb => exact ha.unique hnodup hb

theorem UnfoldsArgs.unique (hnodup : (graph.map TypeNode.name).Nodup) {params : List HostParam}
    {args a b : List Arg} (ha : policy.UnfoldsArgs m graph params args a)
    (hb : policy.UnfoldsArgs m graph params args b) : a = b := by
  induction ha generalizing b with
  | nil => cases hb; rfl
  | cons h _ ih =>
    cases hb with
    | cons hb hbs => rw [h.unique hnodup hb, ih hbs]

theorem UnfoldsMethods.unique (hnodup : (graph.map TypeNode.name).Nodup)
    {methods : List HostMethod} {members a b : List Member}
    (ha : policy.UnfoldsMethods m graph methods members a)
    (hb : policy.UnfoldsMethods m graph methods members b) : a = b := by
  induction ha generalizing b with
  | nil => cases hb; rfl
  | cons h hargs _ ih =>
    cases hb with
    | cons hb hbargs hbs => rw [h.unique hnodup hb, hargs.unique hnodup hbargs, ih hbs]

theorem UnfoldsNode.unique (hnodup : (graph.map TypeNode.name).Nodup) {t : HostType}
    {n a b : TypeNode} (ha : policy.UnfoldsNode m graph t n a)
    (hb : policy.UnfoldsNode m graph t n b) : a = b := by
  cases ha with
  | struct hd hs h =>
    cases hb with
    | struct hd' hs' hb =>
      obtain rfl := HostModule.lookup_inj hd hd'
      obtain rfl := HostType.struct.inj (hs.symm.trans hs')
      rw [h.unique hnodup hb]
    -- A declaration has one shape, so the rules do not mix.
    | interface hd' hi _ =>
      obtain rfl := HostModule.lookup_inj hd hd'
      exact absurd (hs.symm.trans hi) (by simp)
  | interface hd hi h =>
    cases hb with
    | struct hd' hs _ =>
      obtain rfl := HostModule.lookup_inj hd hd'
      exact absurd (hs.symm.trans hi) (by simp)
    | interface hd' hi' hb =>
      obtain rfl := HostModule.lookup_inj hd hd'
      obtain rfl := HostType.interface.inj (hi.symm.trans hi')
      rw [h.unique hnodup hb]
  | anonymous h =>
    cases hb with
    | anonymous hb => rw [h.unique hnodup hb]
  | enum => cases hb; rfl

/-! ## Section 3: Nodes written under both policies -/

variable {root : TypeDecl} {s : Progress}

/-- Both policies come to the same places. -/
theorem Stands.referring {field : Option HostField} {t : HostType}
    (h : policy.Stands m root field t) : policy.referring.Stands m root field t := by
  induction h with
  | root hp => exact .root hp
  | slice _ ih => exact ih.slice
  | array _ ih => exact ih.array
  | key _ ih => exact ih.key
  | value _ ih => exact ih.value
  | pointer _ ih => exact ih.pointer
  | struct _ hf ih => exact ih.struct hf
  | declared _ _ hd hs hf ih => exact ih.declared rfl hd hs hf
  | shape _ hd ha ih => exact ih.shape hd ha

theorem Gives.referring {k : String} {t : HostType} (h : policy.Gives m root k t) :
    policy.referring.Gives m root k t := by
  cases h with
  | root => exact .root
  | struct h hd hs _ => exact .struct h.referring hd hs rfl
  | enum h hd he => exact .enum h.referring hd he
  | anonymous h hn => exact .anonymous h.referring hn

/-- A reference is a name, or it stands for the shape of an alias. -/
theorem Writes.of_named (he : policy.embedStructs = false) {field : Option HostField}
    {d : TypeDecl} {n : TypeNode} (h : policy.Writes m field (.named d.name) n)
    (hd : m.lookup d.name = some d) :
    (policy.IsDeclarable d ∧ n = .simple (policy.typeNamer d)) ∨
      (policy.IsAlias d ∧ policy.Writes m none d.type n) := by
  rcases h.named_cases hd with ⟨hembed, _⟩ | ⟨_, hs, rfl⟩ | ⟨hen, rfl⟩ | ⟨ha, h⟩
  · exact absurd (he.symm.trans hembed) (by simp)
  · exact .inl ⟨.inl hs, rfl⟩
  · exact .inl ⟨.inr hen, rfl⟩
  · exact .inr ⟨ha, h⟩

/-- Whatever the nodes refer to has a node in the graph, and this is what its name is given to. -/
structure Backed (policy : ExtractPolicy) (m : HostModule) (root : TypeDecl) (s : Progress)
    (graph : List TypeNode) : Prop where
  apart : policy.Apart m root
  faithful : policy.Faithful m root s
  closed : ∀ k ∈ s.names, ∀ k', policy.Links m root k k' → k' ∈ s.names
  nodes : s.nodes ⊆ graph

/-- A struct that is referred to has its node. -/
theorem Backed.struct_node (hb : policy.Backed m root s graph) {d : TypeDecl}
    (hd : m.lookup d.name = some d) {fields : List HostField} (hs : d.type.deref = .struct fields)
    (hg : policy.Gives m root (policy.typeNamer d) (.named d.name))
    (hk : policy.typeNamer d ∈ s.names) :
    ∃ ns, policy.WritesFields m fields ns ∧
      policy.interfaceOf d (fieldMembers fields ns) ∈ graph := by
  obtain ⟨node, hnode, hname⟩ := List.mem_map.mp hk
  obtain ⟨t, hgives, hof⟩ := hb.faithful node hnode
  rw [hname] at hgives
  obtain rfl := hb.apart _ _ _ hg hgives
  -- The name is given to the struct alone, so its node is the one that declares it.
  generalize ht : HostType.named d.name = t at hof
  cases hof with
  | struct hd' hs' hns =>
    obtain rfl := HostModule.lookup_inj (HostType.named.inj ht ▸ hd) hd'
    obtain rfl := HostType.struct.inj (hs.symm.trans hs')
    exact ⟨_, hns, hb.nodes hnode⟩
  | enum hd' hns _ _ =>
    obtain rfl := HostModule.lookup_inj (HostType.named.inj ht ▸ hd) hd'
    exact absurd ⟨_, hs⟩ hns
  | anonymous => cases ht

/-- Properties are unfolded when what is written for their fields is. -/
theorem unfoldsFields_of_zip : ∀ {fields : List HostField} {ns ns' : List TypeNode},
    fields.length = ns.length → fields.length = ns'.length →
    (∀ f n n', (f, n) ∈ fields.zip ns → (f, n') ∈ fields.zip ns' →
      policy.Unfolds m graph (some f) f.type n n') →
    policy.UnfoldsFields m graph fields (List.zipWith HostField.property fields ns)
      (List.zipWith HostField.property fields ns')
  | [], [], [], _, _, _ => .nil
  | f :: rest, n :: ns, n' :: ns', h, h', hzip => by
    have hfirst : policy.Unfolds m graph (some f) f.type (f.property n).type n' :=
      hzip f n n' List.mem_cons_self List.mem_cons_self
    refine .cons hfirst (unfoldsFields_of_zip (Nat.succ.inj h) (Nat.succ.inj h') ?_)
    exact fun f n n' hn hn' => hzip f n n' (List.mem_cons_of_mem _ hn) (List.mem_cons_of_mem _ hn')

-- The induction is on how the node has been written with structs embedded.  What it is written
-- for gives the other node, and behind a name the node of the struct.

/-- What is written for a type with structs embedded is the unfolded form of what is written for it
    with references. -/
theorem Writes.unfolds (he : policy.embedStructs = true) (hsort : policy.sort = .discovery)
    (hb : policy.referring.Backed m root s graph) {field : Option HostField} {t : HostType}
    {n' : TypeNode} (hw : policy.Writes m field t n') : ∀ {n : TypeNode},
      policy.referring.Writes m field t n → policy.referring.Stands m root field t →
      (∀ k, policy.referring.Refers m field t k → k ∈ s.names) →
      policy.Unfolds m graph field t n n' := by
  induction hw with
  | leaf h =>
    intro n hn _ _
    cases hn with
    | leaf h' => exact leaf_unique h h' ▸ .leaf h
    | _ => cases h
  | slice _ ih =>
    intro n hn hstands hrefs
    cases hn with
    | leaf h => cases h
    | slice hn => exact .slice (ih hn hstands.slice fun k hr => hrefs k (.slice hr))
  | array _ ih =>
    intro n hn hstands hrefs
    cases hn with
    | leaf h => cases h
    | array hn => exact .array (ih hn hstands.array fun k hr => hrefs k (.array hr))
  | map _ _ ihk ihv =>
    intro n hn hstands hrefs
    cases hn with
    | leaf h => cases h
    | map hk hv =>
      exact .map (ihk hk hstands.key fun k hr => hrefs k (.key hr))
        (ihv hv hstands.value fun k hr => hrefs k (.value hr))
  | pointer _ ih =>
    intro n hn hstands hrefs
    cases hn with
    | leaf h => cases h
    | pointer hn => exact .pointer (ih hn hstands.pointer fun k hr => hrefs k (.pointer hr))
  | @inline field fields ns' hnone hlen' _ ih =>
    intro n hn hstands hrefs
    cases hn with
    | leaf h => cases h
    | inline _ hlen h =>
      rw [referring_arrange, arrange_discovery hsort, arrange_discovery hsort]
      refine .inline hnone (unfoldsFields_of_zip hlen hlen' fun f n n' hn hn' => ?_)
      have hf := (List.of_mem_zip hn).1
      exact ih f n' hn' (h f n hn) (hstands.struct hf) fun k hr => hrefs k (.inline hnone hf hr)
    | promoted hsome => simp [show policy.anonNamer = some _ from hsome] at hnone
  | promoted hsome =>
    intro n hn _ _
    cases hn with
    | leaf h => cases h
    | inline hnone => simp [hsome] at hnone
    | promoted hsome' =>
      obtain rfl := Option.some.inj (hsome.symm.trans hsome')
      exact .promoted (by simp [hsome])
  | @embedded field d fields ns' hd hs _ hlen' _ ih =>
    intro n hn hstands hrefs
    rcases hn.of_named rfl hd with ⟨_, rfl⟩ | ⟨ha, _⟩
    · have hg : policy.referring.Gives m root (policy.typeNamer d) (.named d.name) :=
        .struct hstands hd ⟨_, hs⟩ rfl
      have hk : policy.typeNamer d ∈ s.names := hrefs _ (.declared hd (.inl ⟨_, hs⟩))
      obtain ⟨ns, ⟨hlen, h⟩, hnode⟩ := hb.struct_node hd hs hg hk
      rw [referring_interfaceOf, interfaceOf, arrange_discovery hsort] at hnode
      rw [arrange_discovery hsort]
      refine .struct hd hs hnode (unfoldsFields_of_zip hlen hlen' fun f n n' hn hn' => ?_)
      have hf := (List.of_mem_zip hn).1
      refine ih f n' hn' (h f n hn) (hstands.declared rfl hd hs hf) fun k hr => ?_
      -- What a field refers to the struct refers to.
      have hp : f.position ∈ m.rootPositions d := by
        rw [rootPositions_struct hs]
        exact List.mem_map_of_mem hf
      exact hb.closed _ hk k
        ⟨_, f.position, hg, .declared hd (fun henum => henum.1 ⟨_, hs⟩) hp, hr⟩
    · exact absurd ⟨_, hs⟩ ha.1
  | struct _ _ he' => exact absurd (he.symm.trans he') (by simp)
  | enum hd henum =>
    intro n hn _ _
    rcases hn.of_named rfl hd with ⟨_, rfl⟩ | ⟨ha, _⟩
    · exact .enum hd henum
    · exact absurd (.inr henum) (policy.not_isDeclarable_of_isAlias ha)
  | shape hd ha _ ih =>
    intro n hn hstands hrefs
    rcases hn.of_named rfl hd with ⟨hdecl, _⟩ | ⟨_, hn⟩
    · exact absurd hdecl (policy.not_isDeclarable_of_isAlias ha)
    · exact .shape hd ha (ih hn (hstands.shape hd ha) fun k hr => hrefs k (.shape hd ha hr))

/-! ## Section 4: Methods -/

/-- Parameters are unfolded when what is written for them is. -/
theorem unfoldsArgs_of_zip : ∀ {params : List HostParam} {ns ns' : List TypeNode} (i : Nat),
    params.length = ns.length → params.length = ns'.length →
    (∀ p n n', (p, n) ∈ (params.map (·.type.position)).zip ns →
      (p, n') ∈ (params.map (·.type.position)).zip ns' →
        policy.Unfolds m graph p.field p.type n n') →
    policy.UnfoldsArgs m graph params
      (List.zipWith (fun p node => ⟨policy.argName p.2 p.1, node⟩) (params.zipIdx i) ns)
      (List.zipWith (fun p node => ⟨policy.argName p.2 p.1, node⟩) (params.zipIdx i) ns')
  | [], [], [], _, _, _, _ => .nil
  | param :: _, n :: _, n' :: _, i, h, h', hzip => by
    refine .cons (hzip param.type.position n n' List.mem_cons_self List.mem_cons_self)
      (unfoldsArgs_of_zip (i + 1) (Nat.succ.inj h) (Nat.succ.inj h') fun p n n' hn hn' => ?_)
    exact hzip p n n' (List.mem_cons_of_mem _ hn) (List.mem_cons_of_mem _ hn')

/-- A method is unfolded when what is written for the types it exposes is. -/
theorem IsMethod.unfolds {d : TypeDecl} {method : HostMethod} {methods : List HostMethod}
    {ns ns' : List TypeNode} {member member' : Member} {members members' : List Member}
    (h : policy.IsMethod m d method ns member) (h' : policy.IsMethod m d method ns' member')
    (hlen : (m.exposedPositions method).length = ns.length)
    (hlen' : (m.exposedPositions method).length = ns'.length)
    (hzip : ∀ p n n', (p, n) ∈ (m.exposedPositions method).zip ns →
      (p, n') ∈ (m.exposedPositions method).zip ns' → policy.Unfolds m graph p.field p.type n n')
    (hrest : policy.UnfoldsMethods m graph methods members members') :
    policy.UnfoldsMethods m graph (method :: methods) (member :: members)
      (member' :: members') := by
  unfold IsMethod at h h'
  cases hr : m.result? method with
  -- A method that returns nothing has its parameters alone as places.
  | none =>
    rw [hr] at h h'
    subst h h'
    rw [m.exposedPositions_of_none hr] at hlen hlen' hzip
    rw [List.length_map] at hlen hlen'
    have hresult : policy.UnfoldsResult m graph (m.result? method)
        (policy.methodOf d method .void (policy.argsOf method.signature.params ns)).type .void :=
      hr ▸ .nothing
    exact .cons hresult (unfoldsArgs_of_zip 0 hlen hlen' hzip) hrest
  -- The result is the first place, and the parameters are those behind it.
  | some t =>
    rw [hr] at h h'
    obtain ⟨returns, rest, rfl, rfl⟩ := h
    obtain ⟨returns', rest', rfl, rfl⟩ := h'
    rw [m.exposedPositions_of_some hr] at hlen hlen' hzip
    rw [List.length_cons, List.length_map] at hlen hlen'
    have hresult : policy.UnfoldsResult m graph (m.result? method)
        (policy.methodOf d method returns (policy.argsOf method.signature.params rest)).type
        returns' :=
      hr ▸ .type (hzip t.position returns returns' List.mem_cons_self List.mem_cons_self)
    refine .cons hresult (unfoldsArgs_of_zip 0 (Nat.succ.inj hlen) (Nat.succ.inj hlen')
      fun p n n' hn hn' => ?_) hrest
    exact hzip p n n' (List.mem_cons_of_mem _ hn) (List.mem_cons_of_mem _ hn')

theorem AreMethods.unfolds {d : TypeDecl} {methods : List HostMethod} {ns : List TypeNode}
    {members : List Member} (h : policy.referring.AreMethods m d methods ns members)
    {ns' : List TypeNode} {members' : List Member} (h' : policy.AreMethods m d methods ns' members')
    (hzip : ∀ p n n', (p, n) ∈ (methods.flatMap m.exposedPositions).zip ns →
      (p, n') ∈ (methods.flatMap m.exposedPositions).zip ns' →
        policy.Unfolds m graph p.field p.type n n') :
    policy.UnfoldsMethods m graph methods members members' := by
  induction h generalizing ns' members' with
  | nil =>
    cases h'
    exact .nil
  | cons hlen h _ ih =>
    cases h' with
    | cons hlen' h' hs' =>
      -- The places of the first method and those of the others are taken apart.
      rw [List.flatMap_cons, List.zip_append hlen, List.zip_append hlen'] at hzip
      exact IsMethod.unfolds h h' hlen hlen'
        (fun p n n' hn hn' => hzip p n n' (List.mem_append_left _ hn) (List.mem_append_left _ hn'))
        (ih hs' fun p n n' hn hn' =>
          hzip p n n' (List.mem_append_right _ hn) (List.mem_append_right _ hn'))

/-! ## Section 5: Graphs -/

variable {type : HostType}

/-- On a walk that follows structs all that is referred to has its node. -/
theorem RootWalk.backed (w : policy.RootWalk m type) (hw : policy.Orderly m w.decl) :
    ∃ s, policy.Backed m w.decl s w.found.nodes ∧
      ∀ k ∈ w.found.names, ∀ k', policy.Links m w.decl k k' → k' ∈ s.names := by
  obtain ⟨s, hs, hsub, hclosed⟩ := w.exists_faithful hw
  exact ⟨s, ⟨hw.apart, hs, fun k hk => hclosed k (List.map_subset _ hsub hk), hsub⟩, hclosed⟩

/-- The node of the root is unfolded. -/
theorem RootWalk.unfoldsNode_root (he : policy.embedStructs = true)
    (hsort : policy.sort = .discovery) (w : policy.RootWalk m type)
    (w' : policy.referring.RootWalk m type) (hdecl : w'.decl = w.decl)
    (hapart : policy.referring.Apart m w'.decl) (henum : ¬ policy.IsEnum w'.decl) :
    policy.UnfoldsNode m w'.found.nodes (.named w'.decl.name)
      (policy.interfaceOf w'.decl w'.members) (policy.interfaceOf w'.decl w.members) := by
  obtain ⟨s, hb, hclosed⟩ := w'.backed ⟨rfl, rfl, hapart, henum, w'.lookup_eq⟩
  obtain ⟨hlen, hw⟩ := w.resolves.writes
  obtain ⟨hlen', hw'⟩ := w'.resolves.writes
  have hmembers := w.members_eq
  have hmembers' := w'.members_eq
  rw [← hdecl] at hlen hw hmembers
  -- What is written under the root is unfolded place by place.
  have hzip : ∀ p n n', (p, n) ∈ (m.rootPositions w'.decl).zip w'.nodes →
      (p, n') ∈ (m.rootPositions w'.decl).zip w.nodes →
      policy.Unfolds m w'.found.nodes p.field p.type n n' := by
    intro p n n' hn hn'
    have hp := (List.of_mem_zip hn).1
    refine (hw p n' hn').unfolds he hsort hb (hw' p n hn) (.root hp) fun k hr => ?_
    exact hclosed _ w'.typeNamer_mem_names k ⟨_, p, .root, .declared w'.lookup_eq henum hp, hr⟩
  rw [interfaceOf, interfaceOf, arrange_discovery hsort, arrange_discovery hsort]
  unfold AreRootMembers at hmembers hmembers'
  cases hs : w'.decl.type.deref with
  | struct fields =>
    rw [rootPositions_struct hs] at hlen hlen' hzip
    rw [hs] at hmembers hmembers'
    rw [visiblePositions, List.length_map] at hlen hlen'
    rw [hmembers, hmembers']
    refine .struct w'.lookup_eq hs (unfoldsFields_of_zip hlen' hlen fun f n n' hn hn' => ?_)
    refine hzip f.position n n' ?_ ?_
    all_goals
      rw [visiblePositions, List.zip_map_left]
      exact List.mem_map.mpr ⟨(f, _), by assumption, rfl⟩
  | interface methods =>
    rw [hs] at hmembers hmembers'
    simp only [HostModule.rootPositions, hs] at hzip
    exact .interface w'.lookup_eq hs (AreMethods.unfolds hmembers' hmembers hzip)
  | _ => rw [hs] at hmembers; exact hmembers.elim

/-- Nodes that declare the same enumeration or anonymous struct under both policies are related. -/
theorem NodeOf.unfolds (he : policy.embedStructs = true) (hsort : policy.sort = .discovery)
    (hb : policy.referring.Backed m root s graph) {t : HostType} {n n' : TypeNode}
    (h : policy.referring.NodeOf m t n) (h' : policy.NodeOf m t n') (hname : n.name = n'.name)
    (hstruct : ∀ d, m.lookup d.name = some d → t = .named d.name → ¬ d.IsStruct)
    (hfields : ∀ fields, t = .struct fields → ∀ f ∈ visibleFields fields,
      policy.referring.Stands m root (some f) f.type ∧
        ∀ k, policy.referring.Refers m (some f) f.type k → k ∈ s.names) :
    policy.UnfoldsNode m graph t n n' := by
  cases h with
  | struct hd hs _ =>
    obtain rfl := HostModule.name_of_lookup hd
    exact absurd ⟨_, hs⟩ (hstruct _ hd rfl)
  | enum hd hns hc hm =>
    cases h' with
    | struct hd' hs _ =>
      obtain rfl := HostModule.lookup_inj hd hd'
      exact absurd ⟨_, hs⟩ hns
    | enum hd' _ hc' hm' =>
      obtain rfl := HostModule.lookup_inj hd hd'
      obtain rfl := Option.some.inj (hc.symm.trans hc')
      obtain rfl := Except.ok.inj (hm.symm.trans hm')
      exact .enum hd ⟨hns, by rw [hc']; rfl⟩
  -- The members are unfolded field by field, in the order of the fields.
  | anonymous hns =>
    cases h' with
    | anonymous hns' =>
      obtain rfl : _ = _ := hname
      rw [referring_arrange, arrange_discovery hsort, arrange_discovery hsort]
      refine .anonymous (unfoldsFields_of_zip hns.1 hns'.1 fun f n n' hn hn' => ?_)
      obtain ⟨hstands, hrefs⟩ := hfields _ rfl f (List.of_mem_zip hn).1
      exact (hns'.2 f n' hn').unfolds he hsort hb (hns.2 f n hn) hstands hrefs

/-- The node of a struct has its name. -/
theorem NodeOf.name_eq {d : TypeDecl} {n : TypeNode} (h : policy.NodeOf m (.named d.name) n)
    (hd : m.lookup d.name = some d) (hs : d.IsStruct) : n.name = policy.typeNamer d := by
  generalize ht : HostType.named d.name = t at h
  cases h with
  | struct hd' _ _ =>
    obtain rfl := HostModule.lookup_inj (HostType.named.inj ht ▸ hd) hd'
    rfl
  | enum hd' hns _ _ =>
    obtain rfl := HostModule.lookup_inj (HostType.named.inj ht ▸ hd) hd'
    exact absurd hs hns
  | anonymous => cases ht

/-- A type without a name that is given one stands in a field. -/
theorem Gives.stands_field {k : String} {fields : List HostField} {f : HostField}
    (h : policy.Gives m root k (.struct fields)) (hf : f ∈ visibleFields fields) :
    policy.Stands m root (some f) f.type := by
  cases h with
  | anonymous h _ => exact h.struct hf

/-- The target name is given to a struct other than the root. -/
def StandsForStruct (policy : ExtractPolicy) (m : HostModule) (root : TypeDecl)
    (k : String) : Prop :=
  ∃ d, m.lookup d.name = some d ∧ d.IsStruct ∧ d.name ≠ root.name ∧
    policy.referring.Gives m root k (.named d.name)

/-- A node that stands for no struct but the root is unfolded to the node of its name that is found
    with structs embedded. -/
theorem RootWalk.unfoldsNode (he : policy.embedStructs = true)
    (hsort : policy.sort = .discovery) (w : policy.RootWalk m type)
    (w' : policy.referring.RootWalk m type) (hdecl : w'.decl = w.decl)
    (hapart : policy.referring.Apart m w'.decl) (henum : ¬ policy.IsEnum w'.decl)
    {n n' : TypeNode} (hn : n ∈ w'.found.nodes) (hn' : n' ∈ w.found.nodes)
    (hname : n.name = n'.name) (hkept : ¬ policy.StandsForStruct m w'.decl n.name) :
    ∃ t, policy.referring.Gives m w'.decl n.name t ∧
      policy.UnfoldsNode m w'.found.nodes t n n' := by
  by_cases hroot : n.name = policy.typeNamer w'.decl
  · obtain rfl := w'.eq_of_name_eq hn w'.root_mem hroot
    have hroot' : n'.name = (policy.interfaceOf w.decl w.members).name := by
      rw [← hname, hroot, hdecl]
      rfl
    obtain rfl := w.eq_of_name_eq hn' w.root_mem hroot'
    refine ⟨_, .root, ?_⟩
    have hunfolds := w.unfoldsNode_root he hsort w' hdecl hapart henum
    rwa [hdecl] at hunfolds ⊢
  · have hin : n ∈ w'.inner.nodes :=
      (w'.mem_nodes_found hn).resolve_left fun heq => hroot (heq ▸ rfl)
    have hin' : n' ∈ w.inner.nodes :=
      (w.mem_nodes_found hn').resolve_left fun heq => hroot (by rw [hname, hdecl, heq]; rfl)
    -- Both nodes declare what the name is given to.
    obtain ⟨t, hg, hof⟩ := w'.faithful_inner n hin
    obtain ⟨t', hg', hof'⟩ := w.faithful_inner n' hin'
    rw [← hname, ← hdecl] at hg'
    obtain rfl := hapart _ _ _ hg hg'.referring
    obtain ⟨s, hb, hclosed⟩ := w'.backed ⟨rfl, rfl, hapart, henum, w'.lookup_eq⟩
    refine ⟨t, hg, hof.unfolds he hsort hb hof' hname ?_ ?_⟩
    · rintro d hd rfl hs
      have hne : d.name ≠ w'.decl.name := by
        intro heq
        obtain rfl := HostModule.eq_of_name_eq w'.lookup_eq hd heq
        exact hroot (hof.name_eq hd hs)
      exact hkept ⟨d, hd, hs, hne, hg⟩
    · rintro fields rfl f hf
      refine ⟨hg.stands_field hf, fun k hr => ?_⟩
      have hp : policy.referring.PlaceOf m (.struct fields) f.position :=
        .anonymous (List.mem_map_of_mem hf)
      exact hclosed _ (List.mem_map_of_mem hn) k ⟨_, f.position, hg, hp, hr⟩

end ExtractPolicy

end TypeExport
