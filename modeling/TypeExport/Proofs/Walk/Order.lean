import TypeExport.Proofs.Walk.Writing

/-! # Dependencies Come First

    A walk that follows structs declares a struct when everything inside it has been declared.  What
    it cannot declare in time are the structs that it has entered and not left yet, and each of them
    leads back to the place where its name is met.  So a declaration refers to earlier declarations,
    or to later ones from which it can be reached.

    The invariant `Ordered` says this about the names of the nodes found so far.  A name that is
    referred to from a node, and that has no earlier node, leads to that node; it has a node later
    on or belongs to a struct on the path.

    References are read off the types, because a node does not show all of them: where a declaration
    has the name of a primitive, its name in a node may stand for the primitive. -/

namespace TypeExport

namespace ExtractPolicy

variable (policy : ExtractPolicy) (m : HostModule)

/-! ## Section 1: References -/

/-- What is written for the type in the field, or in no field, refers to the target name. -/
inductive Refers : Option HostField → HostType → String → Prop
  | slice {field elem k} (h : Refers none elem k) : Refers field (.slice elem) k
  | array {field len elem k} (h : Refers none elem k) : Refers field (.array len elem) k
  | key {field key value k} (h : Refers none key k) : Refers field (.map key value) k
  | value {field key value k} (h : Refers none value k) : Refers field (.map key value) k
  | pointer {field elem k} (h : Refers field elem k) : Refers field (.pointer elem) k
  | inline {field fields f k} (hn : policy.anonNamer = none ∨ field = none)
    (hf : f ∈ visibleFields fields) (h : Refers (some f) f.type k) :
    Refers field (.struct fields) k
  | promoted {f fields namer} (hn : policy.anonNamer = some namer) :
    Refers (some f) (.struct fields) (namer f)
  | declared {field name d} (hd : m.lookup name = some d) (h : policy.IsDeclarable d) :
    Refers field (.named name) (policy.typeNamer d)
  | shape {field name d k} (hd : m.lookup name = some d) (ha : policy.IsAlias d)
    (h : Refers none d.type k) : Refers field (.named name) k

/-- The place is one of those that the declaration or anonymous struct consists of.  Enumerations
    have none. -/
inductive PlaceOf : HostType → Position → Prop
  | declared {name d p} (hd : m.lookup name = some d) (he : ¬ policy.IsEnum d)
    (hp : p ∈ m.rootPositions d) : PlaceOf (.named name) p
  | anonymous {fields p} (hp : p ∈ visiblePositions fields) : PlaceOf (.struct fields) p

/-- Under `root`, what the target name `k` is given to refers to the target name `k'`. -/
def Links (root : TypeDecl) (k k' : String) : Prop :=
  ∃ t p, policy.Gives m root k t ∧ policy.PlaceOf m t p ∧ policy.Refers m p.field p.type k'

/-- The node `n` contains a reference to the declaration `n'`.  The name of a primitive stands for
    the primitive unless the declaration of `n` refers to the one of that name. -/
def RefersTo (root : TypeDecl) (n n' : TypeNode) : Prop :=
  TypeNode.Occurs (.simple n'.name) n ∧
    (n'.name ∈ primitiveNames → policy.Links m root n.name n'.name)

/-- In the graph there is a reference from the one node to the other. -/
def Edge (root : TypeDecl) (graph : List TypeNode) (n n' : TypeNode) : Prop :=
  n ∈ graph ∧ n' ∈ graph ∧ policy.RefersTo m root n n'

/-- A chain of references in the graph leads from the one node to the other. -/
def Chain (root : TypeDecl) (graph : List TypeNode) : TypeNode → TypeNode → Prop :=
  Relation.ReflTransGen (policy.Edge m root graph)

variable {policy : ExtractPolicy} {m : HostModule} {root : TypeDecl}

/-- To a struct or an enumeration only its own name refers. -/
theorem Refers.eq_typeNamer {field : Option HostField} {d : TypeDecl} {k : String}
    (h : policy.Refers m field (.named d.name) k) (hd : m.lookup d.name = some d)
    (hdecl : policy.IsDeclarable d) : k = policy.typeNamer d := by
  cases h with
  | declared hd' _ =>
    obtain rfl := HostModule.lookup_inj hd hd'
    rfl
  | shape hd' ha _ =>
    obtain rfl := HostModule.lookup_inj hd hd'
    exact absurd hdecl (policy.not_isDeclarable_of_isAlias ha)

/-- An alias refers to what its shape refers to. -/
theorem Refers.of_alias {field : Option HostField} {d : TypeDecl} {k : String}
    (h : policy.Refers m field (.named d.name) k) (hd : m.lookup d.name = some d)
    (ha : policy.IsAlias d) : policy.Refers m none d.type k := by
  cases h with
  | declared hd' hdecl =>
    obtain rfl := HostModule.lookup_inj hd hd'
    exact absurd hdecl (policy.not_isDeclarable_of_isAlias ha)
  | shape hd' _ h =>
    obtain rfl := HostModule.lookup_inj hd hd'
    exact h

theorem PlaceOf.mem_rootPositions {d : TypeDecl} {p : Position}
    (h : policy.PlaceOf m (.named d.name) p) (hd : m.lookup d.name = some d) :
    p ∈ m.rootPositions d ∧ ¬ policy.IsEnum d := by
  cases h with
  | declared hd' he hp =>
    obtain rfl := HostModule.lookup_inj hd hd'
    exact ⟨hp, he⟩

theorem rootPositions_struct {d : TypeDecl} {fields : List HostField}
    (hs : d.type.deref = .struct fields) : m.rootPositions d = visiblePositions fields := by
  simp only [HostModule.rootPositions, hs]

/-! ## Section 2: References in nodes -/

/-- A name occurs in an interface where it occurs in the node of a field. -/
theorem occurs_interface_iff {k name : String} {comment : Option String}
    {fields : List HostField} {ns : List TypeNode} :
    TypeNode.Occurs (.simple k)
        (.interface name comment (policy.arrange (fieldMembers fields ns))) ↔
      ∃ f n, (f, n) ∈ (visibleFields fields).zip ns ∧ TypeNode.Occurs (.simple k) n := by
  constructor
  · intro h
    cases h with
    | member hm h =>
      obtain ⟨f, n, hzip, rfl⟩ := mem_arrange_fieldMembers.mp hm
      exact ⟨f, n, hzip, h⟩
    | arg hm ha _ =>
      obtain ⟨f, n, hzip, rfl⟩ := mem_arrange_fieldMembers.mp hm
      exact absurd ha (by simp [HostField.property, Member.property])
  · rintro ⟨f, n, hzip, h⟩
    exact .member (mem_arrange_fieldMembers.mpr ⟨f, n, hzip, rfl⟩) h

/-- What a type refers to occurs in what is written for it. -/
theorem Writes.occurs (hembed : policy.embedStructs = false) {field : Option HostField}
    {t : HostType} {n : TypeNode} (hw : policy.Writes m field t n) {k : String} :
    policy.Refers m field t k → TypeNode.Occurs (.simple k) n := by
  induction hw with
  | leaf h =>
    intro hr
    cases hr <;> cases h
  | slice _ ih =>
    intro hr
    cases hr with
    | slice hr => exact .array List.mem_cons_self (ih hr)
  | array _ ih =>
    intro hr
    cases hr with
    | array hr => exact .array List.mem_cons_self (ih hr)
  | map _ _ ihk ihv =>
    intro hr
    cases hr with
    | key hr => exact .map List.mem_cons_self (ihk hr)
    | value hr => exact .map (List.mem_cons_of_mem _ List.mem_cons_self) (ihv hr)
  | pointer _ ih =>
    intro hr
    cases hr with
    | pointer hr => exact ih hr
  -- What is inside occurs in the member made of its field.
  | inline hn hlen _ ih =>
    intro hr
    cases hr with
    | inline _ hf hr =>
      obtain ⟨n, hzip⟩ := exists_mem_zip hlen hf
      exact occurs_interface_iff.mpr ⟨_, n, hzip, ih _ n hzip hr⟩
    | promoted hsome => simp [hsome] at hn
  | promoted hn =>
    intro hr
    cases hr with
    | inline hnone => simp [hn] at hnone
    | promoted hsome =>
      obtain rfl := Option.some.inj (hn.symm.trans hsome)
      exact .self
  | embedded _ _ he => exact absurd (he.symm.trans hembed) (by simp)
  -- A declared type is written as its name, and its name is all that it refers to.
  | struct hd hs _ =>
    intro hr
    obtain rfl := hr.eq_typeNamer hd (.inl hs)
    exact .self
  | enum hd he =>
    intro hr
    obtain rfl := hr.eq_typeNamer hd (.inr he)
    exact .self
  | shape hd ha _ ih => exact fun hr => ih (hr.of_alias hd ha)

/-- A name in what is written for a type is one that the type refers to, or a primitive. -/
theorem Writes.refers (hembed : policy.embedStructs = false) {field : Option HostField}
    {t : HostType} {n : TypeNode} (hw : policy.Writes m field t n) {k : String} :
    TypeNode.Occurs (.simple k) n → k ∈ primitiveNames ∨ policy.Refers m field t k := by
  induction hw with
  -- A leaf is written with primitive names alone.
  | leaf h =>
    intro ho
    have hclosed : TypeNode.Closed (fun _ => False) _ := closed_leaf h
    exact .inl ((hclosed.of_occurs ho).resolve_right id)
  | slice _ ih =>
    intro ho
    cases ho with
    | array hn ho => exact (ih (List.mem_singleton.mp hn ▸ ho)).imp_right .slice
  | array _ ih =>
    intro ho
    cases ho with
    | array hn ho => exact (ih (List.mem_singleton.mp hn ▸ ho)).imp_right .array
  | map _ _ ihk ihv =>
    intro ho
    cases ho with
    | map hn ho =>
      rcases List.mem_cons.mp hn with rfl | hn
      · exact (ihk ho).imp_right .key
      · exact (ihv (List.mem_singleton.mp hn ▸ ho)).imp_right .value
  | pointer _ ih => exact fun ho => (ih ho).imp_right .pointer
  -- A name in a member comes from the field that the member is made of.
  | inline hn _ _ ih =>
    intro ho
    obtain ⟨f, n, hzip, ho⟩ := occurs_interface_iff.mp ho
    exact (ih f n hzip ho).imp_right (.inline hn (List.of_mem_zip hzip).1)
  | promoted hn =>
    intro ho
    cases ho
    exact .inr (.promoted hn)
  | embedded _ _ he => exact absurd (he.symm.trans hembed) (by simp)
  | struct hd hs _ =>
    intro ho
    cases ho
    exact .inr (.declared hd (.inl hs))
  | enum hd he =>
    intro ho
    cases ho
    exact .inr (.declared hd (.inr he))
  | shape hd ha _ ih => exact fun ho => (ih ho).imp_right (.shape hd ha)

/-- The places of a declaration or anonymous struct, in the node that declares it. -/
theorem NodeOf.occurs_iff (hembed : policy.embedStructs = false) {t : HostType} {n : TypeNode}
    (h : policy.NodeOf m t n) {k : String} :
    (∀ p, policy.PlaceOf m t p → policy.Refers m p.field p.type k →
      TypeNode.Occurs (.simple k) n) ∧
    (TypeNode.Occurs (.simple k) n → k ∈ primitiveNames ∨
      ∃ p, policy.PlaceOf m t p ∧ policy.Refers m p.field p.type k) := by
  -- Structs, named or not, consist of their visible fields.
  have hfields : ∀ {fields ns} (name : String) (comment : Option String),
      policy.WritesFields m fields ns →
      (∀ p ∈ visiblePositions fields, policy.Refers m p.field p.type k → TypeNode.Occurs (.simple k)
        (.interface name comment (policy.arrange (fieldMembers fields ns)))) ∧
      (TypeNode.Occurs (.simple k)
          (.interface name comment (policy.arrange (fieldMembers fields ns))) →
        k ∈ primitiveNames ∨ ∃ p ∈ visiblePositions fields, policy.Refers m p.field p.type k) := by
    rintro fields ns name comment ⟨hlen, hns⟩
    constructor
    · intro p hp hr
      obtain ⟨f, hf, rfl⟩ := List.mem_map.mp hp
      obtain ⟨n, hzip⟩ := exists_mem_zip hlen hf
      exact occurs_interface_iff.mpr ⟨f, n, hzip, (hns f n hzip).occurs hembed hr⟩
    · intro ho
      obtain ⟨f, n, hzip, ho⟩ := occurs_interface_iff.mp ho
      refine ((hns f n hzip).refers hembed ho).imp_right fun hr => ⟨f.position, ?_, hr⟩
      exact List.mem_map.mpr ⟨f, (List.of_mem_zip hzip).1, rfl⟩
  cases h with
  | @struct name d fields ns hd hs hns =>
    obtain rfl := HostModule.name_of_lookup hd
    have hplaces : m.rootPositions d = visiblePositions fields := rootPositions_struct hs
    obtain ⟨hto, hfrom⟩ := hfields (policy.typeNamer d) (policy.declComment d) hns
    constructor
    · intro p hp
      exact hto p (hplaces ▸ (hp.mem_rootPositions hd).1)
    · intro ho
      refine (hfrom ho).imp_right fun ⟨p, hp, hr⟩ => ⟨p, .declared hd ?_ (hplaces ▸ hp), hr⟩
      exact fun he => he.1 ⟨_, hs⟩
  | @enum name d provider members hd hns hc _ =>
    obtain rfl := HostModule.name_of_lookup hd
    constructor
    · intro p hp
      exact absurd ⟨hns, by rw [hc]; rfl⟩ (hp.mem_rootPositions hd).2
    · exact fun ho => nomatch ho
  | @anonymous name fields ns hns =>
    obtain ⟨hto, hfrom⟩ := hfields name none hns
    constructor
    · intro p hp
      cases hp with
      | anonymous hp => exact hto p hp
    · exact fun ho => (hfrom ho).imp_right fun ⟨p, hp, hr⟩ => ⟨p, .anonymous hp, hr⟩

/-! ## Section 3: States in order -/

/-- Every struct on the path leads to the target name. -/
def StructsReach (policy : ExtractPolicy) (m : HostModule) (root : TypeDecl) (path : List String)
    (k : String) : Prop :=
  ∀ d, m.lookup d.name = some d → d.IsStruct → d.name ∈ path →
    Relation.ReflTransGen (policy.Links m root) (policy.typeNamer d) k

/-- The nodes found so far belong to something else than the root, and what they refer to has an
    earlier node or leads back to them. -/
structure Ordered (policy : ExtractPolicy) (m : HostModule) (root : TypeDecl) (path : List String)
    (s : Progress) : Prop where
  declared : ∀ d, m.lookup d.name = some d → d.name ∈ s.declared → policy.typeNamer d ∈ s.names
  given : ∀ k ∈ s.names, ∃ t, t ≠ .named root.name ∧ policy.Gives m root k t
  earlier : ∀ before k after, s.names = before ++ k :: after → ∀ k', policy.Links m root k k' →
    k' ∈ before ∨
      policy.Known m path s k' ∧ Relation.ReflTransGen (policy.Links m root) k' k

variable {path path' : List String} {s s' : Progress} {k k' : String}

theorem StructsReach.tail (h : policy.StructsReach m root path k)
    (hlink : policy.Links m root k k') :
    policy.StructsReach m root path k' := by
  intro d hd hs hp
  exact (h d hd hs hp).tail hlink

/-- A struct that is entered leads to its own name. -/
theorem StructsReach.enter {d : TypeDecl} (hd : m.lookup d.name = some d)
    (h : policy.StructsReach m root path (policy.typeNamer d)) :
    policy.StructsReach m root (d.name :: path) (policy.typeNamer d) := by
  intro e he hs hp
  rcases List.mem_cons.mp hp with heq | hp
  · obtain rfl := HostModule.eq_of_name_eq hd he heq
    exact .refl
  · exact h e he hs hp

/-- Aliases on the path lead nowhere of their own. -/
theorem StructsReach.alias {a : TypeDecl} (hd : m.lookup a.name = some a) (ha : policy.IsAlias a)
    (h : policy.StructsReach m root path k) : policy.StructsReach m root (a.name :: path) k := by
  intro e he hs hp
  rcases List.mem_cons.mp hp with heq | hp
  · obtain rfl := HostModule.eq_of_name_eq hd he heq
    exact absurd hs ha.1
  · exact h e he hs hp

/-- What is known without a node belongs to a struct on the path. -/
theorem Known.reaches (h : policy.Known m path s k') (hn : k' ∉ s.names)
    (hlead : policy.StructsReach m root path k) :
    Relation.ReflTransGen (policy.Links m root) k' k := by
  rcases h with hk | ⟨_, d, hd, hs, hp, rfl⟩
  · exact absurd hk hn
  · exact hlead d hd hs hp

/-- A state in order for one path is in order for another when the same names are known. -/
theorem Ordered.imp (himp : ∀ k, policy.Known m path s k → policy.Known m path' s k)
    (h : policy.Ordered m root path s) : policy.Ordered m root path' s :=
  ⟨h.declared, h.given, fun before k after hnames k' hlink =>
    (h.earlier before k after hnames k' hlink).imp_right fun hk => ⟨himp k' hk.1, hk.2⟩⟩

/-- A node may be added when all that it refers to is known. -/
theorem Ordered.add (hapart : policy.Apart m root) {node : TypeNode} {t : HostType}
    (h : policy.Ordered m root path s) (hnames : s'.names = (s.put node).names)
    (ht : t ≠ .named root.name) (hg : policy.Gives m root node.name t)
    (hlead : policy.StructsReach m root path node.name)
    (hrefs : ∀ p, policy.PlaceOf m t p → ∀ k, policy.Refers m p.field p.type k →
      policy.Known m path s k)
    (hdecl : ∀ d, m.lookup d.name = some d → d.name ∈ s'.declared →
      d.name ∈ s.declared ∨ policy.typeNamer d = node.name)
    (hknown : ∀ k, policy.Known m path s k → policy.Known m path' s' k) :
    policy.Ordered m root path' s' := by
  have hmem : ∀ {k}, k ∈ s'.names ↔ k = node.name ∨ k ∈ s.names := by
    intro k
    rw [hnames, Progress.mem_names_put]
  refine ⟨?_, ?_, ?_⟩
  · -- A declaration that is marked by this step is marked because of the new node.
    intro d hd hmark
    exact hmem.mpr ((hdecl d hd hmark).symm.imp_right (h.declared d hd))
  · intro k hk
    rcases hmem.mp hk with rfl | hk
    · exact ⟨t, ht, hg⟩
    · exact h.given k hk
  · intro before k after heq k' hlink
    by_cases hin : node.name ∈ s.names
    · -- The node takes the place of an earlier one, so the names stay as they are.
      rw [hnames, Progress.names_put_of_mem hin] at heq
      exact (h.earlier before k after heq k' hlink).imp_right fun hk => ⟨hknown k' hk.1, hk.2⟩
    · rw [hnames, Progress.names_put_of_not_mem hin] at heq
      rcases List.eq_nil_or_concat after with rfl | ⟨after, last, rfl⟩
      · -- The new node comes last, and all nodes there were stand before it.
        obtain ⟨rfl, hlast⟩ := List.append_inj' heq rfl
        obtain rfl : node.name = k := by simpa using hlast
        obtain ⟨t', p, hg', hp, hr⟩ := hlink
        obtain rfl := hapart _ _ _ hg hg'
        have hk := hrefs p hp k' hr
        by_cases hbefore : k' ∈ s.names
        · exact .inl hbefore
        · exact .inr ⟨hknown k' hk, hk.reaches hbefore hlead⟩
      · -- An earlier node: what stands before it has not changed.
        rw [List.concat_eq_append, ← List.cons_append, ← List.append_assoc] at heq
        obtain ⟨hold, _⟩ := List.append_inj' heq rfl
        exact (h.earlier before k after hold k' hlink).imp_right fun hk => ⟨hknown k' hk.1, hk.2⟩

/-! ## Section 4: Walks keep states in order -/

/-- What the order of a graph rests on: structs are followed and stand for themselves by their
    names, all names are different, and the root is no enumeration. -/
structure Orderly (policy : ExtractPolicy) (m : HostModule) (root : TypeDecl) : Prop where
  follow : policy.followStructs = true
  refer : policy.embedStructs = false
  apart : policy.Apart m root
  root_not_enum : ¬ policy.IsEnum root
  lookup_root : m.lookup root.name = some root

/-- A declaration other than the root may get its node when all that it refers to is known. -/
theorem Ordered.declare (hw : policy.Orderly m root) {d : TypeDecl} {node : TypeNode}
    (h : policy.Ordered m root path s) (hd : m.lookup d.name = some d)
    (hname : node.name = policy.typeNamer d) (hne : d.name ≠ root.name)
    (hg : policy.Gives m root node.name (.named d.name))
    (hlead : policy.StructsReach m root path node.name)
    (hrefs : ∀ p, policy.PlaceOf m (.named d.name) p → ∀ k, policy.Refers m p.field p.type k →
      policy.Known m path s k)
    (hknown : ∀ k, policy.Known m path s k → policy.Known m path' (s.declare d.name node) k) :
    policy.Ordered m root path' (s.declare d.name node) := by
  have hother : HostType.named d.name ≠ .named root.name := fun heq => hne (HostType.named.inj heq)
  refine h.add hw.apart (s.names_declare d.name node) hother hg hlead hrefs ?_ hknown
  intro e he hmark
  rcases List.mem_cons.mp hmark with heq | hmark
  · obtain rfl := HostModule.eq_of_name_eq hd he heq
    exact .inr hname.symm
  · exact .inl hmark

-- The induction is on derivations.  Inside a type, every struct on the path leads to all that the
-- type refers to, and afterwards all of this is known.

mutual

/-- Resolving a type keeps the state in order, and all that the type refers to becomes known. -/
theorem Resolves.ordered (hw : policy.Orderly m root) {path : List String}
    {field : Option HostField} {t : HostType} {s s' : Progress} {n : TypeNode} :
    policy.Resolves m path field t s n s' → policy.Stands m root field t → root.name ∈ path →
      (∀ k, policy.Refers m field t k → policy.StructsReach m root path k) →
      policy.Ordered m root path s →
      policy.Ordered m root path s' ∧
        ∀ k, policy.Refers m field t k → policy.Known m path s' k
  -- A leaf refers to nothing.
  | .leaf h, _, _, _, hs => by
    refine ⟨hs, fun k hr => ?_⟩
    cases hr <;> cases h
  | .slice h, hstands, hin, hlead, hs => by
    obtain ⟨hs', hk⟩ :=
      h.ordered hw hstands.slice hin (fun k hr => hlead k (.slice hr)) hs
    refine ⟨hs', fun k hr => ?_⟩
    cases hr with
    | slice hr => exact hk k hr
  | .array h, hstands, hin, hlead, hs => by
    obtain ⟨hs', hk⟩ :=
      h.ordered hw hstands.array hin (fun k hr => hlead k (.array hr)) hs
    refine ⟨hs', fun k hr => ?_⟩
    cases hr with
    | array hr => exact hk k hr
  -- What the key has made known stays known while the value is resolved.
  | .map hkey hvalue, hstands, hin, hlead, hs => by
    obtain ⟨hs₁, hk⟩ :=
      hkey.ordered hw hstands.key hin (fun k hr => hlead k (.key hr)) hs
    obtain ⟨hs', hv⟩ :=
      hvalue.ordered hw hstands.value hin (fun k hr => hlead k (.value hr)) hs₁
    refine ⟨hs', fun k hr => ?_⟩
    cases hr with
    | key hr => exact (hk k hr).mono hvalue.names_subset
    | value hr => exact hv k hr
  | .pointer h, hstands, hin, hlead, hs => by
    obtain ⟨hs', hk⟩ :=
      h.ordered hw hstands.pointer hin (fun k hr => hlead k (.pointer hr)) hs
    refine ⟨hs', fun k hr => ?_⟩
    cases hr with
    | pointer hr => exact hk k hr
  | .inline hn h, hstands, hin, hlead, hs => by
    obtain ⟨hs', hk⟩ := h.ordered hw (stands_of_visible fun f hf => hstands.struct hf) hin
      (fun p hp k hr => by
        obtain ⟨f, hvis, rfl⟩ := List.mem_map.mp hp
        exact hlead k (.inline hn hvis hr)) hs
    refine ⟨hs', fun k hr => ?_⟩
    cases hr with
    | inline _ hvis hr => exact hk _ (List.mem_map_of_mem hvis) k hr
    | promoted hsome => simp [hsome] at hn
  -- The name of a promoted struct leads to all that its fields refer to, so the structs on the path
  -- lead there through it.
  | .promoted hn h, hstands, hin, hlead, hs => by
    have hg := Gives.anonymous hstands hn
    have hk₀ := hlead _ (.promoted hn)
    obtain ⟨hs', hk⟩ := h.ordered hw (stands_of_visible fun f hf => hstands.struct hf) hin
      (fun p hp k hr => hk₀.tail ⟨_, p, hg, .anonymous hp, hr⟩) hs
    refine ⟨hs'.add hw.apart rfl (by simp) hg hk₀ (fun p hp k hr => ?_) (fun _ _ => .inl)
      fun k hk => hk.mono (Progress.names_subset_put _ _), fun k hr => ?_⟩
    · cases hp with
      | anonymous hp => exact hk p hp k hr
    · cases hr with
      | inline hnone => simp [hn] at hnone
      | promoted hsome =>
        obtain rfl := Option.some.inj (hn.symm.trans hsome)
        exact .inl (Progress.mem_names_put.mpr (.inl rfl))
  | .embedded _ _ hembed _ _, _, _, _, _ => absurd (hembed.symm.trans hw.refer) (by simp)
  | .mentioned hd hstruct _ hk, _, _, _, hs => by
    refine ⟨hs, fun k hr => ?_⟩
    obtain rfl := hr.eq_typeNamer hd (.inl hstruct)
    rcases hk hw.follow with hp | hdecl
    · exact .inr ⟨hw.refer, _, hd, hstruct, hp, rfl⟩
    · exact .inl (hs.declared _ hd hdecl)
  | @Resolves.followed _ _ path field d fields s ns s' hd hfields _ _ hp _ h, hstands, hin, hlead,
      hs => by
    have hstruct : policy.IsDeclarable d := .inl ⟨_, hfields⟩
    have hnenum : ¬ policy.IsEnum d := fun h => h.1 ⟨_, hfields⟩
    have hplaces : m.rootPositions d = visiblePositions fields := rootPositions_struct hfields
    have hg := Gives.struct hstands hd ⟨_, hfields⟩ hw.refer
    -- Inside, the struct is on the path, and it leads to whatever its places refer to.
    have hk₀ := (hlead _ (.declared hd hstruct)).enter hd
    obtain ⟨hs', hk⟩ := h.ordered hw
      (stands_of_visible fun f hvis => hstands.declared hw.follow hd hfields hvis)
      (List.mem_cons_of_mem _ hin)
      (fun p hmem k hr => hk₀.tail ⟨_, p, hg, .declared hd hnenum (hplaces ▸ hmem), hr⟩)
      (hs.imp fun k hk => hk.cons _)
    -- The root is on the path and is not entered again.
    have hne : d.name ≠ root.name := fun heq => hp (heq ▸ hin)
    refine ⟨hs'.declare hw hd rfl hne hg hk₀ (fun p hmem k hr => ?_) fun k hk => hk.declare hd rfl,
      fun k hr => ?_⟩
    · exact hk p (hplaces ▸ (hmem.mem_rootPositions hd).1) k hr
    · obtain rfl := hr.eq_typeNamer hd hstruct
      exact .inl (Progress.mem_names_put.mpr (.inl rfl))
  | .known hd hen hk, _, _, _, hs => by
    refine ⟨hs, fun k hr => ?_⟩
    obtain rfl := hr.eq_typeNamer hd (.inr hen)
    exact .inl (hs.declared _ hd hk)
  | @Resolves.enumerated _ _ path field d provider members s hd hns hc _ _, hstands, _, hlead,
      hs => by
    have hen : policy.IsEnum d := ⟨hns, by rw [hc]; rfl⟩
    have hne : d.name ≠ root.name := by
      intro heq
      obtain rfl := HostModule.eq_of_name_eq hw.lookup_root hd heq
      exact hw.root_not_enum hen
    refine ⟨hs.declare hw hd rfl hne (.enum hstands hd hen) (hlead _ (.declared hd (.inr hen)))
      (fun p hmem => absurd hen (hmem.mem_rootPositions hd).2)
      fun k hk => hk.mono (Progress.names_subset_put _ _), fun k hr => ?_⟩
    obtain rfl := hr.eq_typeNamer hd (.inr hen)
    exact .inl (Progress.mem_names_put.mpr (.inl rfl))
  | .shape hd ha _ h, hstands, hin, hlead, hs => by
    obtain ⟨hs', hk⟩ := h.ordered hw (hstands.shape hd ha)
      (List.mem_cons_of_mem _ hin) (fun k hr => (hlead k (.shape hd ha hr)).alias hd ha)
      (hs.imp fun k hk => hk.cons _)
    refine ⟨hs'.imp fun k hk => hk.of_alias hd ha, fun k hr => ?_⟩
    exact (hk k (hr.of_alias hd ha)).of_alias hd ha

/-- The same for several places. -/
theorem ResolvesAll.ordered (hw : policy.Orderly m root) {path : List String}
    {ps : List Position} {s s' : Progress} {ns : List TypeNode} :
    policy.ResolvesAll m path ps s ns s' → (∀ p ∈ ps, policy.Stands m root p.field p.type) →
      root.name ∈ path →
      (∀ p ∈ ps, ∀ k, policy.Refers m p.field p.type k → policy.StructsReach m root path k) →
      policy.Ordered m root path s →
      policy.Ordered m root path s' ∧
        ∀ p ∈ ps, ∀ k, policy.Refers m p.field p.type k → policy.Known m path s' k
  | .nil, _, _, _, hs => ⟨hs, fun p hp => absurd hp (by simp)⟩
  | .cons h hall, hstands, hin, hlead, hs => by
    obtain ⟨hs₁, hk⟩ := h.ordered hw (hstands _ List.mem_cons_self) hin
      (hlead _ List.mem_cons_self) hs
    obtain ⟨hs', hks⟩ := hall.ordered hw (fun p hp => hstands p (List.mem_cons_of_mem _ hp)) hin
      (fun p hp => hlead p (List.mem_cons_of_mem _ hp)) hs₁
    refine ⟨hs', ?_⟩
    intro p hp k hr
    rcases List.mem_cons.mp hp with rfl | hp
    · exact (hk k hr).mono hall.names_subset
    · exact hks p hp k hr

end

/-! ## Section 5: Order of a graph -/

variable {type : HostType}

/-- Before the root gets its node the state is in order, and what the root refers to is known. -/
theorem RootWalk.ordered (w : policy.RootWalk m type) (hw : policy.Orderly m w.decl) :
    policy.Ordered m w.decl [w.decl.name] w.inner ∧
      ∀ p ∈ m.rootPositions w.decl, ∀ k, policy.Refers m p.field p.type k →
        policy.Known m [w.decl.name] w.inner k := by
  have hempty : policy.Ordered m w.decl [w.decl.name] {} :=
    ⟨fun _ _ h => absurd h (by simp), fun _ h => absurd h (by simp [Progress.names]),
      fun _ _ _ h => absurd h (by simp [Progress.names])⟩
  refine w.resolves.ordered hw (fun p hp => .root hp) List.mem_cons_self ?_ hempty
  intro p hp k hr d hd _ hmem
  obtain rfl := HostModule.eq_of_name_eq w.lookup_eq hd (List.mem_singleton.mp hmem)
  exact .single ⟨_, p, .root, .declared hd hw.root_not_enum hp, hr⟩

/-- No other node has the name of the root, so the node of the root comes last. -/
theorem RootWalk.nodes_found (w : policy.RootWalk m type) (hw : policy.Orderly m w.decl) :
    w.found.nodes = w.inner.nodes ++ [policy.interfaceOf w.decl w.members] := by
  refine upsert_of_not_mem fun hmem => ?_
  obtain ⟨t, ht, hg⟩ := (w.ordered hw).1.given _ hmem
  exact ht (hw.apart _ _ _ hg .root)

/-- Nodes are told apart by their names. -/
theorem RootWalk.eq_of_name_eq (w : policy.RootWalk m type) {n n' : TypeNode}
    (hn : n ∈ w.found.nodes) (hn' : n' ∈ w.found.nodes) (h : n.name = n'.name) : n = n' :=
  List.inj_on_of_nodup_map w.nodup_names hn hn' h

/-- The name of a node does not stand before it. -/
theorem RootWalk.not_mem_take (w : policy.RootWalk m type) {i j : Nat} {n : TypeNode}
    (hle : i ≤ j) (hj : w.found.nodes[j]? = some n) :
    n.name ∉ (w.found.nodes.take i).map (·.name) := by
  have hdrop : n.name ∈ w.found.names.drop j := by
    refine List.mem_of_getElem? (i := 0) ?_
    rw [List.getElem?_drop, Nat.add_zero, Progress.names, List.getElem?_map, hj]
    rfl
  rw [List.map_take]
  exact fun htake => List.disjoint_take_drop w.nodup_names hle htake hdrop

/-- All that nodes refer to has a node that is faithful.  The root is among them when it is a
    struct; an interface is never referred to. -/
theorem RootWalk.exists_faithful (w : policy.RootWalk m type) (hw : policy.Orderly m w.decl) :
    ∃ s : Progress, policy.Faithful m w.decl s ∧ s.nodes ⊆ w.found.nodes ∧
      ∀ k ∈ w.found.names, ∀ k', policy.Links m w.decl k k' → k' ∈ s.names := by
  obtain ⟨hordered, hroot⟩ := w.ordered hw
  -- What is referred to has been known before the root gets its node.
  have hknown : ∀ k ∈ w.found.names, ∀ k', policy.Links m w.decl k k' →
      policy.Known m [w.decl.name] w.inner k' := by
    intro k hk k' hlink
    rcases Progress.mem_names_put.mp hk with rfl | hk
    · obtain ⟨t, p, hg, hp, hr⟩ := hlink
      obtain rfl := hw.apart _ _ _ hg .root
      exact hroot p (hp.mem_rootPositions w.lookup_eq).1 k' hr
    · obtain ⟨before, after, hnames⟩ := List.append_of_mem hk
      rcases hordered.earlier before k after hnames k' hlink with hbefore | ⟨hknown, _⟩
      · exact .inl (hnames ▸ List.mem_append_left _ hbefore)
      · exact hknown
  by_cases hs : w.decl.IsStruct
  · refine ⟨w.found, w.faithful hs, List.Subset.refl _, fun k hk k' hlink => ?_⟩
    have hdeclared : policy.Known m [] w.found k' := (hknown k hk k' hlink).declare w.lookup_eq rfl
    rcases hdeclared with hk' | ⟨_, _, _, _, hp, _⟩
    · exact hk'
    · exact absurd hp (by simp)
  · refine ⟨w.inner, w.faithful_inner, ?_, fun k hk k' hlink => ?_⟩
    · rw [w.nodes_found hw]
      exact List.subset_append_left _ _
    · rcases hknown k hk k' hlink with hk' | ⟨_, d, hd, hstruct, hp, _⟩
      · exact hk'
      · obtain rfl := HostModule.eq_of_name_eq w.lookup_eq hd (List.mem_singleton.mp hp)
        exact absurd hstruct hs

/-- A faithful node contains the references that its name has. -/
theorem Faithful.refersTo_iff (hw : policy.Orderly m root) {s : Progress}
    (h : policy.Faithful m root s) {n n' : TypeNode} (hn : n ∈ s.nodes) :
    policy.RefersTo m root n n' ↔ policy.Links m root n.name n'.name := by
  obtain ⟨t, hg, hnode⟩ := h n hn
  constructor
  · rintro ⟨hoccurs, hprim⟩
    rcases (hnode.occurs_iff hw.refer).2 hoccurs with hin | ⟨p, hp, hr⟩
    · exact hprim hin
    · exact ⟨t, p, hg, hp, hr⟩
  · intro hlink
    refine ⟨?_, fun _ => hlink⟩
    obtain ⟨t', p, hg', hp, hr⟩ := hlink
    obtain rfl := hw.apart _ _ _ hg hg'
    exact (hnode.occurs_iff hw.refer).1 p hp hr

/-- Where the one name leads to the other, there is a chain of references between their nodes. -/
theorem RootWalk.chain (w : policy.RootWalk m type) (hw : policy.Orderly m w.decl)
    {n n' : TypeNode} (hn : n ∈ w.found.nodes) (hn' : n' ∈ w.found.nodes)
    (hcited : ∃ k ∈ w.found.names, policy.Links m w.decl k n'.name)
    (h : Relation.ReflTransGen (policy.Links m w.decl) n'.name n.name) :
    policy.Chain m w.decl w.found.nodes n' n := by
  obtain ⟨s, hs, hsub, hclosed⟩ := w.exists_faithful hw
  have hnode : ∀ {x}, x ∈ w.found.nodes → x.name ∈ s.names → x ∈ s.nodes := by
    intro x hx hname
    obtain ⟨y, hy, heq⟩ := List.mem_map.mp hname
    exact w.eq_of_name_eq (hsub hy) hx heq ▸ hy
  have hname : n'.name ∈ s.names := by
    obtain ⟨k, hk, hlink⟩ := hcited
    exact hclosed k hk _ hlink
  -- The induction follows the names and finds the node of each one.
  generalize hk' : n'.name = k' at h
  induction h using Relation.ReflTransGen.head_induction_on generalizing n' with
  | refl => exact w.eq_of_name_eq hn' hn hk' ▸ .refl
  | @head a c hlink hrest ih =>
    subst hk'
    have hc : c ∈ s.names := hclosed _ (List.mem_map_of_mem hn') c hlink
    obtain ⟨x, hx, rfl⟩ := List.mem_map.mp hc
    have hedge : policy.Edge m w.decl w.found.nodes n' x :=
      ⟨hn', hsub hx, (hs.refersTo_iff hw (hnode hn' hname)).mpr hlink⟩
    exact .head hedge (ih (hsub hx) ⟨_, List.mem_map_of_mem hn', hlink⟩ hc rfl)

/-- At the end of a walk, what a node refers to stands before it or leads back to it. -/
theorem RootWalk.chain_of_le (w : policy.RootWalk m type) (hw : policy.Orderly m w.decl)
    {i j : Nat} {n n' : TypeNode}
    (hi : w.found.nodes[i]? = some n) (hj : w.found.nodes[j]? = some n')
    (href : policy.RefersTo m w.decl n n') (hle : i ≤ j) :
    policy.Chain m w.decl w.found.nodes n' n := by
  obtain ⟨hordered, _⟩ := w.ordered hw
  have hnodes := w.nodes_found hw
  rcases Nat.lt_or_ge i w.inner.nodes.length with hlt | hge
  · -- Another node than the one of the root stands between those before and those after it.
    have hin : w.inner.nodes[i]? = some n := by
      rwa [hnodes, List.getElem?_append_left hlt] at hi
    have hn : n ∈ w.inner.nodes := List.mem_of_getElem? hin
    have hlink : policy.Links m w.decl n.name n'.name :=
      ((w.faithful_inner).refersTo_iff hw hn).mp href
    have hsplit : w.inner.nodes = w.inner.nodes.take i ++ n :: w.inner.nodes.drop (i + 1) := by
      obtain ⟨_, rfl⟩ := List.getElem?_eq_some_iff.mp hin
      rw [List.getElem_cons_drop, List.take_append_drop]
    have hnames : w.inner.names = (w.inner.nodes.take i).map (·.name) ++
        n.name :: (w.inner.nodes.drop (i + 1)).map (·.name) := by
      rw [Progress.names, ← List.map_cons, ← List.map_append, ← hsplit]
    -- What it refers to stands before it, which the positions exclude, or leads back.
    rcases hordered.earlier _ _ _ hnames _ hlink with hbefore | ⟨_, hreach⟩
    · rw [← List.take_append_of_le_length (Nat.le_of_lt hlt), ← hnodes] at hbefore
      exact absurd hbefore (w.not_mem_take hle hj)
    · have hmem : n ∈ w.found.nodes := hnodes ▸ List.mem_append_left _ hn
      exact w.chain hw hmem (List.mem_of_getElem? hj)
        ⟨_, List.mem_map_of_mem hmem, hlink⟩ hreach
  · -- The node of the root is the last one, so it refers to itself.
    have hlength : w.found.nodes.length = w.inner.nodes.length + 1 := by
      rw [hnodes, List.length_append, List.length_singleton]
    have hlt : j < w.found.nodes.length := (List.getElem?_eq_some_iff.mp hj).1
    obtain rfl : i = j := by omega
    obtain rfl := Option.some.inj (hi.symm.trans hj)
    exact .refl

/-- In discovery order the node of the root comes last, and a node refers to nodes before it or to
    nodes from which a chain of references leads back to it.  Without cycles all references go
    back. -/
theorem dependencies_first (hf : policy.followStructs = true) (he : policy.embedStructs = false)
    (hsort : policy.sort = .discovery) {d : TypeDecl} (hroot : type.deref = .named d.name)
    (hd : m.lookup d.name = some d) (hapart : policy.Apart m d) (henum : ¬ policy.IsEnum d)
    {graph : List TypeNode} (h : extract m type policy = .ok graph) :
    (∃ before members, graph = before ++ [policy.interfaceOf d members]) ∧
      (∀ (i j : Nat) (n n' : TypeNode), graph[i]? = some n → graph[j]? = some n' →
        policy.RefersTo m d n n' → i ≤ j → policy.Chain m d graph n' n) ∧
      ((∀ n, ¬ Relation.TransGen (policy.Edge m d graph) n n) →
        ∀ (i j : Nat) (n n' : TypeNode), graph[i]? = some n → graph[j]? = some n' →
          policy.RefersTo m d n n' → j < i) := by
  obtain ⟨w, rfl⟩ := extract_eq_ok h
  obtain rfl := w.decl_eq hroot hd
  rw [hsort]
  have hw : policy.Orderly m w.decl := ⟨hf, he, hapart, henum, hd⟩
  have hchain : ∀ (i j : Nat) (n n' : TypeNode), w.found.nodes[i]? = some n →
      w.found.nodes[j]? = some n' → policy.RefersTo m w.decl n n' → i ≤ j →
      policy.Chain m w.decl w.found.nodes n' n :=
    fun i j n n' hi hj href hle => w.chain_of_le hw hi hj href hle
  refine ⟨⟨_, _, w.nodes_found hw⟩, hchain, ?_⟩
  intro hacyclic i j n n' hi hj href
  rcases Nat.lt_or_ge j i with hlt | hge
  · exact hlt
  · -- A reference that does not go back closes a cycle.
    have hedge : policy.Edge m w.decl w.found.nodes n n' :=
      ⟨List.mem_of_getElem? hi, List.mem_of_getElem? hj, href⟩
    exact absurd (Relation.TransGen.head' hedge (hchain i j n n' hi hj href hge)) (hacyclic n)

def parentDecl : TypeDecl :=
  ⟨"Parent", .struct [⟨"Children", .slice (.named "Child"), none⟩], none, none⟩

/-- Parents and children, who know their parent. -/
def familyModule : HostModule where
  types := [parentDecl,
    ⟨"Child", .struct [⟨"Parent", .pointer (.named "Parent"), none⟩], none, none⟩]

def parentNode : TypeNode :=
  .interface "Parent" none [.property "Children" (.array [.simple "Child"])]

def childNode : TypeNode := .interface "Child" none [.property "Parent" (.simple "Parent")]

/-- The child comes first although it refers to the parent, and the parent leads back to it. -/
theorem family_in_order :
    extract familyModule (.named "Parent") following = .ok [childNode, parentNode] ∧
      following.Apart familyModule parentDecl ∧
      following.RefersTo familyModule parentDecl childNode parentNode ∧
      following.Chain familyModule parentDecl [childNode, parentNode] parentNode childNode := by
  have h : extract familyModule (.named "Parent") following = .ok [childNode, parentNode] := by cbv
  have hapart : following.Apart familyModule parentDecl := apart_of_injective rfl fun _ _ h => h
  have henum : ¬ following.IsEnum parentDecl := fun he => he.1 ⟨_, rfl⟩
  have href : following.RefersTo familyModule parentDecl childNode parentNode :=
    ⟨.member List.mem_cons_self .self, fun hprim => absurd hprim (by decide)⟩
  obtain ⟨_, hchain, _⟩ := dependencies_first rfl rfl rfl rfl rfl hapart henum h
  exact ⟨h, hapart, href, hchain 0 1 childNode parentNode rfl rfl href (by decide)⟩

end ExtractPolicy

end TypeExport
