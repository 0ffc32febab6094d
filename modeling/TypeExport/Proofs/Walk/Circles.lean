import TypeExport.Proofs.Walk.Reached

/-! # Circles of Aliases

    An alias is written out where its name stands, so an alias that comes back to itself through
    aliases alone has no finite form.  A walk without embedding fails on each such alias that it can
    meet.

    It also fails on aliases that do have a finite form.  A struct is searched where its name is met
    for the first time, with the whole path of that place; when an alias on this path is mentioned
    in the struct, the walk takes it for an alias that contains itself.  Such an alias is `Trapped`.
    `cyclicType_iff_circular` says that a walk is stopped by nothing else. -/

namespace TypeExport

namespace ExtractPolicy

variable (policy : ExtractPolicy) (m : HostModule)

/-! ## Section 1: What leads where -/

/-- A search looks inside the declaration. -/
def IsEntered (d : TypeDecl) : Prop := policy.IsAlias d ∨ policy.IsFollowed d

/-- The name `b` stands in a visible place of the declaration `a`, and a search looks inside it. -/
def Leads (a b : String) : Prop :=
  ∃ d, m.lookup a = some d ∧ policy.IsEntered d ∧ b ∈ d.type.mentions

/-- The name can be met in a search from the root. -/
def MetFrom (root : TypeDecl) (n : String) : Prop :=
  ∃ a ∈ root.type.mentions, Relation.ReflTransGen (policy.Leads m) a n

/-- The alias comes back to itself through aliases alone. -/
def SelfReaching (n : String) : Prop := Relation.TransGen (policy.AliasStep m) n n

/-- From `u` a search comes to `v`, and meets no name of `path` on the way. -/
inductive LeadsAround (path : List String) : String → String → Prop
  | here {u} (hu : u ∉ path) : LeadsAround path u u
  | step {u v w} (hu : u ∉ path) (h : policy.Leads m u v) (hv : LeadsAround path v w) :
    LeadsAround path u w

/-- The path on which a search from `root` is when it is on its way to the place where it meets
    the name `target` for the first time: inside each declaration it has passed over all names from
    which it would have come to the target before. -/
inductive FirstPath (root target : String) : List String → Prop
  | root : FirstPath root target [root]
  | step {a d path before b after} (h : FirstPath root target (a :: path))
    (hd : m.lookup a = some d) (hm : d.type.mentions = before ++ b :: after)
    (hbefore : ∀ c ∈ before, ¬ policy.LeadsAround m (a :: path) c target)
    (hb : policy.LeadsAround m (a :: path) b target) : FirstPath root target (b :: a :: path)

/-- A struct is met for the first time behind the alias `n`, and through aliases it leads to the
    name `u`. -/
def TrappedBefore (root n u : String) : Prop :=
  ∃ t path, m.lookup t.name = some t ∧ policy.IsFollowed t ∧
    policy.FirstPath m root t.name (t.name :: path) ∧ n ∈ path ∧
    ∃ c ∈ t.type.mentions, policy.AliasReach m c u

/-- The alias is mentioned in a struct that is met for the first time behind it. -/
def Trapped (root n : String) : Prop := policy.TrappedBefore m root n n

variable {policy : ExtractPolicy} {m : HostModule}

theorem LeadsAround.not_mem {path : List String} {u v : String}
    (h : policy.LeadsAround m path u v) : u ∉ path := by
  cases h with
  | here hu => exact hu
  | step hu _ _ => exact hu

/-- To avoid fewer names is easier. -/
theorem LeadsAround.mono {path path' : List String} (hsub : path ⊆ path') {u v : String}
    (h : policy.LeadsAround m path' u v) : policy.LeadsAround m path u v := by
  induction h with
  | here hu => exact .here fun hmem => hu (hsub hmem)
  | step hu hl _ ih => exact .step (fun hmem => hu (hsub hmem)) hl ih

/-! ## Section 2: A search that ends has met no circle -/

/-- A search through two lists of names is a search through each. -/
theorem Visits.split {path xs ys D D'} (h : policy.Visits m path (xs ++ ys) D D') :
    ∃ D₁, policy.Visits m path xs D D₁ ∧ policy.Visits m path ys D₁ D' := by
  induction xs generalizing D with
  | nil => exact ⟨D, .done, h⟩
  | cons x xs ih =>
    rw [List.cons_append] at h
    cases h with
    -- Each step stays as it is, and the rest of its own list is split.
    | mentioned hd hs he hk h =>
      obtain ⟨D₁, h₁, h₂⟩ := ih h
      exact ⟨D₁, .mentioned hd hs he hk h₁, h₂⟩
    | followed hd hf hp hn hin h =>
      obtain ⟨D₁, h₁, h₂⟩ := ih h
      exact ⟨D₁, .followed hd hf hp hn hin h₁, h₂⟩
    | known hd he hk h =>
      obtain ⟨D₁, h₁, h₂⟩ := ih h
      exact ⟨D₁, .known hd he hk h₁, h₂⟩
    | enumerated hd he hn h =>
      obtain ⟨D₁, h₁, h₂⟩ := ih h
      exact ⟨D₁, .enumerated hd he hn h₁, h₂⟩
    | writtenOut hd hw hp hin h =>
      obtain ⟨D₁, h₁, h₂⟩ := ih h
      exact ⟨D₁, .writtenOut hd hw hp hin h₁, h₂⟩

/-- Aliases are written out. -/
theorem AliasStep.written {a b : String} (h : policy.AliasStep m a b) :
    policy.WrittenStep m a b := by
  obtain ⟨d, hd, halias, hb⟩ := h
  exact ⟨d, hd, .inl halias, hb⟩

/-- Aliases do not lead a search that ends to an alias on its path. -/
theorem Visits.alias_not_mem_path {path names D D'} (h : policy.Visits m path names D D')
    {u n : String} (hu : u ∈ names) (hreach : policy.AliasReach m u n) {d : TypeDecl}
    (hd : m.lookup n = some d) (ha : policy.IsAlias d) : n ∉ path :=
  h.not_mem_path hu (Relation.ReflTransGen.mono (fun _ _ => AliasStep.written) _ _ hreach) hd
    (.inl ha)

/-- Aliases do not lead a search that ends to an alias that reaches itself. -/
theorem Visits.not_selfReaching {path names D D'} (h : policy.Visits m path names D D')
    {u n : String} (hu : u ∈ names) (hreach : policy.AliasReach m u n) :
    ¬ policy.SelfReaching m n := fun hself =>
  h.not_circular hu (Relation.ReflTransGen.mono (fun _ _ => AliasStep.written) _ _ hreach)
    (Relation.TransGen.mono (fun _ _ => AliasStep.written) _ _ hself)

/-- Every struct that a search declares has been searched. -/
theorem Visits.struct_searched {path names D D'} (h : policy.Visits m path names D D')
    {d : TypeDecl} (hd : m.lookup d.name = some d) (hs : d.IsStruct) :
    d.name ∈ D' → d.name ∈ D ∨
      ∃ path' D₁ D₂, policy.Visits m (d.name :: path') d.type.mentions D₁ D₂ := by
  induction h with
  | done => exact .inl
  | mentioned _ _ _ _ _ ih => exact ih
  -- Either the struct is followed here, or the search has come to it before or comes to it later.
  | @followed path e names D D₁ D' he hf hp hn hin h ihin ih =>
    intro hmem
    rcases ih hmem with hmem | hsearched
    · rcases List.mem_cons.mp hmem with heq | hmem
      · obtain rfl := HostModule.eq_of_name_eq he hd heq
        exact .inr ⟨path, D, D₁, hin⟩
      · exact ihin hmem
    · exact .inr hsearched
  | known _ _ _ _ ih => exact ih
  -- What is declared here is no struct.
  | @enumerated path e names D D' he henum hn h ih =>
    intro hmem
    rcases ih hmem with hmem | hsearched
    · rcases List.mem_cons.mp hmem with heq | hmem
      · obtain rfl := HostModule.eq_of_name_eq he hd heq
        exact absurd hs henum.1
      · exact .inl hmem
    · exact .inr hsearched
  | writtenOut _ _ _ _ _ ihin ih =>
    intro hmem
    rcases ih hmem with hmem | hsearched
    · exact ihin hmem
    · exact .inr hsearched

/-! ## Section 3: What a search declares, and where from -/

/-- When a search has ended, all structs to which its names lead around its path are declared. -/
theorem Settled.closed {path D : List String} (hset : policy.Settled m path D) {u : String}
    {t : TypeDecl} (h : policy.LeadsAround m path u t.name) (ht : m.lookup t.name = some t)
    (hs : t.IsStruct) {names : List String} (hu : u ∈ names)
    (hcov : ∀ d, policy.Mentions m names d → d.name ∈ D ∨ d.name ∈ path) : t.name ∈ D := by
  generalize hv : t.name = v at h
  induction h generalizing names with
  | here hmem =>
    subst hv
    rcases hcov t (.of_mem hu ht (.inl hs)) with hD | hp
    · exact hD
    · exact absurd hp hmem
  | step hmem hl _ ih =>
    obtain ⟨e, he, hent, hc⟩ := hl
    obtain rfl := HostModule.name_of_lookup he
    refine ih hc ?_ hv
    intro d hm
    rcases hent with halias | hf
    · exact hcov d (.of_alias hu he halias hm)
    · -- A struct is declared by now, as it is not on the path.
      rcases hcov e (.of_mem hu he (.inl hf.2.2)) with hD | hp
      · exact hset e he hf.2.2 hD d hm
      · exact absurd hp hmem

/-- One of the names of a search leads around its path to each struct that the search declares. -/
theorem Visits.declared_from (he : policy.embedStructs = false) {path names D D'}
    (h : policy.Visits m path names D D') {t : TypeDecl} (ht : m.lookup t.name = some t)
    (hs : t.IsStruct) :
    t.name ∈ D' → t.name ∈ D ∨ ∃ u ∈ names, policy.LeadsAround m path u t.name := by
  have htail : ∀ {path names a}, (∃ u ∈ names, policy.LeadsAround m path u t.name) →
      ∃ u ∈ a :: names, policy.LeadsAround m path u t.name := by
    rintro path names a ⟨u, hu, hl⟩
    exact ⟨u, List.mem_cons_of_mem _ hu, hl⟩
  have hinside : ∀ {path names a}, m.lookup a.name = some a → policy.IsEntered a →
      a.name ∉ path → (∃ u ∈ a.type.mentions, policy.LeadsAround m (a.name :: path) u t.name) →
      ∃ u ∈ a.name :: names, policy.LeadsAround m path u t.name := by
    rintro path names a ha hent hp ⟨u, hu, hl⟩
    exact ⟨a.name, List.mem_cons_self,
      .step hp ⟨a, ha, hent, hu⟩ (hl.mono (List.subset_cons_self _ _))⟩
  induction h with
  | done => exact .inl
  | mentioned _ _ _ _ _ ih => exact fun hx => (ih hx).imp_right htail
  | @followed path a names D D₁ D' ha hf hp _ _ _ ihin ih =>
    intro hx
    -- The struct declared is this one, or it is met inside this one or behind it.
    rcases ih hx with hx | hl
    · rcases List.mem_cons.mp hx with heq | hx
      · rw [heq]
        exact .inr ⟨a.name, List.mem_cons_self, .here hp⟩
      · exact (ihin hx).imp_right (hinside ha (.inr hf) hp)
    · exact .inr (htail hl)
  | known _ _ _ _ ih => exact fun hx => (ih hx).imp_right htail
  | @enumerated path a names D D' ha henum _ _ ih =>
    intro hx
    rcases ih hx with hx | hl
    · rcases List.mem_cons.mp hx with heq | hx
      · obtain rfl := HostModule.eq_of_name_eq ha ht heq
        exact absurd hs henum.1
      · exact .inl hx
    · exact .inr (htail hl)
  | @writtenOut path a names D D₁ D' ha hw hp _ _ ihin ih =>
    intro hx
    rcases ih hx with hx | hl
    · exact (ihin hx).imp_right (hinside ha (.inl (isAlias_of_isWrittenOut he hw)) hp)
    · exact .inr (htail hl)

/-! ## Section 4: A search that stalls has met a circle -/

/-- What is known inside the declaration `d` of a search from `root` that is at a place with the
    path `d.name :: path`, has declared `D` and has passed over the names `passed` of `d`. -/
structure Inside (policy : ExtractPolicy) (m : HostModule) (root : String) (d : TypeDecl)
    (path D passed : List String) : Prop where
  lookup_eq : m.lookup d.name = some d
  fresh : d.name ∉ path
  entered : policy.followStructs = true → policy.IsEntered d
  settled : policy.followStructs = true → policy.Settled m (d.name :: path) D
  /-- The search has come straight to here. -/
  first : ∀ t, m.lookup t.name = some t → policy.IsFollowed t → t.name ∉ D →
    policy.LeadsAround m path d.name t.name → policy.FirstPath m root t.name (d.name :: path)
  /-- Nothing is left to find behind the names passed over. -/
  passed : ∀ t, m.lookup t.name = some t → policy.IsFollowed t → ∀ c ∈ passed,
    policy.LeadsAround m (d.name :: path) c t.name → t.name ∈ D
  /-- An alias on the path leads to here through aliases, or by way of a struct that is met for the
      first time. -/
  circle : ∀ a, m.lookup a.name = some a → policy.IsAlias a → a.name ∈ d.name :: path →
    ∀ u ∈ d.type.mentions, Relation.TransGen (policy.AliasStep m) a.name u ∨
      policy.TrappedBefore m root a.name u

/-- The search passes over some of the names. -/
theorem Inside.pass (he : policy.embedStructs = false) {root : String} {d : TypeDecl}
    {path D D' passed before : List String} (hin : policy.Inside m root d path D passed)
    (h : policy.Visits m (d.name :: path) before D D') :
    policy.Inside m root d path D' (passed ++ before) where
  lookup_eq := hin.lookup_eq
  fresh := hin.fresh
  entered := hin.entered
  settled hf := (h.covers he hf (hin.settled hf)).1
  first t ht hfol hD hl := hin.first t ht hfol (fun hmem => hD (h.subset hmem)) hl
  passed t ht hfol c hc hl := by
    rcases List.mem_append.mp hc with hc | hc
    · exact h.subset (hin.passed t ht hfol c hc hl)
    · obtain ⟨hset, hcov⟩ := h.covers he hfol.2.1 (hin.settled hfol.2.1)
      exact hset.closed hl ht hfol.2.2 hc hcov
  circle := hin.circle

/-- An alias leads to its names also by way of a struct before it. -/
theorem TrappedBefore.tail {root n u w : String} (h : policy.TrappedBefore m root n u)
    (hstep : policy.AliasStep m u w) : policy.TrappedBefore m root n w := by
  obtain ⟨t, path, ht, hf, hfirst, hn, c, hc, hreach⟩ := h
  exact ⟨t, path, ht, hf, hfirst, hn, c, hc, hreach.tail hstep⟩

/-- The search goes into a declaration whose name comes next. -/
theorem Inside.enter {root : String} {d e : TypeDecl} {path D passed rest : List String}
    (hin : policy.Inside m root d path D passed)
    (hm : d.type.mentions = passed ++ e.name :: rest) (he : m.lookup e.name = some e)
    (hp : e.name ∉ d.name :: path) (hent : policy.IsEntered e)
    (hnew : policy.IsFollowed e → e.name ∉ D) :
    policy.Inside m root e (d.name :: path) D [] := by
  have hmem : e.name ∈ d.type.mentions := by
    rw [hm]
    exact List.mem_append_right _ List.mem_cons_self
  -- The search has come straight to `d`, and from there to `e`.
  have hfirst : ∀ t, m.lookup t.name = some t → policy.IsFollowed t → t.name ∉ D →
      policy.LeadsAround m (d.name :: path) e.name t.name →
      policy.FirstPath m root t.name (e.name :: d.name :: path) := by
    intro t ht hf hD hl
    have hleads : policy.Leads m d.name e.name :=
      ⟨d, hin.lookup_eq, hin.entered hf.2.1, hmem⟩
    have hd := hin.first t ht hf hD
      (.step hin.fresh hleads (hl.mono (List.subset_cons_self _ _)))
    exact .step hd hin.lookup_eq hm (fun c hc hlc => hD (hin.passed t ht hf c hc hlc)) hl
  refine ⟨he, hp, fun _ => hent, fun hf => (hin.settled hf).cons _, hfirst,
    fun t _ _ c hc => absurd hc (by simp), ?_⟩
  intro a ha halias hpath u hu
  rcases hent with hentered | hf
  · -- An alias prolongs what led to it.
    have hstep : policy.AliasStep m e.name u := ⟨e, he, hentered, hu⟩
    rcases List.mem_cons.mp hpath with heq | hpath
    · exact .inl (heq ▸ .single hstep)
    · rcases hin.circle a ha halias hpath e.name hmem with hreach | htrap
      · exact .inl (hreach.tail hstep)
      · exact .inr (htrap.tail hstep)
  · -- A struct is met for the first time here, behind all aliases of the path.
    rcases List.mem_cons.mp hpath with heq | hpath
    · obtain rfl := HostModule.eq_of_name_eq he ha heq
      exact absurd hf.2.2 halias.1
    · exact .inr ⟨e, d.name :: path, he, hf, hfirst e he hf (hnew hf) (.here hp), hpath, u, hu,
        .refl⟩

/-- A search inside a declaration that stalls does so on a circle. -/
theorem Stalls.circular (he : policy.embedStructs = false) {root n : String}
    {path names D : List String} (h : policy.Stalls m path names D n) :
    ∀ {d X passed}, path = d.name :: X → d.type.mentions = passed ++ names →
      policy.Inside m root d X D passed →
      policy.SelfReaching m n ∨ policy.Trapped m root n := by
  -- Every place of the search lies inside some declaration, at the root inside the root.
  induction h with
  | @again path e names D hd hw hp =>
    rintro d X passed rfl hm hin
    refine hin.circle e hd (isAlias_of_isWrittenOut he hw) hp e.name ?_
    rw [hm]
    exact List.mem_append_right _ List.mem_cons_self
  | @writtenOut path e names D n hd hw hp _ ih =>
    rintro d X passed rfl hm hin
    have halias := isAlias_of_isWrittenOut he hw
    exact ih rfl rfl (hin.enter hm hd hp (.inl halias) fun hf => absurd hf.2.2 halias.1)
  | @followed path e names D n hd hf hp hn _ ih =>
    rintro d X passed rfl hm hin
    exact ih rfl rfl (hin.enter hm hd hp (.inr hf) fun _ => hn)
  | @later path before names D D₁ n hb _ ih =>
    rintro d X passed rfl hm hin
    exact ih rfl (by rw [hm, List.append_assoc]) (hin.pass he hb)

/-- A search stalls on a name it has met. -/
theorem Stalls.met (he : policy.embedStructs = false) {n : String} {path names D : List String}
    (h : policy.Stalls m path names D n) :
    (∃ a, m.lookup n = some a ∧ policy.IsAlias a) ∧
      ∃ a ∈ names, Relation.ReflTransGen (policy.Leads m) a n := by
  induction h with
  -- The name that is met again is that of an alias, as structs are not written out here.
  | @again path e names D hd hw hp =>
    exact ⟨⟨e, hd, isAlias_of_isWrittenOut he hw⟩, e.name, List.mem_cons_self, .refl⟩
  | @writtenOut path e names D n hd hw hp _ ih =>
    obtain ⟨halias, a, ha, hreach⟩ := ih
    exact ⟨halias, e.name, List.mem_cons_self,
      .head ⟨e, hd, .inl (isAlias_of_isWrittenOut he hw), ha⟩ hreach⟩
  | @followed path e names D n hd hf hp hn _ ih =>
    obtain ⟨halias, a, ha, hreach⟩ := ih
    exact ⟨halias, e.name, List.mem_cons_self, .head ⟨e, hd, .inr hf, ha⟩ hreach⟩
  | @later path before names D D₁ n hb _ ih =>
    obtain ⟨halias, a, ha, hreach⟩ := ih
    exact ⟨halias, a, List.mem_append_right _ ha, hreach⟩

/-- At its root a search knows what it needs. -/
theorem inside_root (he : policy.embedStructs = false) {root : TypeDecl}
    (hd : m.lookup root.name = some root) (hs : root.IsStruct) :
    policy.Inside m root.name root [] [] [] where
  lookup_eq := hd
  fresh := List.not_mem_nil
  entered hf := .inr ⟨he, hf, hs⟩
  settled _ _ _ _ hD := absurd hD (by simp)
  first _ _ _ _ _ := .root
  passed _ _ _ c hc := absurd hc (by simp)
  circle a ha halias hmem := by
    obtain rfl := HostModule.eq_of_name_eq hd ha (List.mem_singleton.mp hmem)
    exact absurd hs halias.1

/-! ## Section 5: A search that ends has met no trap -/

/-- All structs to which a declared struct leads around the path are declared. -/
theorem Settled.closed_struct {path D : List String} (hset : policy.Settled m path D)
    {d t : TypeDecl} (h : policy.LeadsAround m path d.name t.name)
    (ht : m.lookup t.name = some t) (hts : t.IsStruct) (hd : m.lookup d.name = some d)
    (hs : d.IsStruct) (hD : d.name ∈ D) : t.name ∈ D := by
  refine hset.closed h ht hts (List.mem_singleton_self _) ?_
  intro e hm
  rcases hm.cons_declarable hd (.inl hs) with rfl | hm
  · exact .inl hD
  · obtain ⟨_, _, a, ha, _⟩ := hm
    exact absurd ha (by simp)

/-- An enumeration leads to no struct. -/
theorem IsEnum.not_leadsAround {d t : TypeDecl} (henum : policy.IsEnum d)
    (hd : m.lookup d.name = some d) (ht : m.lookup t.name = some t) (hs : t.IsStruct)
    {path : List String} : ¬ policy.LeadsAround m path d.name t.name := by
  intro h
  generalize hv : t.name = v at h
  cases h with
  | here _ =>
    obtain rfl := HostModule.eq_of_name_eq hd ht hv
    exact henum.1 hs
  | step _ hl _ =>
    obtain ⟨e, he, hent, _⟩ := hl
    obtain rfl := HostModule.lookup_inj hd he
    rcases hent with halias | hf
    · exact policy.not_isDeclarable_of_isAlias halias (.inr henum)
    · exact henum.1 hf.2.2

/-- A search that ends has been everywhere on the way to a struct that it meets. -/
theorem FirstPath.searched (he : policy.embedStructs = false) {root : TypeDecl} {D₀ : List String}
    (hroot : m.lookup root.name = some root)
    (hv : policy.Visits m [root.name] root.type.mentions [] D₀) {t : TypeDecl}
    (ht : m.lookup t.name = some t) (hf : policy.IsFollowed t) {path : List String}
    (h : policy.FirstPath m root.name t.name path) :
    ∀ {d X}, path = d.name :: X → m.lookup d.name = some d →
      ∃ D D', policy.Visits m path d.type.mentions D D' ∧ policy.Settled m path D ∧
        t.name ∉ D := by
  induction h with
  | root =>
    rintro d X hpath hd
    obtain ⟨hname, _⟩ := List.cons.inj hpath
    obtain rfl := HostModule.eq_of_name_eq hroot hd hname.symm
    exact ⟨[], D₀, hv, fun _ _ _ hD => absurd hD (by simp), by simp⟩
  | @step a e path before b after _ ha hm hbefore hb ih =>
    rintro d X hpath hd
    obtain ⟨rfl, _⟩ := List.cons.inj hpath
    obtain rfl := HostModule.name_of_lookup ha
    obtain ⟨D, D', hvisits, hset, htD⟩ := ih rfl ha
    rw [hm] at hvisits
    -- Passing over the names before `b` does not declare the target, since none leads to it.
    obtain ⟨D₁, hpassed, hrest⟩ := hvisits.split
    have hset₁ := (hpassed.covers he hf.2.1 hset).1
    have htD₁ : t.name ∉ D₁ := by
      intro hmem
      rcases hpassed.declared_from he ht hf.2.2 hmem with hmem | ⟨c, hc, hl⟩
      · exact htD hmem
      · exact hbefore c hc hl
    -- As the target is still ahead, the name that leads to it has to be entered.
    rcases hrest.head_cases hd with ⟨hs, hk⟩ | henum | ⟨_, D₂, hin⟩
    · rcases hk hf.2.1 with hp | hD
      · exact absurd hp hb.not_mem
      · exact absurd (hset₁.closed_struct hb ht hf.2.2 hd hs hD) htD₁
    · exact absurd hb (henum.not_leadsAround hd ht hf.2.2)
    · exact ⟨D₁, D₂, hin, hset₁.cons _, htD₁⟩

/-- A search from the root that ends has met no trapped alias. -/
theorem Trapped.not_visits (he : policy.embedStructs = false) {root : TypeDecl} {D₀ : List String}
    {n : String} {a : TypeDecl} (h : policy.Trapped m root.name n) (ha : m.lookup n = some a)
    (halias : policy.IsAlias a) (hroot : m.lookup root.name = some root) :
    ¬ policy.Visits m [root.name] root.type.mentions [] D₀ := by
  intro hv
  obtain ⟨t, path, ht, hf, hfirst, hn, c, hc, hreach⟩ := h
  -- The struct of the trap is searched with the alias on the path, and aliases lead to it there.
  obtain ⟨D, D', hvisits, _, _⟩ := hfirst.searched he hroot hv ht hf rfl ht
  exact hvisits.alias_not_mem_path hc hreach ha halias (List.mem_cons_of_mem _ hn)

/-- A name is met by way of aliases from a struct that can be reached. -/
theorem MetFrom.reached {root : TypeDecl} (hd : m.lookup root.name = some root)
    (hs : root.IsStruct) {n : String} (h : policy.MetFrom m root n) :
    ∃ d, m.lookup d.name = some d ∧ d.IsStruct ∧
      (d = root ∨ policy.followStructs = true ∧ policy.Reached m root d) ∧
      ∃ a ∈ d.type.mentions, policy.AliasReach m a n := by
  obtain ⟨a, ha, hreach⟩ := h
  induction hreach with
  | refl => exact ⟨root, hd, hs, .inl rfl, a, ha, .refl⟩
  | tail _ hl ih =>
    obtain ⟨d, hlook, hds, hroot, b, hb, hreach⟩ := ih
    obtain ⟨e, hlook', hent, hc⟩ := hl
    -- An alias goes on under the same struct, and a struct that is followed is the next one.
    rcases hent with halias | hf
    · exact ⟨d, hlook, hds, hroot, b, hb, hreach.tail ⟨e, hlook', halias, hc⟩⟩
    · obtain rfl := HostModule.name_of_lookup hlook'
      have hmentions : policy.Mentions m d.type.mentions e :=
        ⟨hlook', .inl hf.2.2, b, hb, hreach⟩
      have hreached : policy.Reached m root d := by
        rcases hroot with rfl | ⟨_, hreached⟩
        · exact .root
        · exact hreached
      exact ⟨e, hlook', hf.2.2, .inr ⟨hf.2.1, hreached.of_isStruct hds hmentions⟩, _, hc, .refl⟩

/-- A walk that succeeds meets no alias that reaches itself. -/
theorem RootWalk.not_selfReaching (he : policy.embedStructs = false) {root : HostType}
    (w : policy.RootWalk m root) (hs : w.decl.IsStruct) {n : String}
    (h : policy.MetFrom m w.decl n) : ¬ policy.SelfReaching m n := by
  have hvisits := w.visits_mentions hs
  obtain ⟨d, hd, hds, hroot, a, ha, hreach⟩ := h.reached w.lookup_eq hs
  -- Wherever the aliases start, the names there have been searched.
  rcases hroot with rfl | ⟨hf, hreached⟩
  · exact hvisits.not_selfReaching ha hreach
  · rcases List.mem_cons.mp (w.mem_declared_of_reached he hf hreached) with heq | hmem
    · have hroot := w.lookup_eq
      obtain rfl := HostModule.eq_of_name_eq hd hroot heq.symm
      exact hvisits.not_selfReaching ha hreach
    · rcases hvisits.struct_searched hd hds hmem with hmem | ⟨path, D₁, D₂, hsearched⟩
      · exact absurd hmem (by simp)
      · exact hsearched.not_selfReaching ha hreach

/-! ## Section 6: Exactly the circles -/

/-- A walk from the root cannot write the alias `n` where it meets it: the alias reaches itself or
    is trapped. -/
def Circular (policy : ExtractPolicy) (m : HostModule) (root : TypeDecl) (n : String) : Prop :=
  (∃ a, m.lookup n = some a ∧ policy.IsAlias a) ∧ policy.MetFrom m root n ∧
    (policy.SelfReaching m n ∨ policy.Trapped m root.name n)

/-- Without embedding, a walk from a struct fails with a circle only at a circular alias, and it
    does not succeed when there is one. -/
theorem cyclicType_iff_circular (he : policy.embedStructs = false) {root : HostType} {d : TypeDecl}
    (hroot : root.deref = .named d.name) (hd : m.lookup d.name = some d) (hs : d.IsStruct) :
    (∀ n, extract m root policy = .error (.cyclicType n) → policy.Circular m d n) ∧
      (∀ graph, extract m root policy = .ok graph → ∀ n, ¬ policy.Circular m d n) := by
  constructor
  · intro n h
    obtain ⟨fields, hs'⟩ := hs
    have hstalls := (extract_struct_error hroot hd hs' h).stalls rfl
    rw [← mentions_struct hs'] at hstalls
    obtain ⟨halias, hmet⟩ := hstalls.met he
    exact ⟨halias, hmet, hstalls.circular he rfl rfl (inside_root he hd ⟨fields, hs'⟩)⟩
  · intro graph h n hcirc
    obtain ⟨w, -⟩ := extract_eq_ok h
    obtain rfl : w.decl = d := w.decl_eq hroot hd
    obtain ⟨⟨a, ha, halias⟩, hmet, hself | htrap⟩ := hcirc
    · -- An alias that reaches itself or is trapped would have stopped the walk.
      exact w.not_selfReaching he hs hmet hself
    · exact htrap.not_visits he ha halias w.lookup_eq (w.visits_mentions hs)

/-- A struct whose children are a list of such structs, and a second one that holds such a list. -/
def holderModule : HostModule where
  types := [
    ⟨"Holder", .struct [⟨"Items", .named "List", none⟩], none, none⟩,
    ⟨"List", .slice (.named "Node"), none, none⟩,
    ⟨"Node", .struct [⟨"Children", .named "List", none⟩], none, none⟩]

/-- The list is trapped behind the holder. -/
theorem circular_list :
    extract holderModule (.named "Holder") following = .error (.cyclicType "List") ∧
      following.Circular holderModule
        ⟨"Holder", .struct [⟨"Items", .named "List", none⟩], none, none⟩ "List" := by
  have h : extract holderModule (.named "Holder") following = .error (.cyclicType "List") := by
    cbv
  exact ⟨h, (cyclicType_iff_circular rfl rfl rfl ⟨_, rfl⟩).1 "List" h⟩

/-- A walk may fail with an alias that reaches itself through a struct only. -/
theorem cyclicType_of_trapped_list :
    extract holderModule (.named "Holder") following = .error (.cyclicType "List") ∧
      ¬ following.SelfReaching holderModule "List" := by
  refine ⟨by cbv, ?_⟩
  intro hself
  obtain ⟨c, ⟨d, hd, _, hc⟩, hback⟩ := Relation.TransGen.head'_iff.mp hself
  cases hd
  -- The list mentions the struct alone, and there aliases end.
  obtain rfl : c = "Node" := List.mem_singleton.mp hc
  have hstruct : ¬ following.IsAlias
      ⟨"Node", .struct [⟨"Children", .named "List", none⟩], none, none⟩ :=
    fun halias => halias.1 ⟨_, rfl⟩
  exact absurd (following.eq_of_aliasReach holderModule rfl hstruct hback) (by decide)

end ExtractPolicy

end TypeExport
