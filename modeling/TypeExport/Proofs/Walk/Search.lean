import TypeExport.Proofs.Walk.Root

/-! # The Search behind a Walk

    Which declarations a walk makes, and whether it comes back to a name that it cannot write, is
    decided by names.  `Visits` and `Stalls` keep of the derivations of a walk what concerns names:
    a list of names that stand in visible places is visited in its order, from a place with a path,
    and a list of declared names grows.

    A declaration is met in one of two ways.  It is written out where its name stands, and then its
    shape is searched with the name on the path; or only its name is written, and then its shape is
    searched when the name is met for the first time. -/

namespace TypeExport

namespace ExtractPolicy

variable (policy : ExtractPolicy) (m : HostModule)

/-! ## Section 1: Searches -/

/-- The shape of the declaration takes the place of its name. -/
def IsWrittenOut (d : TypeDecl) : Prop :=
  policy.IsAlias d ∨ (policy.embedStructs = true ∧ d.IsStruct)

/-- The declaration is a struct that is declared where it is met for the first time. -/
def IsFollowed (d : TypeDecl) : Prop :=
  policy.embedStructs = false ∧ policy.followStructs = true ∧ d.IsStruct

/-- `Visits path names D D'`: from a place with this path all of `names` are visited, and the
    declared names `D` become `D'`. -/
inductive Visits : List String → List String → List String → List String → Prop
  | done {path D} : Visits path [] D D
  /-- A struct of which only the name is written. -/
  | mentioned {path d names D D'} (hd : m.lookup d.name = some d) (hs : d.IsStruct)
    (he : policy.embedStructs = false)
    (hk : policy.followStructs = true → d.name ∈ path ∨ d.name ∈ D)
    (h : Visits path names D D') : Visits path (d.name :: names) D D'
  | followed {path d names D D₁ D'} (hd : m.lookup d.name = some d) (hf : policy.IsFollowed d)
    (hp : d.name ∉ path) (hn : d.name ∉ D) (hin : Visits (d.name :: path) d.type.mentions D D₁)
    (h : Visits path names (d.name :: D₁) D') : Visits path (d.name :: names) D D'
  | known {path d names D D'} (hd : m.lookup d.name = some d) (he : policy.IsEnum d)
    (hk : d.name ∈ D) (h : Visits path names D D') : Visits path (d.name :: names) D D'
  | enumerated {path d names D D'} (hd : m.lookup d.name = some d) (he : policy.IsEnum d)
    (hn : d.name ∉ D) (h : Visits path names (d.name :: D) D') :
    Visits path (d.name :: names) D D'
  | writtenOut {path d names D D₁ D'} (hd : m.lookup d.name = some d)
    (hw : policy.IsWrittenOut d) (hp : d.name ∉ path)
    (hin : Visits (d.name :: path) d.type.mentions D D₁) (h : Visits path names D₁ D') :
    Visits path (d.name :: names) D D'

/-- `Stalls path names D n`: visiting `names` from a place with this path comes to the name `n` of
    a declaration that has to be written out and is on the path already. -/
inductive Stalls : List String → List String → List String → String → Prop
  | again {path d names D} (hd : m.lookup d.name = some d) (hw : policy.IsWrittenOut d)
    (hp : d.name ∈ path) : Stalls path (d.name :: names) D d.name
  | writtenOut {path d names D n} (hd : m.lookup d.name = some d) (hw : policy.IsWrittenOut d)
    (hp : d.name ∉ path) (h : Stalls (d.name :: path) d.type.mentions D n) :
    Stalls path (d.name :: names) D n
  | followed {path d names D n} (hd : m.lookup d.name = some d) (hf : policy.IsFollowed d)
    (hp : d.name ∉ path) (hn : d.name ∉ D) (h : Stalls (d.name :: path) d.type.mentions D n) :
    Stalls path (d.name :: names) D n
  | later {path before names D D₁ n} (hb : policy.Visits m path before D D₁)
    (h : Stalls path names D₁ n) : Stalls path (before ++ names) D n

variable {policy : ExtractPolicy} {m : HostModule}

/-- What is declared stays declared. -/
theorem Visits.subset {path names D D'} (h : policy.Visits m path names D D') : D ⊆ D' := by
  induction h with
  | done => exact List.Subset.refl _
  | mentioned _ _ _ _ _ ih => exact ih
  | followed _ _ _ _ _ _ ihin ih =>
    exact List.Subset.trans ihin (List.Subset.trans (List.subset_cons_self _ _) ih)
  | known _ _ _ _ ih => exact ih
  | enumerated _ _ _ _ ih => exact List.Subset.trans (List.subset_cons_self _ _) ih
  | writtenOut _ _ _ _ _ ihin ih => exact List.Subset.trans ihin ih

/-- What a search does with the first of its names. -/
theorem Visits.head_cases {path names D D'} {d : TypeDecl} (hd : m.lookup d.name = some d)
    (h : policy.Visits m path (d.name :: names) D D') :
    (d.IsStruct ∧ (policy.followStructs = true → d.name ∈ path ∨ d.name ∈ D)) ∨
      policy.IsEnum d ∨
      (d.name ∉ path ∧ ∃ D₁, policy.Visits m (d.name :: path) d.type.mentions D D₁) := by
  generalize hn : d.name :: names = all at h
  cases h with
  | done => exact absurd hn (by simp)
  | mentioned he hs _ hk _ =>
    -- The declaration that the search has met is the one that is looked up.
    obtain rfl := HostModule.eq_of_name_eq he hd (List.cons.inj hn).1
    exact .inl ⟨hs, hk⟩
  | followed he _ hp _ hin _ =>
    obtain rfl := HostModule.eq_of_name_eq he hd (List.cons.inj hn).1
    exact .inr (.inr ⟨hp, _, hin⟩)
  | known he henum _ _ =>
    obtain rfl := HostModule.eq_of_name_eq he hd (List.cons.inj hn).1
    exact .inr (.inl henum)
  | enumerated he henum _ _ =>
    obtain rfl := HostModule.eq_of_name_eq he hd (List.cons.inj hn).1
    exact .inr (.inl henum)
  | writtenOut he _ hp hin _ =>
    obtain rfl := HostModule.eq_of_name_eq he hd (List.cons.inj hn).1
    exact .inr (.inr ⟨hp, _, hin⟩)

/-! ## Section 2: From walks to searches -/

/-- What has a leaf for its node mentions nothing. -/
theorem mentions_eq_nil_of_leaf {t : HostType} {site : String} {n : TypeNode}
    (h : leaf site t = .ok n) : t.mentions = [] := by
  cases t <;> first | rfl | exact absurd h (by simp [leaf])

/-- What has an error for its node never fails with a circle. -/
theorem leaf_ne_cyclicType {t : HostType} {site name : String} :
    leaf site t ≠ .error (.cyclicType name) := by
  cases t <;> simp [leaf]

-- A search takes names off the front of a list.  What a type mentions is only the beginning of it,
-- so the names behind are carried along in both statements.

mutual

/-- Resolving a type visits what it mentions. -/
theorem Resolves.visits {path : List String} {field : Option HostField} {t : HostType}
    {s s' : Progress} {n : TypeNode} : policy.Resolves m path field t s n s' →
    ∀ {names D'}, policy.Visits m path names s'.declared D' →
      policy.Visits m path (t.mentions ++ names) s.declared D'
  | .leaf h, names, D', hrest => by
    rw [mentions_eq_nil_of_leaf h]
    exact hrest
  -- Shapes are only searched for what they mention, one part after the other.
  | .slice h, names, D', hrest => h.visits hrest
  | .array h, names, D', hrest => h.visits hrest
  | .map hk hv, names, D', hrest => by
    rw [HostType.mentions, List.append_assoc]
    exact hk.visits (hv.visits hrest)
  | .pointer h, names, D', hrest => h.visits hrest
  | .inline _ h, names, D', hrest => by
    rw [HostType.mentions, fieldMentions_eq]
    exact h.visits hrest
  | .promoted _ h, names, D', hrest => by
    rw [HostType.mentions, fieldMentions_eq]
    exact h.visits hrest
  -- Where a declaration is entered, its own mentions are searched first, to their end.
  | .embedded hd hs he hp h, names, D', hrest => by
    have hin := h.visits .done
    rw [List.append_nil, ← mentions_struct hs] at hin
    exact .writtenOut hd (.inr ⟨he, _, hs⟩) hp hin hrest
  | .mentioned hd hs he hk, names, D', hrest => .mentioned hd hs he hk hrest
  | .followed hd hs he hf hp hn h, names, D', hrest => by
    have hin := h.visits .done
    rw [List.append_nil, ← mentions_struct hs] at hin
    exact .followed hd ⟨he, hf, _, hs⟩ hp hn hin hrest
  | .known hd he hk, names, D', hrest => .known hd he hk hrest
  | .enumerated hd hs hc hn _, names, D', hrest =>
    .enumerated hd ⟨hs, by rw [hc]; rfl⟩ hn hrest
  | .shape hd ha hp h, names, D', hrest => by
    have hin := h.visits .done
    rw [List.append_nil] at hin
    exact .writtenOut hd (.inl ha) hp hin hrest

/-- Resolving several places visits what they mention. -/
theorem ResolvesAll.visits {path : List String} {ps : List Position} {s s' : Progress}
    {ns : List TypeNode} : policy.ResolvesAll m path ps s ns s' →
    ∀ {names D'}, policy.Visits m path names s'.declared D' →
      policy.Visits m path (positionMentions ps ++ names) s.declared D'
  | .nil, names, D', hrest => hrest
  | .cons h hs, names, D', hrest => by
    rw [positionMentions, List.flatMap_cons, List.append_assoc]
    exact h.visits (hs.visits hrest)

end

/-- Resolving all places visits exactly what they mention. -/
theorem ResolvesAll.visits_all {path : List String} {ps : List Position} {s s' : Progress}
    {ns : List TypeNode} (h : policy.ResolvesAll m path ps s ns s') :
    policy.Visits m path (positionMentions ps) s.declared s'.declared := by
  have hv := h.visits .done
  rwa [List.append_nil] at hv

/-- Resolving a type visits exactly what it mentions. -/
theorem Resolves.visits_all {path : List String} {field : Option HostField} {t : HostType}
    {s s' : Progress} {n : TypeNode} (h : policy.Resolves m path field t s n s') :
    policy.Visits m path t.mentions s.declared s'.declared := by
  have hv := h.visits .done
  rwa [List.append_nil] at hv

/-- More names behind those of a search do not matter to where it stalls. -/
theorem Stalls.append {path names D n} (h : policy.Stalls m path names D n) (more : List String) :
    policy.Stalls m path (names ++ more) D n := by
  induction h with
  | again hd hw hp => exact .again hd hw hp
  | writtenOut hd hw hp h ih => exact .writtenOut hd hw hp h
  | followed hd hf hp hn h ih => exact .followed hd hf hp hn h
  | later hb h ih =>
    rw [List.append_assoc]
    exact .later hb ih

-- Two rules fail with a circle by themselves, and all others hand on an error from inside.

mutual

/-- A walk that fails with a circle comes from a search that stalls. -/
theorem Fails.stalls {path : List String} {field : Option HostField} {t : HostType} {s : Progress}
    {e : ExtractError} {name : String} : policy.Fails m path field t s e → e = .cyclicType name →
    policy.Stalls m path t.mentions s.declared name
  | .leaf h, he => absurd (he ▸ h) leaf_ne_cyclicType
  | .slice h, he => h.stalls he
  | .array h, he => h.stalls he
  | .key h, he => (h.stalls he).append _
  | .value hk h, he => .later hk.visits_all (h.stalls he)
  | .pointer h, he => h.stalls he
  | .struct h, he => by
    rw [HostType.mentions, fieldMentions_eq]
    exact h.stalls he
  | .embeddedAgain hd hs he hp, h => by
    cases h
    exact .again hd (.inr ⟨he, hs⟩) hp
  -- The walk has failed inside, where the path is longer.
  | .embedded hd hs he hp h, hcyc => by
    have hin := h.stalls hcyc
    rw [← mentions_struct hs] at hin
    exact .writtenOut hd (.inr ⟨he, _, hs⟩) hp hin
  | .followed hd hs he hf hp hn h, hcyc => by
    have hin := h.stalls hcyc
    rw [← mentions_struct hs] at hin
    exact .followed hd ⟨he, hf, _, hs⟩ hp hn hin
  | .shapeAgain hd ha hp, h => by
    cases h
    exact .again hd (.inl ha) hp
  | .shape hd ha hp h, he => .writtenOut hd (.inl ha) hp (h.stalls he)

/-- The same for several places. -/
theorem FailsAll.stalls {path : List String} {ps : List Position} {s : Progress}
    {e : ExtractError} {name : String} : policy.FailsAll m path ps s e → e = .cyclicType name →
    policy.Stalls m path (positionMentions ps) s.declared name
  | .head h, he => by
    rw [positionMentions, List.flatMap_cons]
    exact (h.stalls he).append _
  | .tail h hs, he => by
    rw [positionMentions, List.flatMap_cons]
    exact .later h.visits_all (hs.stalls he)

end

/-! ## Section 3: A search that ends comes back to nothing that it writes out -/

/-- The name `a` stands for a declaration that is written out, and this mentions the name `b`. -/
def WrittenStep (policy : ExtractPolicy) (m : HostModule) (a b : String) : Prop :=
  ∃ d, m.lookup a = some d ∧ policy.IsWrittenOut d ∧ b ∈ d.type.mentions

/-- A declaration that is written out is neither a struct that is only mentioned nor an
    enumeration. -/
theorem IsWrittenOut.not_isEnum {d : TypeDecl} (h : policy.IsWrittenOut d) :
    ¬ policy.IsEnum d := by
  rcases h with halias | ⟨_, hs⟩
  · exact fun henum => policy.not_isDeclarable_of_isAlias halias (.inr henum)
  · exact fun henum => henum.1 hs

/-- What is written out among the names of a search is not on the path, and is searched. -/
theorem Visits.writtenOut_searched {path names D D'} (h : policy.Visits m path names D D')
    {d : TypeDecl} (hd : m.lookup d.name = some d) (hw : policy.IsWrittenOut d) :
    d.name ∈ names →
      d.name ∉ path ∧ ∃ D₁ D₂, policy.Visits m (d.name :: path) d.type.mentions D₁ D₂ := by
  -- Where a search does anything else with a name, the name is another one.
  have hnot : ∀ {e : TypeDecl}, m.lookup e.name = some e → ¬ policy.IsWrittenOut e →
      d.name ≠ e.name := by
    intro e he hne heq
    obtain rfl := HostModule.eq_of_name_eq hd he heq.symm
    exact hne hw
  have hstruct : ∀ {e : TypeDecl}, e.IsStruct → policy.embedStructs = false →
      ¬ policy.IsWrittenOut e := by
    rintro e hs he (halias | ⟨he', _⟩)
    · exact halias.1 hs
    · exact absurd (he ▸ he') (by simp)
  induction h with
  | done => exact fun hmem => absurd hmem (by simp)
  | mentioned he hs hembed _ _ ih =>
    intro hmem
    exact ih ((List.mem_cons.mp hmem).resolve_left (hnot he (hstruct hs hembed)))
  | followed he hf _ _ _ _ _ ih =>
    intro hmem
    exact ih ((List.mem_cons.mp hmem).resolve_left (hnot he (hstruct hf.2.2 hf.1)))
  | known he henum _ _ ih =>
    intro hmem
    exact ih ((List.mem_cons.mp hmem).resolve_left (hnot he fun hw' => hw'.not_isEnum henum))
  | enumerated he henum _ _ ih =>
    intro hmem
    exact ih ((List.mem_cons.mp hmem).resolve_left (hnot he fun hw' => hw'.not_isEnum henum))
  | writtenOut he _ hp hin _ _ ih =>
    intro hmem
    rcases List.mem_cons.mp hmem with heq | hmem
    · obtain rfl := HostModule.eq_of_name_eq he hd heq
      exact ⟨hp, _, _, hin⟩
    · exact ih hmem

/-- Writing out does not lead a search that ends to anything on its path. -/
theorem Visits.not_mem_path {path names D D'} (h : policy.Visits m path names D D')
    {u n : String} (hu : u ∈ names) (hreach : Relation.ReflTransGen (policy.WrittenStep m) u n)
    {d : TypeDecl} (hd : m.lookup n = some d) (hw : policy.IsWrittenOut d) : n ∉ path := by
  induction hreach using Relation.ReflTransGen.head_induction_on generalizing path names D D' with
  | refl =>
    obtain rfl := HostModule.name_of_lookup hd
    exact (h.writtenOut_searched hd hw hu).1
  | head hstep _ ih =>
    obtain ⟨e, he, hwritten, hc⟩ := hstep
    obtain rfl := HostModule.name_of_lookup he
    -- The search goes in with a longer path, and does not meet the path there either.
    obtain ⟨_, D₁, D₂, hin⟩ := h.writtenOut_searched he hwritten hu
    exact fun hmem => ih hin hc (List.mem_cons_of_mem _ hmem)

/-- Writing out does not lead a search that ends to anything that comes back to itself. -/
theorem Visits.not_circular {path names D D'} (h : policy.Visits m path names D D')
    {u n : String} (hu : u ∈ names)
    (hreach : Relation.ReflTransGen (policy.WrittenStep m) u n) :
    ¬ Relation.TransGen (policy.WrittenStep m) n n := by
  intro hself
  induction hreach using Relation.ReflTransGen.head_induction_on generalizing path names D D' with
  | refl =>
    obtain ⟨c, ⟨d, hd, hw, hc⟩, hback⟩ := Relation.TransGen.head'_iff.mp hself
    obtain rfl := HostModule.name_of_lookup hd
    -- Inside the declaration its own name is on the path.
    obtain ⟨_, D₁, D₂, hin⟩ := h.writtenOut_searched hd hw hu
    exact hin.not_mem_path hc hback hd hw List.mem_cons_self
  | head hstep _ ih =>
    obtain ⟨e, he, hwritten, hc⟩ := hstep
    obtain rfl := HostModule.name_of_lookup he
    obtain ⟨_, D₁, D₂, hin⟩ := h.writtenOut_searched he hwritten hu
    exact ih hin hc

/-- Under a root that is a struct stands what the struct mentions. -/
theorem RootWalk.visits_mentions {root : HostType} (w : policy.RootWalk m root)
    (hs : w.decl.IsStruct) :
    policy.Visits m [w.decl.name] w.decl.type.mentions [] w.inner.declared := by
  obtain ⟨fields, hs⟩ := hs
  have hvisits := w.resolves.visits_all
  rwa [HostModule.rootPositions, hs, ← mentions_struct hs] at hvisits

end ExtractPolicy

end TypeExport
