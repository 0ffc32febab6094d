import TypeExport.Proofs.Walk.Replay
import TypeExport.Proofs.Walk.Unfolding

/-! # Embedding is Unfolding of Following

    A walk that embeds structs goes through a struct each time it meets it, and a walk that follows
    structs goes through it once.  Run side by side they find the same things in the same order:
    when the first one comes to a struct for the second time, all that it finds there it has found
    before.

    `Tracks` is the relation between the two states.  The names found with structs embedded are
    those found with structs followed, without the names of structs; the same enumerations are
    declared; and whatever is inside a struct that has been followed has been found.  Every
    derivation of the first walk then gives one of the second, which is computed. -/

namespace TypeExport

/-! ## Section 1: What is found in a type -/

/-- Something that is found on a walk with structs embedded. -/
inductive Finding where
  /-- An enumeration, by its host name. -/
  | enum (name : String)
  /-- An anonymous struct, by its target name. -/
  | anonymous (name : String)

/-- The finding has its node. -/
def Progress.Has (s : Progress) : Finding → Prop
  | .enum name => name ∈ s.declared
  | .anonymous name => name ∈ s.names

theorem Progress.Has.put {s : Progress} {x : Finding} (h : s.Has x) (node : TypeNode) :
    (s.put node).Has x := by
  cases x with
  | enum => exact h
  | anonymous => exact s.names_subset_put node h

theorem Progress.Has.declare {s : Progress} {x : Finding} (h : s.Has x) (name : String)
    (node : TypeNode) : (s.declare name node).Has x := by
  cases x with
  | enum => exact List.mem_cons_of_mem _ h
  | anonymous => exact s.names_subset_put node h

/-- What has its node depends on names only. -/
theorem Progress.Has.of_eq {s s' : Progress} {x : Finding} (h : s.Has x)
    (hnames : s'.names = s.names) (hdeclared : s'.declared = s.declared) : s'.Has x := by
  cases x with
  | enum name =>
    show name ∈ s'.declared
    rw [hdeclared]
    exact h
  | anonymous name =>
    show name ∈ s'.names
    rw [hnames]
    exact h

namespace ExtractPolicy

/-- With structs embedded, this is found in the type in the field, or in no field. -/
inductive Finds (policy : ExtractPolicy) (m : HostModule) :
    Option HostField → HostType → Finding → Prop
  | slice {field elem x} (h : Finds policy m none elem x) : Finds policy m field (.slice elem) x
  | array {field len elem x} (h : Finds policy m none elem x) :
    Finds policy m field (.array len elem) x
  | key {field key value x} (h : Finds policy m none key x) :
    Finds policy m field (.map key value) x
  | value {field key value x} (h : Finds policy m none value x) :
    Finds policy m field (.map key value) x
  | pointer {field elem x} (h : Finds policy m field elem x) :
    Finds policy m field (.pointer elem) x
  | inside {field fields f x} (hf : f ∈ visibleFields fields)
    (h : Finds policy m (some f) f.type x) : Finds policy m field (.struct fields) x
  | promoted {f fields namer} (hn : policy.anonNamer = some namer) :
    Finds policy m (some f) (.struct fields) (.anonymous (namer f))
  | struct {field name d fields f x} (hd : m.lookup name = some d)
    (hs : d.type.deref = .struct fields) (hf : f ∈ visibleFields fields)
    (h : Finds policy m (some f) f.type x) : Finds policy m field (.named name) x
  | enum {field name d} (hd : m.lookup name = some d) (he : policy.IsEnum d) :
    Finds policy m field (.named name) (.enum name)
  | shape {field name d x} (hd : m.lookup name = some d) (ha : policy.IsAlias d)
    (h : Finds policy m none d.type x) : Finds policy m field (.named name) x

variable {policy : ExtractPolicy} {m : HostModule}

/-- In a struct there is what is in its visible fields. -/
theorem Finds.of_struct {field : Option HostField} {d : TypeDecl} {fields : List HostField}
    {x : Finding} (h : policy.Finds m field (.named d.name) x) (hd : m.lookup d.name = some d)
    (hs : d.type.deref = .struct fields) :
    ∃ f ∈ visibleFields fields, policy.Finds m (some f) f.type x := by
  cases h with
  | struct hd' hs' hf h =>
    obtain rfl := HostModule.lookup_inj hd hd'
    obtain rfl := HostType.struct.inj (hs.symm.trans hs')
    exact ⟨_, hf, h⟩
  | enum hd' henum =>
    obtain rfl := HostModule.lookup_inj hd hd'
    exact absurd ⟨_, hs⟩ henum.1
  | shape hd' ha _ =>
    obtain rfl := HostModule.lookup_inj hd hd'
    exact absurd ⟨_, hs⟩ ha.1

/-- In an enumeration there is only itself. -/
theorem Finds.eq_enum {field : Option HostField} {d : TypeDecl} {x : Finding}
    (h : policy.Finds m field (.named d.name) x) (hd : m.lookup d.name = some d)
    (henum : policy.IsEnum d) : x = .enum d.name := by
  cases h with
  | struct hd' hs _ _ =>
    obtain rfl := HostModule.lookup_inj hd hd'
    exact absurd ⟨_, hs⟩ henum.1
  | enum => rfl
  | shape hd' ha _ =>
    obtain rfl := HostModule.lookup_inj hd hd'
    exact absurd (.inr henum) (policy.not_isDeclarable_of_isAlias ha)

/-- In an alias there is what is in its shape. -/
theorem Finds.of_alias {field : Option HostField} {d : TypeDecl} {x : Finding}
    (h : policy.Finds m field (.named d.name) x) (hd : m.lookup d.name = some d)
    (ha : policy.IsAlias d) : policy.Finds m none d.type x := by
  cases h with
  | struct hd' hs _ _ =>
    obtain rfl := HostModule.lookup_inj hd hd'
    exact absurd ⟨_, hs⟩ ha.1
  | enum hd' henum =>
    obtain rfl := HostModule.lookup_inj hd hd'
    exact absurd (.inr henum) (policy.not_isDeclarable_of_isAlias ha)
  | shape hd' _ h =>
    obtain rfl := HostModule.lookup_inj hd hd'
    exact h

/-- Findings are never lost. -/
theorem preserves_has (x : Finding) : policy.Preserves m fun s => s.Has x where
  promoted _ hs := hs.put _
  followed _ _ hs := hs.declare _ _
  enumerated _ _ hs := hs.declare _ _

mutual

/-- After a type has been resolved, all that is found in it has its node. -/
theorem Resolves.has (he : policy.embedStructs = true) {path : List String}
    {field : Option HostField} {t : HostType} {s s' : Progress} {n : TypeNode} :
    policy.Resolves m path field t s n s' → ∀ x, policy.Finds m field t x → s'.Has x
  | .leaf h => by
    intro x hx
    cases hx <;> cases h
  | .slice h => by
    intro x hx
    have ih := h.has he
    cases hx with
    | slice hx => exact ih x hx
  | .array h => by
    intro x hx
    have ih := h.has he
    cases hx with
    | array hx => exact ih x hx
  | .map hk hv => by
    intro x hx
    have ihk := hk.has he
    have ihv := hv.has he
    cases hx with
    | key hx => exact hv.preserves (preserves_has x) (ihk x hx)
    | value hx => exact ihv x hx
  | .pointer h => by
    intro x hx
    have ih := h.has he
    cases hx with
    | pointer hx => exact ih x hx
  -- What is inside has its node by the hypothesis, and the promotion adds one more.
  | .inline hn h => by
    intro x hx
    have ih := h.has he
    cases hx with
    | inside hf hx => exact forall_visiblePositions.mp ih _ hf x hx
    | promoted hsome => simp [hsome] at hn
  | .promoted hn h => by
    intro x hx
    have ih := h.has he
    cases hx with
    | inside hf hx => exact (forall_visiblePositions.mp ih _ hf x hx).put _
    | promoted hsome =>
      obtain rfl := Option.some.inj (hn.symm.trans hsome)
      exact Progress.mem_names_put.mpr (.inl rfl)
  -- The struct itself is written out, so only what is inside of it is found.
  | .embedded hd hs _ _ h => by
    intro x hx
    have ih := h.has he
    obtain ⟨f, hf, hx⟩ := hx.of_struct hd hs
    exact forall_visiblePositions.mp ih _ hf x hx
  | .mentioned _ _ he' _ => absurd (he.symm.trans he') (by simp)
  | .followed _ _ he' _ _ _ _ => absurd (he.symm.trans he') (by simp)
  -- An enumeration is all that is found in a reference to it.
  | .known hd henum hk => by
    intro x hx
    obtain rfl := hx.eq_enum hd henum
    exact hk
  | .enumerated hd hns hc _ _ => by
    intro x hx
    obtain rfl := hx.eq_enum hd ⟨hns, by rw [hc]; rfl⟩
    exact List.mem_cons_self
  | .shape hd ha _ h => fun x hx => h.has he x (hx.of_alias hd ha)

/-- The same for several places. -/
theorem ResolvesAll.has (he : policy.embedStructs = true) {path : List String}
    {ps : List Position} {s s' : Progress} {ns : List TypeNode} :
    policy.ResolvesAll m path ps s ns s' →
      ∀ p ∈ ps, ∀ x, policy.Finds m p.field p.type x → s'.Has x
  | .nil => fun p hp => absurd hp (by simp)
  | .cons h hall => by
    have ih := h.has he
    have ihs := hall.has he
    intro p hp x hx
    rcases List.mem_cons.mp hp with rfl | hp
    · exact hall.preserves (preserves_has x) (ih x hx)
    · exact ihs p hp x hx

end

mutual

/-- When all that is found in a type has its node, resolving the type finds nothing new. -/
theorem Resolves.idle (he : policy.embedStructs = true) {path : List String}
    {field : Option HostField} {t : HostType} {s s' : Progress} {n : TypeNode} :
    policy.Resolves m path field t s n s' → (∀ x, policy.Finds m field t x → s.Has x) →
      s'.names = s.names ∧ s'.declared = s.declared
  | .leaf _, _ => ⟨rfl, rfl⟩
  | .slice h, hs => h.idle he fun x hx => hs x (.slice hx)
  | .array h, hs => h.idle he fun x hx => hs x (.array hx)
  | .map hk hv, hs => by
    obtain ⟨hnames, hdeclared⟩ := hk.idle he fun x hx => hs x (.key hx)
    obtain ⟨hnames', hdeclared'⟩ :=
      hv.idle he fun x hx => (hs x (.value hx)).of_eq hnames hdeclared
    exact ⟨hnames'.trans hnames, hdeclared'.trans hdeclared⟩
  | .pointer h, hs => h.idle he fun x hx => hs x (.pointer hx)
  | .inline _ h, hs => h.idle he (forall_visiblePositions.mpr fun f hf x hx => hs x (.inside hf hx))
  | .promoted hn h, hs => by
    obtain ⟨hnames, hdeclared⟩ :=
      h.idle he (forall_visiblePositions.mpr fun f hf x hx => hs x (.inside hf hx))
    refine ⟨?_, hdeclared⟩
    -- The struct itself has its node, too.
    rw [Progress.names_put_of_mem (hnames ▸ hs _ (.promoted hn)), hnames]
  | .embedded hd hfields _ _ h, hs =>
    h.idle he (forall_visiblePositions.mpr fun f hf x hx => hs x (.struct hd hfields hf hx))
  | .mentioned _ _ _ _, _ => ⟨rfl, rfl⟩
  | .followed _ _ he' _ _ _ _, _ => absurd (he.symm.trans he') (by simp)
  | .known _ _ _, _ => ⟨rfl, rfl⟩
  | .enumerated hd hns hc hn _, hs => absurd (hs _ (.enum hd ⟨hns, by rw [hc]; rfl⟩)) hn
  | .shape hd ha _ h, hs => h.idle he fun x hx => hs x (.shape hd ha hx)

/-- The same for several places. -/
theorem ResolvesAll.idle (he : policy.embedStructs = true) {path : List String}
    {ps : List Position} {s s' : Progress} {ns : List TypeNode} :
    policy.ResolvesAll m path ps s ns s' →
      (∀ p ∈ ps, ∀ x, policy.Finds m p.field p.type x → s.Has x) →
      s'.names = s.names ∧ s'.declared = s.declared
  | .nil, _ => ⟨rfl, rfl⟩
  | .cons h hall, hs => by
    obtain ⟨hnames, hdeclared⟩ := h.idle he (hs _ List.mem_cons_self)
    obtain ⟨hnames', hdeclared'⟩ := hall.idle he fun p hp x hx =>
      (hs p (List.mem_cons_of_mem _ hp) x hx).of_eq hnames hdeclared
    exact ⟨hnames'.trans hnames, hdeclared'.trans hdeclared⟩

end

/-! ## Section 2: Two walks side by side -/

variable {root : TypeDecl}

open Classical in
/-- The state `s` of a walk that embeds structs goes with the state `r` of one that follows them. -/
structure Tracks (policy : ExtractPolicy) (m : HostModule) (root : TypeDecl) (s r : Progress) :
    Prop where
  /-- The same names are found, in the same order, but for those of structs. -/
  names : s.names = r.names.filter fun k => ¬ policy.StandsForStruct m root k
  enums : ∀ d, m.lookup d.name = some d → policy.IsEnum d →
    (d.name ∈ s.declared ↔ d.name ∈ r.declared)
  /-- What is inside a struct that has been followed has been found. -/
  structs : ∀ d fields, m.lookup d.name = some d → d.type.deref = .struct fields →
    d.name ∈ r.declared → ∀ f ∈ visibleFields fields, ∀ x,
      policy.Finds m (some f) f.type x → s.Has x

/-- A name that is kept is found by both walks or by none. -/
theorem Tracks.mem_names_iff {s r : Progress} (h : policy.Tracks m root s r) {k : String}
    (hk : ¬ policy.StandsForStruct m root k) : k ∈ s.names ↔ k ∈ r.names := by
  classical
  rw [h.names, List.mem_filter]
  simp [hk]

open Classical in
/-- A node of a name that is kept is added on both walks. -/
theorem Tracks.names_put {s r : Progress} (h : policy.Tracks m root s r) {node node' : TypeNode}
    (hname : node.name = node'.name) (hk : ¬ policy.StandsForStruct m root node'.name) :
    (s.put node).names =
      (r.put node').names.filter fun k => ¬ policy.StandsForStruct m root k := by
  by_cases hmem : node'.name ∈ r.names
  · have hmem' : node.name ∈ s.names := by rwa [hname, h.mem_names_iff hk]
    rw [Progress.names_put_of_mem hmem, Progress.names_put_of_mem hmem', h.names]
  · have hmem' : node.name ∉ s.names := by rwa [hname, h.mem_names_iff hk]
    rw [Progress.names_put_of_not_mem hmem, Progress.names_put_of_not_mem hmem', List.filter_append,
      ← h.names, hname]
    simp [hk]

/-- An anonymous struct gets its node. -/
theorem Tracks.put {s r : Progress} (h : policy.Tracks m root s r) {node node' : TypeNode}
    (hname : node.name = node'.name) (hk : ¬ policy.StandsForStruct m root node'.name) :
    policy.Tracks m root (s.put node) (r.put node') :=
  ⟨h.names_put hname hk, h.enums, fun d fields hd hs hmem f hf x hx =>
    (h.structs d fields hd hs hmem f hf x hx).put node⟩

/-- An enumeration is declared on both walks. -/
theorem Tracks.enumerate {s r : Progress} (h : policy.Tracks m root s r) {d : TypeDecl}
    (hd : m.lookup d.name = some d) (henum : policy.IsEnum d) {node : TypeNode}
    (hk : ¬ policy.StandsForStruct m root node.name) :
    policy.Tracks m root (s.declare d.name node) (r.declare d.name node) := by
  refine ⟨h.names_put rfl hk, ?_, ?_⟩
  · intro e he hen
    simp only [Progress.declared_declare, List.mem_cons, h.enums e he hen]
  · intro e fields he hs hmem f hf x hx
    rcases List.mem_cons.mp hmem with heq | hmem
    · obtain rfl := HostModule.eq_of_name_eq hd he heq
      exact absurd ⟨_, hs⟩ henum.1
    · exact (h.structs e fields he hs hmem f hf x hx).declare _ _

/-- A struct gets its node on the walk that follows it, when all that is inside has been found. -/
theorem Tracks.follow {s r : Progress} (h : policy.Tracks m root s r) {d : TypeDecl}
    {fields : List HostField} (hd : m.lookup d.name = some d)
    (hs : d.type.deref = .struct fields) {node : TypeNode}
    (hk : policy.StandsForStruct m root node.name)
    (hfound : ∀ f ∈ visibleFields fields, ∀ x, policy.Finds m (some f) f.type x → s.Has x) :
    policy.Tracks m root s (r.declare d.name node) := by
  classical
  refine ⟨?_, ?_, ?_⟩
  · rw [Progress.names_declare, h.names]
    -- The other walk never declares a struct, so its names stay.
    by_cases hmem : node.name ∈ r.names
    · rw [Progress.names_put_of_mem hmem]
    · rw [Progress.names_put_of_not_mem hmem, List.filter_append]
      simp [hk]
  · intro e he hen
    rw [h.enums e he hen, Progress.declared_declare, List.mem_cons, iff_or_self]
    -- An enumeration is not the struct that is declared now.
    intro heq
    obtain rfl := HostModule.eq_of_name_eq hd he heq
    exact absurd ⟨_, hs⟩ hen.1
  · intro e fields' he hs' hmem f hf x hx
    rcases List.mem_cons.mp hmem with heq | hmem
    · obtain rfl := HostModule.eq_of_name_eq hd he heq
      obtain rfl := HostType.struct.inj (hs.symm.trans hs')
      exact hfound f hf x hx
    · exact h.structs e fields' he hs' hmem f hf x hx

/-- A step of the walk that embeds structs finds nothing new. -/
theorem Tracks.of_eq {s s' r : Progress} (h : policy.Tracks m root s r)
    (hnames : s'.names = s.names) (hdeclared : s'.declared = s.declared) :
    policy.Tracks m root s' r :=
  ⟨hnames.trans h.names, fun d hd henum => hdeclared ▸ h.enums d hd henum,
    fun d fields hd hs hmem f hf x hx =>
      (h.structs d fields hd hs hmem f hf x hx).of_eq hnames hdeclared⟩

/-- Names of anonymous structs and enumerations are kept. -/
theorem not_standsForStruct (hapart : policy.referring.Apart m root) {k : String} {t : HostType}
    (hg : policy.referring.Gives m root k t)
    (ht : ∀ d, m.lookup d.name = some d → d.IsStruct → d.name ≠ root.name → t ≠ .named d.name) :
    ¬ policy.StandsForStruct m root k := by
  rintro ⟨d, hd, hs, hne, hg'⟩
  exact ht d hd hs hne (hapart _ _ _ hg hg')

mutual

/-- For what is resolved with structs embedded there is a derivation with structs followed. -/
theorem Resolves.tracked (he : policy.embedStructs = true)
    (hapart : policy.referring.Apart m root) {path : List String} {field : Option HostField}
    {t : HostType} {s s' : Progress} {n : TypeNode} : policy.Resolves m path field t s n s' →
    policy.referring.Stands m root field t → root.name ∈ path →
    ∀ r, policy.Tracks m root s r → ∃ n' r',
      policy.referring.Resolves m path field t r n' r' ∧ policy.Tracks m root s' r'
  | .leaf h, _, _, r, hr => ⟨_, r, .leaf h, hr⟩
  -- In shapes the two walks go side by side, each from where its own first part has led.
  | .slice h, hstands, hin, r, hr => by
    obtain ⟨n', r', h', hr'⟩ := h.tracked he hapart hstands.slice hin r hr
    exact ⟨_, r', .slice h', hr'⟩
  | .array h, hstands, hin, r, hr => by
    obtain ⟨n', r', h', hr'⟩ := h.tracked he hapart hstands.array hin r hr
    exact ⟨_, r', .array h', hr'⟩
  | .map hk hv, hstands, hin, r, hr => by
    obtain ⟨_, r₁, hk', hr₁⟩ := hk.tracked he hapart hstands.key hin r hr
    obtain ⟨_, r', hv', hr'⟩ := hv.tracked he hapart hstands.value hin r₁ hr₁
    exact ⟨_, r', .map hk' hv', hr'⟩
  | .pointer h, hstands, hin, r, hr => by
    obtain ⟨n', r', h', hr'⟩ := h.tracked he hapart hstands.pointer hin r hr
    exact ⟨n', r', .pointer h', hr'⟩
  | .inline hn h, hstands, hin, r, hr => by
    obtain ⟨_, r', h', hr'⟩ := h.tracked he hapart
      (stands_of_visible fun f hf => hstands.struct hf) hin r hr
    exact ⟨_, r', .inline hn h', hr'⟩
  -- The name of a promoted struct is kept, as no declared struct has it.
  | .promoted hn h, hstands, hin, r, hr => by
    obtain ⟨_, r', h', hr'⟩ := h.tracked he hapart
      (stands_of_visible fun f hf => hstands.struct hf) hin r hr
    refine ⟨_, _, .promoted hn h', hr'.put rfl ?_⟩
    exact not_standsForStruct hapart (.anonymous hstands hn) fun _ _ _ _ => by simp
  | @Resolves.embedded _ _ path field d fields s ns s' hd hs _ hp h, hstands, hin, r, hr => by
    by_cases hmem : d.name ∈ r.declared
    · -- The struct has been followed before, and going through it again finds nothing.
      obtain ⟨hnames, hdeclared⟩ := h.idle he
        (forall_visiblePositions.mpr fun f hf x hx => hr.structs d fields hd hs hmem f hf x hx)
      exact ⟨_, r, .mentioned hd ⟨_, hs⟩ rfl fun _ => .inr hmem, hr.of_eq hnames hdeclared⟩
    · -- Met for the first time, the struct is followed where the other walk writes it out.
      obtain ⟨ns', r', h', hr'⟩ := h.tracked he hapart
        (stands_of_visible fun f hf => hstands.declared rfl hd hs hf) (List.mem_cons_of_mem _ hin)
        r hr
      have hne : d.name ≠ root.name := fun heq => hp (heq ▸ hin)
      have hk : policy.StandsForStruct m root (policy.typeNamer d) :=
        ⟨d, hd, ⟨_, hs⟩, hne, .struct hstands hd ⟨_, hs⟩ rfl⟩
      exact ⟨_, _, .followed hd hs rfl rfl hp hmem h',
        hr'.follow hd hs hk fun f hf x hx => forall_visiblePositions.mp (h.has he) f hf x hx⟩
  | .mentioned _ _ he' _, _, _, _, _ => absurd (he.symm.trans he') (by simp)
  | .followed _ _ he' _ _ _ _, _, _, _, _ => absurd (he.symm.trans he') (by simp)
  -- Enumerations are declared by both walks at the same time.
  | .known hd henum hk, _, _, r, hr => ⟨_, r, .known hd henum ((hr.enums _ hd henum).mp hk), hr⟩
  | .enumerated hd hns hc hn hm, hstands, _, r, hr => by
    have henum : policy.IsEnum _ := ⟨hns, by rw [hc]; rfl⟩
    have hn' := fun hmem => hn ((hr.enums _ hd henum).mpr hmem)
    refine ⟨_, _, .enumerated hd hns hc hn' hm, hr.enumerate hd henum ?_⟩
    refine not_standsForStruct hapart (.enum hstands hd henum) fun d hd' hs _ heq => ?_
    obtain rfl := HostModule.eq_of_name_eq hd hd' (HostType.named.inj heq).symm
    exact hns hs
  | .shape hd ha hp h, hstands, hin, r, hr => by
    obtain ⟨n', r', h', hr'⟩ :=
      h.tracked he hapart (hstands.shape hd ha) (List.mem_cons_of_mem _ hin) r hr
    exact ⟨n', r', .shape hd ha hp h', hr'⟩

/-- The same for several places. -/
theorem ResolvesAll.tracked (he : policy.embedStructs = true)
    (hapart : policy.referring.Apart m root) {path : List String} {ps : List Position}
    {s s' : Progress} {ns : List TypeNode} : policy.ResolvesAll m path ps s ns s' →
    (∀ p ∈ ps, policy.referring.Stands m root p.field p.type) → root.name ∈ path →
    ∀ r, policy.Tracks m root s r → ∃ ns' r',
      policy.referring.ResolvesAll m path ps r ns' r' ∧ policy.Tracks m root s' r'
  | .nil, _, _, r, hr => ⟨_, r, .nil, hr⟩
  | .cons h hall, hstands, hin, r, hr => by
    obtain ⟨_, r₁, h₁, hr₁⟩ := h.tracked he hapart (hstands _ List.mem_cons_self) hin r hr
    obtain ⟨_, r', h', hr'⟩ := hall.tracked he hapart
      (fun p hp => hstands p (List.mem_cons_of_mem _ hp)) hin r₁ hr₁
    exact ⟨_, r', .cons h₁ h', hr'⟩

end

/-! ## Section 3: Both walks are computed -/

/-- Before anything is found the states go together. -/
theorem tracks_empty : policy.Tracks m root {} {} :=
  ⟨by simp [Progress.names], fun _ _ _ => Iff.rfl, fun _ _ _ _ h => absurd h (by simp)⟩

open Classical in
/-- When the walk that embeds structs succeeds, the one that follows them succeeds and finds the
    same names and those of structs. -/
theorem walkRoot_names (he : policy.embedStructs = true)
    (hapart : policy.referring.Apart m root) {type : HostType}
    (hroot : type.deref = .named root.name) (hd : m.lookup root.name = some root) {s : Progress}
    (h : policy.walkRoot m type {} = .ok ((), s)) :
    ∃ r, policy.referring.walkRoot m type {} = .ok ((), r) ∧
      s.names = r.names.filter fun k => ¬ policy.StandsForStruct m root k := by
  obtain ⟨w, rfl⟩ := walkRoot_ok h
  obtain rfl := w.decl_eq hroot hd
  obtain ⟨_, r, hr, htracks⟩ := w.resolves.tracked he hapart (fun p hp => .root hp)
    List.mem_cons_self {} tracks_empty
  obtain ⟨members, hwalk⟩ := walkRoot_of_resolves h hroot hd hr
  -- The node of the root is added in the end, and its name is kept.
  have hkept : ¬ policy.StandsForStruct m w.decl (policy.typeNamer w.decl) :=
    not_standsForStruct hapart .root fun d _ _ hne heq => hne (HostType.named.inj heq).symm
  exact ⟨_, hwalk, htracks.names_put rfl hkept⟩

/-! ## Section 4: The graph of the one is the unfolded graph of the other -/

/-- Lists with the same names are related when nodes of the same name are. -/
theorem forall₂_of_names_eq {R : TypeNode → TypeNode → Prop} {as bs : List TypeNode}
    (hnames : as.map TypeNode.name = bs.map TypeNode.name)
    (h : ∀ a ∈ as, ∀ b ∈ bs, a.name = b.name → R a b) : List.Forall₂ R as bs := by
  have hsame : List.Forall₂ (fun a b : TypeNode => a.name = b.name) as bs := by
    rw [← List.forall₂_map_right_iff, ← List.forall₂_map_left_iff, List.forall₂_eq_eq_eq]
    exact hnames
  refine List.forall₂_iff_zip.mpr ⟨hsame.length_eq, fun hmem => ?_⟩
  obtain ⟨ha, hb⟩ := List.of_mem_zip hmem
  exact h _ ha _ hb (List.forall₂_zip hsame hmem)

/-- The node becomes the second node when references to structs are replaced in it. -/
def Unfolded (policy : ExtractPolicy) (m : HostModule) (root : TypeDecl) (graph : List TypeNode)
    (n n' : TypeNode) : Prop :=
  ∃ t, policy.referring.Gives m root n.name t ∧ policy.UnfoldsNode m graph t n n'

/-- Under a root with different names a node is unfolded to one node. -/
theorem Unfolded.rightUnique (hapart : policy.referring.Apart m root) {graph : List TypeNode}
    (hnodup : (graph.map TypeNode.name).Nodup) :
    Relator.RightUnique (policy.Unfolded m root graph) := by
  rintro n a b ⟨t, hg, ha⟩ ⟨t', hg', hb⟩
  obtain rfl := hapart _ _ _ hg hg'
  exact ha.unique hnodup hb

open Classical in
/-- If a walk that embeds structs succeeds, then so does the one that follows them, and the graph of
    the first is the one and only list that the graph of the second becomes when the nodes of all
    structs but the root are left out and references to structs are replaced in the others. -/
theorem extract_eq_unfolded (he : policy.embedStructs = true) (hsort : policy.sort = .discovery)
    {type : HostType} {d : TypeDecl} (hroot : type.deref = .named d.name)
    (hd : m.lookup d.name = some d) (hapart : policy.referring.Apart m d)
    (henum : ¬ policy.IsEnum d) {graph : List TypeNode} (h : extract m type policy = .ok graph) :
    ∃ followed, extract m type policy.referring = .ok followed ∧
      List.Forall₂ (policy.Unfolded m d followed)
        (followed.filter fun n => ¬ policy.StandsForStruct m d n.name) graph ∧
      ∀ other, List.Forall₂ (policy.Unfolded m d followed)
        (followed.filter fun n => ¬ policy.StandsForStruct m d n.name) other → other = graph := by
  obtain ⟨s, hs, rfl⟩ := extract_eq_ok_iff.mp h
  obtain ⟨r, hr, hnames⟩ := walkRoot_names he hapart hroot hd hs
  obtain ⟨w, rfl⟩ := walkRoot_ok hs
  obtain ⟨w', rfl⟩ := walkRoot_ok hr
  obtain rfl := w'.decl_eq hroot hd
  have hdecl : w'.decl = w.decl := (w.decl_eq hroot hd).symm
  refine ⟨w'.found.nodes, ?_, ?_⟩
  · refine extract_eq_ok_iff.mpr ⟨_, hr, ?_⟩
    rw [show policy.referring.sort = .discovery from hsort]
    rfl
  rw [hsort]
  -- Both lists have the same names, and nodes of one name declare the same type.
  have hforall : List.Forall₂ (policy.Unfolded m w'.decl w'.found.nodes)
      (w'.found.nodes.filter fun n => ¬ policy.StandsForStruct m w'.decl n.name)
      w.found.nodes := by
    refine forall₂_of_names_eq ?_ fun n hn n' hn' hname => ?_
    · rw [Progress.names, Progress.names, List.filter_map] at hnames
      exact hnames.symm
    · obtain ⟨hmem, hkept⟩ := List.mem_filter.mp hn
      exact w.unfoldsNode he hsort w' hdecl hapart henum hmem hn' hname (of_decide_eq_true hkept)
  exact ⟨hforall, fun other hother =>
    List.right_unique_forall₂' (Unfolded.rightUnique hapart w'.nodup_names) hother hforall⟩

def orderDecl : TypeDecl :=
  ⟨"Order", .struct [⟨"Lines", .slice (.named "Line"), none⟩, ⟨"Total", .named "Price", none⟩],
    none, none⟩

def orderModule : HostModule where
  types := [orderDecl,
    ⟨"Line", .struct [⟨"Price", .named "Price", none⟩, ⟨"Unit", .named "Unit", none⟩], none, none⟩,
    ⟨"Price", .struct [⟨"Amount", .int 64 false, none⟩], none, none⟩,
    ⟨"Unit", .string, none, some [.string "Piece" "pc"]⟩]

def priceNode : TypeNode := .interface "" none [.property "Amount" .number]

def orderGraph : List TypeNode :=
  [.enum "Unit" none [.string "Piece" "pc"],
    .interface "Order" none [
      .property "Lines" (.array [.interface "" none [.property "Price" priceNode,
        .property "Unit" (.simple "Unit")]]),
      .property "Total" priceNode]]

open Classical in
/-- The price is unfolded in two places. -/
theorem orderGraph_unfolded :
    extract orderModule (.named "Order") embedding = .ok orderGraph ∧
      following.Apart orderModule orderDecl ∧
      ∃ followed, extract orderModule (.named "Order") following = .ok followed ∧
        List.Forall₂ (embedding.Unfolded orderModule orderDecl followed)
          (followed.filter fun n => ¬ embedding.StandsForStruct orderModule orderDecl n.name)
          orderGraph := by
  have h : extract orderModule (.named "Order") embedding = .ok orderGraph := by cbv
  have hapart : following.Apart orderModule orderDecl := apart_of_injective rfl fun _ _ h => h
  have he : embedding.embedStructs = true := rfl
  have henum : ¬ embedding.IsEnum orderDecl := fun he => he.1 ⟨_, rfl⟩
  obtain ⟨followed, hfollowed, hforall, _⟩ := extract_eq_unfolded he rfl rfl rfl hapart henum h
  exact ⟨h, hapart, followed, hfollowed, hforall⟩

end ExtractPolicy

end TypeExport
