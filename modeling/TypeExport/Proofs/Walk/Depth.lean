import Mathlib
import TypeExport.Proofs.Walk.Marking

/-! # The Depth of a Walk

    The machine with marks answers as the walk of the library does, for every module, policy and
    root, as long as it does not run out of levels.  This rests on one relation between the states,
    `Reflects`, in which the set of marks is the path.

    How many levels are enough is decided by what there is below a place: the parts of a type, and
    then, for each declaration that is not in progress, the parts of that (`HostModule.levels`).
    Each call uses up some of it.  Going into a part makes the size smaller; entering a declaration
    starts with a new size, but leaves one declaration fewer to enter.

    `extractWithin_eq_some` says that with as many levels as the size of the module allows for the
    machine has an answer, whatever the root and the policy, and that it is the answer of the
    library. -/

namespace TypeExport

namespace Extraction

open Extracting

/-! ## Section 1: States of the two walks -/

def Keyed (s : Extraction) : Prop := ∀ e ∈ s.result, e.1 = e.2.name

theorem Keyed.addResult {s : Extraction} (h : s.Keyed) (node : TypeNode) :
    (s.addResult node).Keyed := by
  intro e he
  rcases mem_upsert he with rfl | he
  · rfl
  · exact h e he

/-- Under keys that are names, a node takes the place that its name gives it. -/
theorem Keyed.nodes_addResult {s : Extraction} (h : s.Keyed) (node : TypeNode) :
    (s.addResult node).result.map (·.2) = upsert TypeNode.name node (s.result.map (·.2)) := by
  have hkeys : ∀ e ∈ s.result, e.2.name = node.name ↔ e.1 = node.name := fun e he => by rw [h e he]
  exact (upsert_map_of_iff hkeys).symm

/-- The state `s` is the state `p` of a walk that has come along `path`: its nodes under their
    names, and its marks the path. -/
structure Reflects (path : List String) (s : Extraction) (p : Progress) : Prop where
  keyed : s.Keyed
  nodes : s.result.map (·.2) = p.nodes
  inProgress : ∀ h, h ∈ s.inProgress ↔ h ∈ path
  declared : ∀ h, h ∈ s.declared ↔ h ∈ p.declared

namespace Reflects

variable {path : List String} {s : Extraction} {p : Progress}

theorem empty : Reflects [] {} {} := ⟨by simp [Keyed], rfl, by simp, by simp⟩

theorem addResult (h : Reflects path s p) (node : TypeNode) :
    Reflects path (s.addResult node) (p.put node) :=
  ⟨h.keyed.addResult node, by
    rw [Progress.nodes_put, ← h.nodes]
    exact h.keyed.nodes_addResult node, h.inProgress, h.declared⟩

theorem declare (h : Reflects path s p) (name : String) (node : TypeNode) :
    Reflects path (s.declare name node) (p.declare name node) := by
  have hput := h.addResult node
  refine ⟨hput.keyed, hput.nodes, h.inProgress, fun k => ?_⟩
  show k ∈ insert name s.declared ↔ k ∈ name :: p.declared
  rw [Finset.mem_insert, List.mem_cons, h.declared]

theorem enter (h : Reflects path s p) (name : String) : Reflects (name :: path) (s.enter name) p :=
  ⟨h.keyed, h.nodes, fun k => by
    show k ∈ insert name s.inProgress ↔ k ∈ name :: path
    rw [Finset.mem_insert, List.mem_cons, h.inProgress], h.declared⟩

/-- The mark that goes away is one that this path did not have before. -/
theorem leave {name : String} (hp : name ∉ path) (h : Reflects (name :: path) s p) :
    Reflects path (s.leave name) p :=
  ⟨h.keyed, h.nodes, fun k => by
    show k ∈ s.inProgress.erase name ↔ k ∈ path
    rw [Finset.mem_erase, h.inProgress, List.mem_cons]
    constructor
    · rintro ⟨hne, heq | hk⟩
      · exact absurd heq hne
      · exact hk
    · exact fun hk => ⟨fun heq => hp (heq ▸ hk), .inr hk⟩, h.declared⟩

end Reflects

/-! ## Section 2: Agreement of the two walks -/

/-- From the state `s`, `x` gives the value or the error that `y` gives from `p`, and with a value
    its new state reflects that of `y`. -/
def AgreesAt {α : Type} (path : List String) (x : Extracting α) (y : Walk α) (s : Extraction)
    (p : Progress) : Prop :=
  match y p with
  | .ok (a, p') => (x s).value = .ok a ∧ Reflects path (x s).state p'
  | .error e => (x s).value = .error (.error e)

/-- From states of which one reflects the other, `x` and `y` agree. -/
def Agrees {α : Type} (path : List String) (x : Extracting α) (y : Walk α) : Prop :=
  ∀ s p, Reflects path s p → AgreesAt path x y s p

/-- To look at the state is to know it. -/
theorem AgreesAt.look {α : Type} {path : List String} {f : Extraction → Extracting α} {y : Walk α}
    {s : Extraction} {p : Progress} (h : AgreesAt path (f s) y s p) :
    AgreesAt path (Extracting.look >>= f) y s p := h

theorem AgreesAt.congr {α : Type} {path : List String} {x : Extracting α} {y y' : Walk α}
    {s : Extraction} {p : Progress} (hy : y p = y' p) (h : AgreesAt path x y' s p) :
    AgreesAt path x y s p := by
  unfold AgreesAt at h ⊢
  rw [hy]
  exact h

namespace Agrees

variable {α β γ : Type} {path : List String} {x : Extracting α}

theorem pure (a : α) : Agrees path (Pure.pure a) (Pure.pure a) := fun _ _ h => ⟨rfl, h⟩

theorem fail (e : ExtractError) : Agrees (α := α) path (Extracting.fail e) (throw e) :=
  fun _ _ _ => rfl

theorem ofExcept (r : Except ExtractError α) :
    Agrees path (Extracting.ofExcept r) (liftExcept r) := by
  cases r with
  | ok a => exact pure a
  | error e => exact fail e

/-- The first step of `x` may give its value in another form, such as sorted. -/
theorem bind_map {k : γ → α} {y : Walk γ} {f : α → Extracting β} {g : γ → Walk β}
    (h : Agrees path x (k <$> y)) (hf : ∀ c, Agrees path (f (k c)) (g c)) :
    Agrees path (x >>= f) (y >>= g) := by
  intro s p hs
  have hx := h s p hs
  rw [← bind_pure_comp] at hx
  unfold AgreesAt at hx ⊢
  rw [Walk.bind_apply] at hx ⊢
  cases hy : y p with
  | error e =>
    rw [hy] at hx
    rw [Extracting.bind_of_error hx]
  | ok r =>
    rw [hy] at hx
    obtain ⟨hvalue, hstate⟩ := hx
    rw [Extracting.bind_of_ok hvalue]
    exact hf r.1 _ _ hstate

theorem bind {y : Walk α} {f : α → Extracting β} {g : α → Walk β} (h : Agrees path x y)
    (hf : ∀ a, Agrees path (f a) (g a)) : Agrees path (x >>= f) (y >>= g) :=
  bind_map (k := id) (by rwa [id_map]) hf

theorem recorded {y : Walk α} (call : Call) (h : Agrees path x y) :
    Agrees path (Extracting.recorded call x) y := h

theorem walking {y : Walk α} (d : TypeDecl) (h : Agrees path x y) :
    Agrees path (Extracting.walking d x) y := h

/-- A mark makes the path longer, and it has to be a new one. -/
theorem within {y : Walk α} {name : String} (hp : name ∉ path) (h : Agrees (name :: path) x y) :
    Agrees path (Extracting.within name x) y := by
  intro s p hs
  have hx := h (s.enter name) p (hs.enter name)
  unfold AgreesAt at hx ⊢
  cases hy : y p with
  | error e =>
    rw [hy] at hx
    exact hx
  | ok r =>
    rw [hy] at hx
    exact ⟨hx.1, hx.2.leave hp⟩

end Agrees

end Extraction

/-! ## Section 3: How many levels are enough -/

theorem HostField.sizeOf_type_lt (f : HostField) : sizeOf f.type < sizeOf f := by
  obtain ⟨name, type, tag⟩ := f
  show sizeOf type < _
  rw [HostField.mk.sizeOf_spec]
  omega

theorem HostMethod.sizeOf_result_lt {method : HostMethod} {t : HostType}
    (h : t ∈ method.signature.results) : sizeOf t < sizeOf method := by
  obtain ⟨name, ⟨params, results, variadic⟩, docs⟩ := method
  have hlt : sizeOf t < sizeOf results := List.sizeOf_lt_of_mem h
  rw [HostMethod.mk.sizeOf_spec, Signature.mk.sizeOf_spec]
  omega

theorem HostMethod.sizeOf_param_lt {method : HostMethod} {p : HostParam}
    (h : p ∈ method.signature.params) : sizeOf p.type < sizeOf method := by
  obtain ⟨name, ⟨params, results, variadic⟩, docs⟩ := method
  obtain ⟨pname, type⟩ := p
  have hlt : sizeOf (HostParam.mk pname type) < sizeOf params := List.sizeOf_lt_of_mem h
  rw [HostParam.mk.sizeOf_spec] at hlt
  rw [HostMethod.mk.sizeOf_spec, Signature.mk.sizeOf_spec]
  show sizeOf type < _
  omega

namespace HostModule

variable (m : HostModule)

/-- The size of all declared types together. -/
noncomputable def size : Nat := (m.types.map fun d => sizeOf d.type).sum

/-- Levels that are enough for something of the given size in a place with this path: below it lies
    no more than its own parts and then, for each declaration not entered yet, the parts of that. -/
noncomputable def levels (path : List String) (size : Nat) : Nat :=
  m.unentered path * (m.size + 1) + size

/-- Levels that are enough for a walk from any root. -/
noncomputable def maxDepth : Nat := m.types.length * (m.size + 1) + 1

variable {m}

theorem sizeOf_deref_le (t : HostType) : sizeOf t.deref ≤ sizeOf t := by
  induction t using HostType.deref.induct with
  | case1 elem ih =>
    rw [HostType.deref, HostType.pointer.sizeOf_spec]
    omega
  | case2 t h =>
    have hderef : t.deref = t := by
      rw [HostType.deref]
      exact h
    exact Nat.le_of_eq (congrArg sizeOf hderef)

theorem sizeOf_fields_lt {t : HostType} {fields : List HostField} (h : t.deref = .struct fields) :
    sizeOf fields < sizeOf t := by
  have hle := sizeOf_deref_le t
  rw [h, HostType.struct.sizeOf_spec] at hle
  omega

theorem sizeOf_methods_lt {t : HostType} {methods : List HostMethod}
    (h : t.deref = .interface methods) : sizeOf methods < sizeOf t := by
  have hle := sizeOf_deref_le t
  rw [h, HostType.interface.sizeOf_spec] at hle
  omega

theorem sizeOf_le_size {name : String} {d : TypeDecl} (h : m.lookup name = some d) :
    sizeOf d.type ≤ m.size :=
  List.le_sum_of_mem (List.mem_map.mpr ⟨d, mem_of_lookup h, rfl⟩)

theorem length_lt_maxDepth : m.types.length < m.maxDepth :=
  Nat.lt_succ_of_le (Nat.le_mul_of_pos_right _ (Nat.succ_pos _))

theorem levels_nil_lt : m.levels [] 0 < m.maxDepth := by
  have hfew : m.unentered [] ≤ m.types.length := List.length_filter_le _ _
  have hle := Nat.mul_le_mul_right (m.size + 1) hfew
  unfold levels maxDepth
  omega

/-- A smaller part needs fewer levels. -/
theorem levels_lt_levels {path : List String} {size size' : Nat} (h : size < size') :
    m.levels path size < m.levels path size' := Nat.add_lt_add_left h _

/-- To enter a declaration uses up what it leaves fewer declarations to enter. -/
theorem levels_enter_lt {path : List String} {d : TypeDecl} {size : Nat}
    (hd : m.lookup d.name = some d) (hp : d.name ∉ path) (hsize : size ≤ sizeOf d.type) :
    m.levels (d.name :: path) size < m.levels path 0 := by
  have hlt : m.unentered (d.name :: path) + 1 ≤ m.unentered path :=
    unentered_lt (mem_of_lookup hd) hp
  have hle : size ≤ m.size := Nat.le_trans hsize (sizeOf_le_size hd)
  have hmul := Nat.mul_le_mul_right (m.size + 1) hlt
  rw [Nat.add_mul, Nat.one_mul] at hmul
  unfold levels
  omega

/-- The test for errors takes a level for each name that it has not passed yet. -/
theorem errorLikeWithin_eq {depth : Nat} :
    ∀ {path : List String} (t : HostType), m.unentered path < depth →
      m.errorLikeWithin depth path t = some (m.errorLikeFrom path t) := by
  induction depth with
  | zero => exact fun _ h => absurd h (Nat.not_lt_zero _)
  | succ depth ih =>
    intro path t h
    rw [errorLikeWithin]
    cases ht : t.deref with
    | named name =>
      by_cases hp : name ∈ path
      · simp only [hp, if_true, errorLikeFrom_again ht hp]
      · cases hd : m.lookup name with
        | none => simp only [hp, if_false, hd, errorLikeFrom_unknown ht hp hd]
        | some d =>
          obtain rfl := name_of_lookup hd
          have hlt := unentered_lt (mem_of_lookup hd) hp
          simp only [hp, if_false, hd, errorLikeFrom_known ht hp hd]
          exact ih d.type (Nat.lt_of_lt_of_le hlt (Nat.le_of_lt_succ h))
    | _ => rfl

/-- A name is a part of its own. -/
theorem one_le_sizeOf (name : String) : 1 ≤ sizeOf name := by
  cases name
  simp

end HostModule

namespace Extraction

open Extracting

/-! ## Section 4: A machine with enough levels -/

variable {policy : ExtractPolicy} {m : HostModule} {depth : Nat} {path : List String}

/-- The machine answers each call that it has levels for as the walk does from a place with the same
    path. -/
structure Reliable (policy : ExtractPolicy) (m : HostModule) (depth : Nat) : Prop where
  resolve : ∀ {path t}, m.levels path (sizeOf t) < depth → ∀ field site,
    Agrees path (resolve policy m depth t field site)
      (policy.resolve (policy.visit m path) site field t)
  anonymousStruct : ∀ {path fields}, m.levels path (sizeOf fields) < depth → ∀ field site,
    Agrees path (anonymousStruct policy m depth fields field site)
      (policy.structMembers (policy.visit m path) site fields >>= fun members =>
        policy.anonymousStruct field (policy.arrange members))
  structMembers : ∀ {path fields}, m.levels path (sizeOf fields) ≤ depth → ∀ owner,
    Agrees path (structMembers policy m depth owner fields)
      (policy.arrange <$> policy.structMembers (policy.visit m path) owner fields)
  named : ∀ {path}, m.levels path 1 < depth → ∀ name site,
    Agrees path (named policy m depth name site) (policy.visit m path name site)
  namedStruct : ∀ {path d fields}, m.levels path 0 < depth → m.lookup d.name = some d →
    d.type.deref = .struct fields → ∀ site,
    Agrees path (namedStruct policy m depth d fields) (policy.visit m path d.name site)

/-- The next level down has enough levels for a smaller part. -/
theorem levels_lt_of_lt_succ {size size' : Nat} (h : m.levels path size < depth + 1)
    (hsize : size' < size) : m.levels path size' < depth :=
  Nat.lt_of_lt_of_le (HostModule.levels_lt_levels hsize) (Nat.le_of_lt_succ h)

/-- Leading pointers are looked through. -/
theorem resolve_deref (visit : Visit) (site : String) (field : Option HostField) (t : HostType) :
    policy.resolve visit site field t = policy.resolve visit site field t.deref := by
  induction t using HostType.deref.induct with
  | case1 elem ih => rw [HostType.deref, ExtractPolicy.resolve, ih]
  | case2 t h =>
    have hderef : t.deref = t := by
      rw [HostType.deref]
      exact h
    rw [hderef]

theorem Reliable.resolve_succ (h : Reliable policy m depth) {t : HostType}
    (ht : m.levels path (sizeOf t) < depth + 1) (field : Option HostField) (site : String) :
    Agrees path (Extraction.resolve policy m (depth + 1) t field site)
      (policy.resolve (policy.visit m path) site field t) := by
  -- What is behind the pointers is no larger than the type, and its parts are smaller.
  have hpart : ∀ {size}, size < sizeOf t.deref → m.levels path size < depth := fun hsize =>
    levels_lt_of_lt_succ ht (Nat.lt_of_lt_of_le hsize (HostModule.sizeOf_deref_le t))
  rw [resolve_deref, Extraction.resolve]
  refine Agrees.recorded _ ?_
  cases hs : t.deref with
  | slice elem | array len elem =>
    have helem : m.levels path (sizeOf elem) < depth := hpart (by simp [hs])
    simp only [ExtractPolicy.resolve]
    exact (h.resolve helem none site).bind fun elem => .pure _
  | map key value =>
    have hkey : m.levels path (sizeOf key) < depth := hpart (by simp [hs]; omega)
    have hvalue : m.levels path (sizeOf value) < depth := hpart (by simp [hs])
    simp only [ExtractPolicy.resolve]
    exact (h.resolve hkey none site).bind fun key =>
      (h.resolve hvalue none site).bind fun value => .pure _
  | pointer elem => exact absurd hs (t.deref_ne_pointer elem)
  | struct fields =>
    have hfields : m.levels path (sizeOf fields) < depth := hpart (by simp [hs])
    simp only [ExtractPolicy.resolve]
    exact h.anonymousStruct hfields field site
  | named name =>
    have hname : m.levels path 1 < depth := by
      have hone := HostModule.one_le_sizeOf name
      exact hpart (by simp [hs]; omega)
    simp only [ExtractPolicy.resolve]
    exact h.named hname name site
  | _ =>
    simp only [ExtractPolicy.resolve]
    exact .ofExcept _

theorem Reliable.anonymousStruct_succ (h : Reliable policy m depth) {fields : List HostField}
    (hfields : m.levels path (sizeOf fields) < depth + 1) (field : Option HostField)
    (site : String) :
    Agrees path (Extraction.anonymousStruct policy m (depth + 1) fields field site)
      (policy.structMembers (policy.visit m path) site fields >>= fun members =>
        policy.anonymousStruct field (policy.arrange members)) := by
  rw [Extraction.anonymousStruct]
  refine Agrees.recorded _ ?_
  refine (h.structMembers (Nat.le_of_lt_succ hfields) site).bind_map fun members => ?_
  unfold ExtractPolicy.anonymousStruct
  cases policy.anonNamer with
  | none => exact .pure _
  | some namer =>
    cases field with
    | none => exact .pure _
    | some field => exact Agrees.bind (fun _ _ hs => ⟨rfl, hs.addResult _⟩) fun _ => .pure _

/-- The members made of fields, when the machine resolves each of them as the walk does. -/
theorem eachField_agrees {resolve : HostField → Extracting TypeNode} {visit : Visit}
    (owner : String) : ∀ {fields : List HostField},
      (∀ f ∈ fields, Agrees path (resolve f)
        (policy.resolve visit s!"{owner}.{f.name}" (some f) f.type)) →
      Agrees path (eachField resolve fields) (policy.structMembers visit owner fields)
  | [], _ => by
    rw [ExtractPolicy.structMembers]
    exact .pure []
  | f :: rest, h => by
    have ih := eachField_agrees owner fun g hg => h g (List.mem_cons_of_mem f hg)
    rw [ExtractPolicy.structMembers_cons, eachField]
    by_cases hv : f.isVisible
    · rw [if_pos hv, if_pos hv]
      exact (h f List.mem_cons_self).bind fun type => ih.bind fun members => .pure _
    · rw [if_neg hv, if_neg hv]
      exact ih

theorem Reliable.structMembers_succ (h : Reliable policy m depth) {fields : List HostField}
    (hfields : m.levels path (sizeOf fields) ≤ depth + 1) (owner : String) :
    Agrees path (Extraction.structMembers policy m (depth + 1) owner fields)
      (policy.arrange <$> policy.structMembers (policy.visit m path) owner fields) := by
  rw [Extraction.structMembers, ← bind_pure_comp]
  refine Agrees.recorded _ ((eachField_agrees owner fun f hf => ?_).bind fun members => .pure _)
  -- Between the list and the type of one of its fields there are two more levels of the tree.
  have htype := HostField.sizeOf_type_lt f
  have hmem := List.sizeOf_lt_of_mem hf
  refine h.resolve ?_ (some f) _
  unfold HostModule.levels at hfields ⊢
  omega

/-- Inside a declaration its name is marked, and one declaration fewer is left to enter. -/
theorem Reliable.members_inside (h : Reliable policy m depth) {d : TypeDecl}
    {fields : List HostField} (hlevels : m.levels path 0 ≤ depth)
    (hd : m.lookup d.name = some d) (hs : d.type.deref = .struct fields) (hp : d.name ∉ path) :
    Agrees (d.name :: path) (Extraction.structMembers policy m depth d.name fields)
      (policy.arrange <$>
        policy.structMembers (policy.visit m (d.name :: path)) d.name fields) := by
  have hlt := HostModule.levels_enter_lt hd hp (Nat.le_of_lt (HostModule.sizeOf_fields_lt hs))
  exact h.structMembers (Nat.le_trans (Nat.le_of_lt hlt) hlevels) d.name

/-- Adding the interface of a declaration, once its members are known. -/
theorem declareBy_agrees {d : TypeDecl} {walk : Extracting (List Member)}
    {members : Walk (List Member)} (hp : d.name ∉ path)
    (h : Agrees (d.name :: path) walk (policy.arrange <$> members)) :
    Agrees path (declareBy policy d walk) (members >>= policy.declare d) :=
  (h.within hp).bind_map fun _ _ _ hs => ⟨rfl, hs.declare _ _⟩

/-- A reference to a struct: the marks say what the library reads off the path. -/
theorem Reliable.namedStruct_succ (h : Reliable policy m depth) {d : TypeDecl}
    {fields : List HostField} (hlevels : m.levels path 0 < depth + 1)
    (hd : m.lookup d.name = some d) (hs : d.type.deref = .struct fields) (site : String) :
    Agrees path (Extraction.namedStruct policy m (depth + 1) d fields)
      (policy.visit m path d.name site) := by
  have hinside := h.members_inside (Nat.le_of_lt_succ hlevels) hd hs
  rw [ExtractPolicy.visit_known hd, Extraction.namedStruct]
  refine Agrees.recorded _ fun s p hsp => AgreesAt.look ?_
  have hmark := hsp.inProgress d.name
  have hdecl := hsp.declared d.name
  simp only [ExtractPolicy.reference, hs]
  by_cases he : policy.embedStructs
  · simp only [he, if_true]
    by_cases hp : d.name ∈ path
    · rw [if_pos (hmark.mpr hp), if_pos hp]
      exact Agrees.fail _ s p hsp
    · rw [if_neg (mt hmark.mp hp), if_neg hp]
      exact ((hinside hp).within hp).bind_map (fun members =>
        .pure (TypeNode.interface "" (policy.declComment d) (policy.arrange members))) s p hsp
  · simp only [he, Bool.false_eq_true, if_false]
    -- Only a struct that is neither marked nor declared is walked.
    by_cases hf : policy.followStructs
    · by_cases hp : d.name ∈ path
      · rw [if_neg fun h => h.2.1 (hmark.mpr hp)]
        simp only [hf, hp, if_true]
        exact Agrees.pure _ s p hsp
      · by_cases hn : d.name ∈ p.declared
        · have hcon : p.declared.contains d.name = true := by simpa using hn
          rw [if_neg fun h => h.2.2 (hdecl.mpr hn)]
          refine AgreesAt.congr ?_ (Agrees.pure (TypeNode.simple (policy.typeNamer d)) s p hsp)
          simp only [hf, hp, if_true, if_false, Walk.bind_apply, Walk.get_apply, hcon]
        · have hcon : p.declared.contains d.name = false := by simpa using hn
          rw [if_pos ⟨hf, mt hmark.mp hp, mt hdecl.mp hn⟩]
          have hwalk := (declareBy_agrees hp ((hinside hp).walking d)).bind
            fun _ => Agrees.pure (TypeNode.simple (policy.typeNamer d))
          rw [bind_assoc] at hwalk
          refine AgreesAt.congr ?_ (hwalk s p hsp)
          simp only [hf, hp, if_true, if_false, Walk.bind_apply, Walk.get_apply, hcon,
            Bool.false_eq_true]
    · simp only [hf, Bool.false_eq_true, false_and, if_false]
      exact Agrees.pure _ s p hsp

theorem declareEnum_of_ok {provider : EnumProvider} {d : TypeDecl} {members : List EnumMember}
    (h : provider.members d = .ok members) (s : Extraction) :
    declareEnum policy provider d s = ⟨.ok (), s.declare d.name (policy.enumOf d members), []⟩ := by
  unfold declareEnum
  rw [h]
  rfl

theorem declareEnum_of_error {provider : EnumProvider} {d : TypeDecl} {cause : ProviderError}
    (h : provider.members d = .error cause) (s : Extraction) :
    declareEnum policy provider d s =
      ⟨.error (.error (.enumProvider d.name cause)), s.markDeclared d.name, []⟩ := by
  unfold declareEnum
  rw [h]
  rfl

/-- A reference to an enumeration. -/
theorem enumeration_agrees (provider : EnumProvider) (d : TypeDecl) :
    Agrees path (enumeration policy provider d) (policy.enumeration provider d) := by
  intro s p hsp
  refine AgreesAt.look ?_
  have hdecl := hsp.declared d.name
  -- The marks tell what the state of the plain walk tells.
  by_cases hn : d.name ∈ p.declared
  · have hcon : p.declared.contains d.name = true := by simpa using hn
    rw [if_neg (not_not.mpr (hdecl.mpr hn))]
    refine AgreesAt.congr ?_ (Agrees.pure (TypeNode.simple (policy.typeNamer d)) s p hsp)
    simp only [ExtractPolicy.enumeration, Walk.bind_apply, Walk.get_apply, hcon]
    rfl
  · have hcon : p.declared.contains d.name = false := by simpa using hn
    rw [if_pos (mt hdecl.mp hn)]
    unfold AgreesAt
    simp only [ExtractPolicy.enumeration, Walk.bind_apply, Walk.get_apply, hcon]
    cases hm : provider.members d with
    | error cause =>
      rw [bind_of_error (congrArg Answer.value (declareEnum_of_error hm s))]
      rfl
    | ok members =>
      rw [bind_of_ok (congrArg Answer.value (declareEnum_of_ok hm s)), declareEnum_of_ok hm]
      exact ⟨rfl, hsp.declare d.name (policy.enumOf d members)⟩

section named

variable {name : String} {d : TypeDecl}

theorem named_unknown (hd : m.lookup name = none) (depth : Nat) (site : String) :
    named policy m (depth + 1) name site =
      recorded (.named name site) (fail (.unknownType name site)) := by
  simp only [named, hd]

theorem named_struct {fields : List HostField} (hd : m.lookup name = some d)
    (hs : d.type.deref = .struct fields) (depth : Nat) (site : String) :
    named policy m (depth + 1) name site =
      recorded (.named name site) (namedStruct policy m depth d fields) := by
  simp only [named, hd, hs]

theorem named_enum {provider : EnumProvider} (hd : m.lookup name = some d) (hs : ¬ d.IsStruct)
    (hc : policy.claims? d = some provider) (depth : Nat) (site : String) :
    named policy m (depth + 1) name site =
      recorded (.named name site) (enumeration policy provider d) := by
  have hshape : ∀ fields, d.type.deref ≠ .struct fields := fun fields h => hs ⟨fields, h⟩
  simp only [named, hd, hc]

theorem named_interface {methods : List HostMethod} (hd : m.lookup name = some d)
    (hc : policy.claims? d = none) (hi : d.type.deref = .interface methods) (depth : Nat)
    (site : String) :
    named policy m (depth + 1) name site =
      recorded (.named name site) (fail (.unsupportedKind "interface" site)) := by
  simp only [named, hd, hc, hi]

theorem named_alias (hd : m.lookup name = some d) (ha : policy.IsAlias d)
    (hi : ∀ methods, d.type.deref ≠ .interface methods) (depth : Nat) (site : String) :
    named policy m (depth + 1) name site = recorded (.named name site) (do
      let s ← look
      if d.name ∈ s.inProgress then fail (.cyclicType d.name)
      else within d.name (resolve policy m depth d.type none site)) := by
  have hshape : ∀ fields, d.type.deref ≠ .struct fields := fun fields h => ha.1 ⟨fields, h⟩
  simp only [named, hd, ha.2]

end named

theorem Reliable.named_succ (h : Reliable policy m depth) (hlevels : m.levels path 1 < depth + 1)
    (name site : String) :
    Agrees path (Extraction.named policy m (depth + 1) name site)
      (policy.visit m path name site) := by
  have hpath : m.levels path 0 < depth := levels_lt_of_lt_succ hlevels Nat.zero_lt_one
  cases hd : m.lookup name with
  | none =>
    rw [named_unknown hd, ExtractPolicy.visit_unknown hd]
    exact (Agrees.fail _).recorded _
  | some d =>
    obtain rfl := HostModule.name_of_lookup hd
    -- The kinds are told apart in the order of the walk: struct, enumeration, interface, alias.
    by_cases hs : d.IsStruct
    · obtain ⟨fields, hs⟩ := hs
      rw [named_struct hd hs]
      exact (h.namedStruct hpath hd hs site).recorded _
    · rw [ExtractPolicy.visit_known hd]
      cases hc : policy.claims? d with
      | some provider =>
        rw [named_enum hd hs hc, ExtractPolicy.reference_enum hs hc]
        exact (enumeration_agrees provider d).recorded _
      | none =>
        by_cases hi : ∃ methods, d.type.deref = .interface methods
        · obtain ⟨methods, hi⟩ := hi
          rw [named_interface hd hc hi, ExtractPolicy.reference_interface hc hi]
          exact (Agrees.fail _).recorded _
        · -- An alias stands for its shape, unless its own mark is set.
          have hnot : ∀ methods, d.type.deref ≠ .interface methods :=
            fun methods h => hi ⟨methods, h⟩
          rw [named_alias hd ⟨hs, hc⟩ hnot, ExtractPolicy.reference_alias ⟨hs, hc⟩ hnot]
          refine Agrees.recorded _ fun s p hsp => AgreesAt.look ?_
          have hmark := hsp.inProgress d.name
          by_cases hp : d.name ∈ path
          · rw [if_pos (hmark.mpr hp), if_pos hp]
            exact Agrees.fail _ s p hsp
          · rw [if_neg (mt hmark.mp hp), if_neg hp]
            have hlt := HostModule.levels_enter_lt hd hp (Nat.le_refl (sizeOf d.type))
            exact ((h.resolve (Nat.lt_trans hlt hpath) none site).within hp) s p hsp

/-- The machine is reliable at any depth: what is handed down is less, by one level at least. -/
theorem reliable (depth : Nat) : Reliable policy m depth := by
  induction depth with
  | zero =>
    refine ⟨fun h => absurd h (Nat.not_lt_zero _), fun h => absurd h (Nat.not_lt_zero _), ?_,
      fun h => absurd h (Nat.not_lt_zero _), fun h => absurd h (Nat.not_lt_zero _)⟩
    -- A list of fields has a size even if it is empty.
    intro path fields h
    have hsize : 1 ≤ sizeOf fields := by cases fields <;> simp +arith
    unfold HostModule.levels at h
    omega
  | succ depth ih =>
    exact ⟨ih.resolve_succ, ih.anonymousStruct_succ, ih.structMembers_succ, ih.named_succ,
      ih.namedStruct_succ⟩

/-! ## Section 5: Walks from a root -/

theorem errorLike_agrees (h : m.types.length < depth) (t : HostType) :
    Agrees path (errorLike m depth t) (ExtractPolicy.errorLike m t) := by
  have hle : m.unentered [] ≤ m.types.length := List.length_filter_le _ _
  unfold errorLike ExtractPolicy.errorLike
  rw [HostModule.errorLikeWithin_eq t (Nat.lt_of_le_of_lt hle h), HostModule.isErrorLike]
  cases m.errorLikeFrom [] t with
  | error name => exact .fail _
  | ok b => exact .pure b

theorem returned_agrees {t : HostType} (h : m.types.length < depth)
    (ht : m.levels path (sizeOf t) < depth) (site : String) :
    Agrees path (returned policy m depth site t)
      (policy.returned m (policy.visit m path) site t) := by
  refine (errorLike_agrees h t).bind fun b => ?_
  cases b with
  | true => exact .pure _
  | false => exact (reliable depth).resolve ht none site

theorem methodReturns_agrees {method : HostMethod} (h : m.types.length < depth)
    (hresults : ∀ t ∈ method.signature.results, m.levels path (sizeOf t) < depth) (d : TypeDecl) :
    Agrees path (methodReturns policy m depth d method)
      (policy.methodReturns m (policy.visit m path) d method) := by
  unfold methodReturns ExtractPolicy.methodReturns
  match hr : method.signature.results with
  | [] => exact .pure _
  | [only] => exact returned_agrees h (hresults only (by simp [hr])) _
  | [first, second] =>
    refine (errorLike_agrees h second).bind fun b => ?_
    cases b with
    | true => exact returned_agrees h (hresults first (by simp [hr])) _
    | false => exact .fail _
  | _ :: _ :: _ :: _ => exact .fail _

theorem methodArgs_agrees (site : String) :
    ∀ {params : List (HostParam × Nat)},
      (∀ p ∈ params, m.levels path (sizeOf p.1.type) < depth) →
      Agrees path (methodArgs policy m depth site params)
        (params.mapM fun (p : HostParam × Nat) => do
          let type ← policy.resolve (policy.visit m path) site none p.1.type
          return (⟨policy.argName p.2 p.1, type⟩ : Arg))
  | [], _ => .pure []
  | (param, i) :: rest, h => by
    rw [List.mapM_cons, bind_assoc]
    refine ((reliable depth).resolve (h _ List.mem_cons_self) none site).bind fun type => ?_
    rw [pure_bind]
    exact (methodArgs_agrees site fun p hp => h p (List.mem_cons_of_mem _ hp)).bind
      fun _ => .pure _

theorem methodMember_agrees {method : HostMethod} (h : m.types.length < depth)
    (hmethod : m.levels path (sizeOf method) < depth) (d : TypeDecl) :
    Agrees path (methodMember policy m depth d method)
      (policy.methodMember m (policy.visit m path) d method) := by
  have hlt : ∀ {t : HostType}, sizeOf t < sizeOf method → m.levels path (sizeOf t) < depth :=
    fun ht => Nat.lt_trans (HostModule.levels_lt_levels ht) hmethod
  rw [ExtractPolicy.methodMember_eq, methodMember]
  by_cases hv : method.signature.variadic
  · rw [if_pos hv, if_pos hv]
    exact .fail _
  · rw [if_neg hv, if_neg hv]
    refine (methodReturns_agrees h (fun t ht => hlt (HostMethod.sizeOf_result_lt ht)) d).bind
      fun returns => ?_
    refine (methodArgs_agrees _ fun p hp => hlt ?_).bind fun _ => .pure _
    exact HostMethod.sizeOf_param_lt (List.fst_mem_of_mem_zipIdx hp)

theorem methodMembers_agrees (h : m.types.length < depth) (d : TypeDecl) :
    ∀ {methods : List HostMethod},
      (∀ method ∈ methods, m.levels path (sizeOf method) < depth) →
      Agrees path (methodMembers policy m depth d methods)
        (methods.mapM (policy.methodMember m (policy.visit m path) d))
  | [], _ => .pure []
  | method :: rest, hmethods => by
    rw [List.mapM_cons]
    exact (methodMember_agrees h (hmethods method List.mem_cons_self) d).bind fun _ =>
      (methodMembers_agrees h d fun _ hm => hmethods _ (List.mem_cons_of_mem _ hm)).bind
        fun _ => .pure _

/-- The root is entered first, as any other declaration. -/
theorem walkRoot_agrees (h : m.maxDepth ≤ depth) (root : HostType) :
    Agrees [] (walkRoot policy m depth root) (policy.walkRoot m root) := by
  have hlevels : m.levels [] 0 < depth := Nat.lt_of_lt_of_le HostModule.levels_nil_lt h
  have hlength : m.types.length < depth := Nat.lt_of_lt_of_le HostModule.length_lt_maxDepth h
  unfold walkRoot ExtractPolicy.walkRoot
  cases root.deref with
  | named name =>
    cases hd : m.lookup name with
    | none =>
      simp only [hd]
      exact .fail _
    | some d =>
      obtain rfl := HostModule.name_of_lookup hd
      simp only [hd]
      cases hshape : d.type.deref with
      | struct fields =>
        have hreliable : Reliable policy m depth := reliable depth
        have hinside := hreliable.members_inside (Nat.le_of_lt hlevels) hd hshape List.not_mem_nil
        exact declareBy_agrees List.not_mem_nil (hinside.walking d)
      | interface methods =>
        -- A method is a part of the shape of its interface, and types are parts of a method.
        have hmethods := HostModule.sizeOf_methods_lt hshape
        refine declareBy_agrees List.not_mem_nil ?_
        rw [← bind_pure_comp]
        refine (methodMembers_agrees hlength d fun method hmem => ?_).bind fun _ => .pure _
        have hlt := List.sizeOf_lt_of_mem hmem
        exact Nat.lt_trans (HostModule.levels_enter_lt hd List.not_mem_nil (by omega)) hlevels
      | _ => exact .fail _
  | _ => exact .fail _

/-- With enough levels the machine gives the graph, or the error, that the library gives. -/
theorem graph_extraction (policy : ExtractPolicy) (root : HostType) (more : Nat) :
    graph policy (extraction policy m (m.maxDepth + more) root) = some (extract m root policy) := by
  have hagree : AgreesAt [] (walkRoot policy m (m.maxDepth + more) root) (policy.walkRoot m root)
      {} {} := walkRoot_agrees (Nat.le_add_right m.maxDepth more) root {} {} .empty
  unfold AgreesAt at hagree
  unfold extraction graph extract StateT.run
  cases hwalk : policy.walkRoot m root {} with
  | error e =>
    rw [hwalk] at hagree
    rw [hagree]
    rfl
  | ok r =>
    rw [hwalk] at hagree
    rw [hagree.1, hagree.2.nodes]
    rfl

end Extraction

/-- The graph of everything that a walk with marks declares from `root`, if no call of it is deeper
    than `depth`. -/
def extractWithin (depth : Nat) (m : HostModule) (root : HostType) (policy : ExtractPolicy) :
    Option (Except ExtractError (List TypeNode)) :=
  Extraction.graph policy (Extraction.extraction policy m depth root)

/-- Whatever the root and the policy, a walk ends with a graph or an error before it is deeper than
    the size of the module allows for. -/
theorem extractWithin_eq_some (m : HostModule) (root : HostType) (policy : ExtractPolicy)
    (more : Nat) :
    extractWithin (m.maxDepth + more) m root policy = some (extract m root policy) :=
  Extraction.graph_extraction policy root more

end TypeExport
