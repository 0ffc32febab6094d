import Mathlib
import TypeExport.Proofs.Walk.Resolution

/-! # Plain Types on Both Paths

    Types without structs and names are mapped in two places.  The map for plain types looks at one
    layer and asks its caller about the types inside, a pointer being a layer like any other.  A
    walk strips all pointers first and then goes on with the same rules, but what it hands inwards
    is itself: a computation that reads and changes the state, follows names and makes declarations.

    On plain types nothing of that can be seen.  The walk computes what the map computes when it is
    applied to itself, it leaves the state alone, and whoever answers for names is not asked.  What
    both compute is described by the leaves of the type from left to right: if each of them is a
    primitive, the node has the shape of the type without its pointers; otherwise the first one that
    is no primitive is refused. -/

namespace TypeExport

/-! ## Section 1: Leaves -/

namespace HostType

/-- The types reached through pointers and collections, from left to right: the key of a map comes
    before its value. -/
def leaves : HostType → List HostType
  | .slice elem | .array _ elem | .pointer elem => elem.leaves
  | .map key value => key.leaves ++ value.leaves
  | t => [t]

/-- Whether the type has a primitive of the target language for its counterpart. -/
def isPrimitive : HostType → Bool
  | .bool | .int .. | .float _ | .string => true
  | _ => false

/-- Whether no struct and no name stands in the type, apart from what channels, functions and
    interfaces are made of: such types are leaves, and nobody looks into them. -/
def isPlain : HostType → Bool
  | .slice elem | .array _ elem | .pointer elem => elem.isPlain
  | .map key value => key.isPlain && value.isPlain
  | .struct _ | .named _ => false
  | _ => true

/-- `Mirrored t n`: the node `n` is the type `t` with every pointer removed, every sequence turned
    into an array and every leaf into its primitive. -/
inductive Mirrored : HostType → TypeNode → Prop
  | bool : Mirrored .bool .boolean
  | int {bits unsigned} : Mirrored (.int bits unsigned) .number
  | float {bits} : Mirrored (.float bits) .number
  | string : Mirrored .string .string
  | slice {elem n} (h : Mirrored elem n) : Mirrored (.slice elem) (.array [n])
  | array {len elem n} (h : Mirrored elem n) : Mirrored (.array len elem) (.array [n])
  | map {key value k v} (hk : Mirrored key k) (hv : Mirrored value v) :
    Mirrored (.map key value) (.map [k, v])
  | pointer {elem n} (h : Mirrored elem n) : Mirrored (.pointer elem) n

/-- The first leaf that has no primitive. -/
def firstUnsupported (t : HostType) : Option HostType := t.leaves.find? (!·.isPrimitive)

theorem firstUnsupported_map (key value : HostType) :
    (HostType.map key value).firstUnsupported =
      key.firstUnsupported.or value.firstUnsupported := by
  unfold firstUnsupported
  rw [leaves, List.find?_append]

end HostType

/-- The place that errors about the type of a field of `owner` name. -/
def HostField.site (owner : String) (f : HostField) : String := s!"{owner}.{f.name}"

open HostType

/-! ## Section 2: The map applied to itself -/

variable {site : String} {t : HostType}

/-- There is one way to apply the map for one layer to itself. -/
theorem eq_plain_iff {recurse : HostType → Except ExtractError TypeNode} :
    recurse = plain site ↔ ∀ t, recurse t = mapPlain recurse site t := by
  constructor
  · intro h t
    rw [h]
    exact plain_eq_mapPlain site t
  · intro h
    funext t
    fun_induction plain site t with
    | case1 elem ih => rw [h, mapPlain, ih]
    | case2 len elem ih => rw [h, mapPlain, ih]
    | case3 key value ihk ihv => rw [h, mapPlain, ihk, ihv]
    | case4 elem ih => rw [h, mapPlain, ih]
    | case5 t =>
      rw [h, mapPlain]
      · cases leaf site t <;> rfl
      all_goals assumption

/-- The map applied to itself ends at the first leaf that has no primitive, and otherwise with the
    node that mirrors the type. -/
theorem plain_cases (site : String) (t : HostType) :
    (∃ n, t.firstUnsupported = none ∧ Mirrored t n ∧ plain site t = .ok n) ∨
      ∃ l, t.firstUnsupported = some l ∧ plain site t = .error (.unsupportedKind l.kind site) := by
  fun_induction plain site t with
  | case1 elem ih =>
    rcases ih with ⟨n, hnone, hn, hp⟩ | ⟨l, hl, hp⟩
    · exact .inl ⟨.array [n], hnone, .slice hn, by rw [hp]; rfl⟩
    · exact .inr ⟨l, hl, by rw [hp]; rfl⟩
  | case2 len elem ih =>
    rcases ih with ⟨n, hnone, hn, hp⟩ | ⟨l, hl, hp⟩
    · exact .inl ⟨.array [n], hnone, .array hn, by rw [hp]; rfl⟩
    · exact .inr ⟨l, hl, by rw [hp]; rfl⟩
  | case3 key value ihk ihv =>
    rw [firstUnsupported_map]
    rcases ihk with ⟨k, hknone, hk, hpk⟩ | ⟨l, hl, hpk⟩
    · -- Nothing is wrong with the key, so the value decides.
      rcases ihv with ⟨v, hvnone, hv, hpv⟩ | ⟨l, hl, hpv⟩
      · exact .inl ⟨.map [k, v], by rw [hknone, hvnone]; rfl, .map hk hv, by rw [hpk, hpv]; rfl⟩
      · exact .inr ⟨l, by rw [hknone, hl]; rfl, by rw [hpk, hpv]; rfl⟩
    · exact .inr ⟨l, by rw [hl]; rfl, by rw [hpk]; rfl⟩
  | case4 elem ih =>
    rcases ih with ⟨n, hnone, hn, hp⟩ | ⟨l, hl, hp⟩
    · exact .inl ⟨n, hnone, .pointer hn, hp⟩
    · exact .inr ⟨l, hl, hp⟩
  | case5 t hslice harray hmap hpointer =>
    -- What is left is a leaf, or a kind without counterpart.
    cases t with
    | slice elem => exact absurd rfl (hslice elem)
    | array len elem => exact absurd rfl (harray len elem)
    | map key value => exact absurd rfl (hmap key value)
    | pointer elem => exact absurd rfl (hpointer elem)
    | bool => exact .inl ⟨.boolean, rfl, .bool, rfl⟩
    | int bits unsigned => exact .inl ⟨.number, rfl, .int, rfl⟩
    | float bits => exact .inl ⟨.number, rfl, .float, rfl⟩
    | string => exact .inl ⟨.string, rfl, .string, rfl⟩
    | _ => exact .inr ⟨_, rfl, rfl⟩

/-- A node that mirrors the type is computed. -/
theorem HostType.Mirrored.plain_eq {n : TypeNode} (h : Mirrored t n) (site : String) :
    plain site t = .ok n := by
  induction h with
  | bool | int | float | string => rfl
  | slice _ ih => rw [plain, ih]; rfl
  | array _ ih => rw [plain, ih]; rfl
  | map _ _ ihk ihv => rw [plain, ihk, ihv]; rfl
  | pointer _ ih => rw [plain, ih]

theorem plain_eq_ok_iff {n : TypeNode} : plain site t = .ok n ↔ Mirrored t n := by
  constructor
  · intro h
    rcases plain_cases site t with ⟨k, -, hk, hp⟩ | ⟨l, -, hp⟩
    · rw [h] at hp
      rwa [Except.ok.inj hp]
    · rw [h] at hp
      exact absurd hp (by simp)
  · intro h
    exact h.plain_eq site

theorem plain_eq_error_iff {e : ExtractError} :
    plain site t = .error e ↔
      ∃ l, t.firstUnsupported = some l ∧ e = .unsupportedKind l.kind site := by
  rcases plain_cases site t with ⟨n, hnone, -, hp⟩ | ⟨l, hl, hp⟩
  · simp [hp, hnone]
  · simp [hp, hl, eq_comm]

/-- The types that are mirrored are those made of primitives. -/
theorem exists_mirrored_iff : (∃ n, Mirrored t n) ↔ ∀ l ∈ t.leaves, l.isPrimitive = true := by
  have hnone : t.firstUnsupported = none ↔ ∀ l ∈ t.leaves, l.isPrimitive = true := by
    simp [firstUnsupported]
  rw [← hnone]
  rcases plain_cases "" t with ⟨n, hn, hm, -⟩ | ⟨l, hl, hp⟩
  · exact ⟨fun _ => hn, fun _ => ⟨n, hm⟩⟩
  · constructor
    · rintro ⟨n, hm⟩
      rw [hm.plain_eq] at hp
      exact absurd hp (by simp)
    · intro h
      rw [h] at hl
      exact absurd hl (by simp)

/-- The first leaf without a primitive comes right after a row of primitives. -/
theorem firstUnsupported_eq_some_iff {l : HostType} :
    t.firstUnsupported = some l ↔
      ∃ before after, t.leaves = before ++ l :: after ∧ l.isPrimitive = false ∧
        ∀ k ∈ before, k.isPrimitive = true := by
  unfold firstUnsupported
  rw [List.find?_eq_some_iff_append]
  simp only [Bool.not_eq_true', Bool.not_not]
  constructor
  · rintro ⟨hl, before, after, heq, hbefore⟩
    exact ⟨before, after, heq, hl, hbefore⟩
  · rintro ⟨before, after, heq, hl, hbefore⟩
    exact ⟨hl, before, after, heq, hbefore⟩

/-! ## Section 3: The walk -/

namespace ExtractPolicy

variable {policy : ExtractPolicy} {visit : Visit}

/-- Where the pointers of a type lead to neither a struct nor a name, a walk strips them and goes on
    as the map for one layer does, with itself for the types inside. -/
theorem resolve_eq_mapPlain {field : Option HostField}
    (hstruct : ∀ fields, t.deref ≠ .struct fields) (hnamed : ∀ name, t.deref ≠ .named name) :
    policy.resolve visit site field t = mapPlain (policy.resolve visit site none) site t.deref := by
  induction t using HostType.deref.induct with
  | case1 elem ih =>
    rw [resolve, ih hstruct hnamed]
    rfl
  | case2 t hpointer =>
    rw [HostType.deref] at hstruct hnamed ⊢
    · cases t with
      | pointer elem => exact absurd rfl (hpointer elem)
      | struct fields => exact absurd rfl (hstruct fields)
      | named name => exact absurd rfl (hnamed name)
      | slice elem => rw [resolve, mapPlain]
      | array len elem => rw [resolve, mapPlain]
      | map key value => rw [resolve, mapPlain]
      | _ => simp only [resolve, mapPlain]
    all_goals exact hpointer

/-- On plain types the walk is the map applied to itself: it does not touch the state, and nobody is
    asked about names. -/
theorem resolve_eq_plain {field : Option HostField} (hplain : t.isPlain = true) :
    policy.resolve visit site field t = liftExcept (plain site t) := by
  fun_induction plain site t generalizing field with
  | case1 elem ih =>
    rw [resolve, ih hplain]
    cases plain site elem <;> rfl
  | case2 len elem ih =>
    rw [resolve, ih hplain]
    cases plain site elem <;> rfl
  | case3 key value ihk ihv =>
    obtain ⟨hk, hv⟩ := Bool.and_eq_true_iff.mp hplain
    rw [resolve, ihk hk, ihv hv]
    cases plain site key with
    | error e => rfl
    | ok k => cases plain site value <;> rfl
  | case4 elem ih => rw [resolve, ih hplain]
  | case5 t hslice harray hmap hpointer =>
    -- Neither a struct nor a name is plain.
    have hstruct : ∀ fields, t ≠ .struct fields := by
      rintro fields rfl
      exact absurd hplain (by simp [isPlain])
    have hnamed : ∀ name, t ≠ .named name := by
      rintro name rfl
      exact absurd hplain (by simp [isPlain])
    rw [resolve] <;> assumption

/-- A field of a plain type has the outcome of the map applied to itself at the site of the field,
    under every policy, whoever answers for names, and from every state, which stays as it is; and
    this outcome is all that the field adds to its struct.  It is the node that mirrors the type,
    and there is one just if all leaves are primitives; otherwise the first leaf that is none is
    refused under its kind and the site. -/
theorem resolve_field_exact (policy : ExtractPolicy) (visit : Visit) (owner : String)
    (field : HostField) (hplain : field.type.isPlain = true) :
    (∀ found : Progress,
      (policy.resolve visit (field.site owner) (some field) field.type).run found =
        (plain (field.site owner) field.type).map (·, found)) ∧
    (field.isVisible = true → ∀ rest, policy.structMembers visit owner (field :: rest) = do
      let node ← liftExcept (plain (field.site owner) field.type)
      let members ← policy.structMembers visit owner rest
      return field.property node :: members) ∧
    (∀ recurse, recurse = plain (field.site owner) ↔
      ∀ t, recurse t = mapPlain recurse (field.site owner) t) ∧
    (∀ n, plain (field.site owner) field.type = .ok n ↔ Mirrored field.type n) ∧
    ((∃ n, Mirrored field.type n) ↔ ∀ l ∈ field.type.leaves, l.isPrimitive = true) ∧
    ∀ e, plain (field.site owner) field.type = .error e ↔
      ∃ before l after, field.type.leaves = before ++ l :: after ∧ l.isPrimitive = false ∧
        (∀ k ∈ before, k.isPrimitive = true) ∧ e = .unsupportedKind l.kind (field.site owner) := by
  refine ⟨?_, ?_, fun recurse => eq_plain_iff, fun n => plain_eq_ok_iff, exists_mirrored_iff, ?_⟩
  · intro found
    rw [resolve_eq_plain hplain]
    cases plain (field.site owner) field.type <;> rfl
  · intro hvisible rest
    rw [structMembers_cons, if_pos hvisible, resolve_eq_plain hplain]
    rfl
  · intro e
    -- The leaf that is blamed is the first one that is not primitive.
    rw [plain_eq_error_iff]
    constructor
    · rintro ⟨l, hl, he⟩
      obtain ⟨before, after, heq, hbad, hbefore⟩ := firstUnsupported_eq_some_iff.mp hl
      exact ⟨before, l, after, heq, hbad, hbefore, he⟩
    · rintro ⟨before, l, after, heq, hbad, hbefore, he⟩
      exact ⟨l, firstUnsupported_eq_some_iff.mpr ⟨before, after, heq, hbad, hbefore⟩, he⟩

/-- A field with pointers at three levels. -/
def routesField : HostField :=
  ⟨"Routes", .pointer (.map .string (.pointer (.slice (.pointer (.array 4 (.int 32 false)))))),
    none⟩

/-- It is written without them, in the middle of a walk that has made a declaration. -/
theorem routesField_mirrored :
    routesField.type.isPlain = true ∧
      (ExtractPolicy.default.resolve (ExtractPolicy.default.visit {} ["Server"])
        (routesField.site "Server") (some routesField) routesField.type).run
          ⟨[.interface "Host" none []], ["Host"]⟩ =
        .ok (.map [.string, .array [.array [.number]]],
          ⟨[.interface "Host" none []], ["Host"]⟩) := by
  refine ⟨rfl, ?_⟩
  obtain ⟨hrun, -, -, hok, -⟩ := resolve_field_exact ExtractPolicy.default
    (ExtractPolicy.default.visit {} ["Server"]) "Server" routesField rfl
  have hnode := (hok (.map [.string, .array [.array [.number]]])).mpr
    (.pointer (.map .string (.pointer (.slice (.pointer (.array .int))))))
  rw [hrun, hnode]
  rfl

/-- Of two leaves without a primitive the one in the key is reported. -/
example : plain "Server.Limits" (.map (.slice (.chan .bool)) (.complex 64)) =
    .error (.unsupportedKind "chan" "Server.Limits") := rfl

end ExtractPolicy

end TypeExport
