import Mathlib.Data.List.Permutation
import TypeExport.Proofs.Conformance.Judgement

/-! # Where an Instance Disagrees

    The check goes on from a value to one of its parts only when everything that is tried before
    that part has been found right: the keys of an object before its members, members in the order
    of their declaration, items in the order of their positions.  `GoesOn` is one such step,
    `Arrives` is a sequence of them, and `Fault` says what can be wrong with a value right where it
    is.

    The check fails with an error if and only if it arrives at a fault that the error reports
    (`check_eq_error_iff`).  So a reported place exists in the instance, and what is reported of it
    is the case. -/

namespace TypeExport

open Json

/-! ## Section 1: Places -/

/-- The step leads from the first value to the second one, which is a part of it. -/
inductive Json.Value.HasPart : Value → PathStep → Value → Prop
  | member {k entries v} (h : (k, v) ∈ entries) : HasPart (.object entries) (.member k) v
  | key {k entries v} (h : (k, v) ∈ entries) : HasPart (.object entries) (.key k) v
  | index {i : Nat} {items : List Value} {v} (h : items[i]? = some v) :
    HasPart (.array items) (.index i) v

/-- The steps lead, one after the other, from the first value to the second one. -/
inductive Json.Value.HasPlace : Value → List PathStep → Value → Prop
  | nil {v} : HasPlace v [] v
  | cons {v w u step steps} (h : v.HasPart step w) (hs : HasPlace w steps u) :
    HasPlace v (step :: steps) u

/-- The text of a step: a member stands behind a dot, a position or a shown key in brackets. -/
def PathStep.text : PathStep → String
  | .member name => "." ++ name
  | .index i => "[" ++ toString i ++ "]"
  | .key k => "[" ++ Text.showKey k ++ "]"

/-- The text of steps, one after the other. -/
def stepsText (steps : List PathStep) : String := String.join (steps.map PathStep.text)

theorem stepsText_cons (step : PathStep) (steps : List PathStep) :
    stepsText (step :: steps) = step.text ++ stepsText steps := by
  simp [stepsText]

theorem stepsText_append (steps steps' : List PathStep) :
    stepsText (steps ++ steps') = stepsText steps ++ stepsText steps' := by
  simp [stepsText]

theorem stepsText_singleton (step : PathStep) : stepsText [step] = step.text := by
  simp [stepsText]

theorem extendPath_eq (path : String) (step : PathStep) :
    extendPath path step = path ++ step.text := by
  cases step <;> simp [extendPath, PathStep.text, String.append_assoc, toString]

/-- What a value is expected to be, in the words of an error. -/
def TypeNode.expects : TypeNode → String
  | .simple name => name
  | .void => "void"
  | .array _ => "array"
  | .map _ => "map"
  | .interface .. => "object"
  | .enum name .. => s!"a member of {name}"

namespace Conformance

variable (graph : List TypeNode)

/-! ## Section 2: The way of the check -/

/-- The check of the value against the node goes on with a part of the value against another node,
    after all that comes before has been found right. -/
inductive GoesOn : TypeNode → Value → PathStep → TypeNode → Value → Prop
  /-- Items are tried by their positions. -/
  | item {elem before v after} (hbefore : ∀ w ∈ before, Conforms graph elem w) :
    GoesOn (.array [elem]) (.array (before ++ v :: after)) (.index before.length) elem v
  | entry {key elem before k v after} (hbefore : ∀ x ∈ before, Conforms graph elem x.2) :
    GoesOn (.map [key, elem]) (.object (before ++ (k, v) :: after)) (.key k) elem v
  /-- All keys of an object are declared before a member is tried, and members are tried as they are
      declared. -/
  | member {name comment members entries before mem after v}
    (hkeys : ∀ x ∈ entries, Declared members x.1)
    (hmembers : members.filter (!·.function) = before ++ mem :: after)
    (hbefore : MembersConform graph before entries)
    (hfound : Value.lookup mem.name entries = some v) :
    GoesOn (.interface name comment members) (.object entries) (.member mem.name) mem.type v

/-- The check of the first value against the first node arrives, by these steps, at the second
    value, which it checks against the second node. -/
inductive Arrives : TypeNode → Value → List PathStep → TypeNode → Value → Prop
  | here {node v} : Arrives node v [] node v
  /-- A name stands for the first node of that name. -/
  | named {name node v steps node' w} (hp : name ∉ primitiveNames)
    (hfind : graph.find? (·.name == name) = some node) (hd : node.IsDeclaration)
    (h : Arrives node v steps node' w) : Arrives (.simple name) v steps node' w
  | step {node v step node' w steps node'' u} (hs : GoesOn graph node v step node' w)
    (h : Arrives node' w steps node'' u) : Arrives node v (step :: steps) node'' u

/-- The value at the path is not as the node demands, by itself and not by one of its parts. -/
inductive Fault : TypeNode → Value → String → ConformanceError → Prop
  | primitive {name v path} (hp : name ∈ primitiveNames) (h : v.kind ≠ name) :
    Fault (.simple name) v path (.mismatch path name v.kind)
  | unknown {name v path} (hp : name ∉ primitiveNames)
    (h : ∀ node, graph.find? (·.name == name) = some node → ¬ node.IsDeclaration) :
    Fault (.simple name) v path (.unknownType path name)
  | void {v path} (h : v ≠ .null) : Fault .void v path (.mismatch path "void" v.kind)
  | arrayArity {params v path} (h : params.length ≠ 1) :
    Fault (.array params) v path (.malformed path "array")
  | array {elem v path} (h : ∀ items, v ≠ .array items) :
    Fault (.array [elem]) v path (.mismatch path "array" v.kind)
  | mapArity {params v path} (h : params.length ≠ 2) :
    Fault (.map params) v path (.malformed path "map")
  | map {key elem v path} (h : ∀ entries, v ≠ .object entries) :
    Fault (.map [key, elem]) v path (.mismatch path "map" v.kind)
  | interface {name comment members v path} (h : ∀ entries, v ≠ .object entries) :
    Fault (.interface name comment members) v path (.mismatch path "object" v.kind)
  /-- The first key that is not declared is reported, whatever the members are. -/
  | unexpected {name comment members before k v after path}
    (hbefore : ∀ x ∈ before, Declared members x.1) (h : ¬ Declared members k) :
    Fault (.interface name comment members) (.object (before ++ (k, v) :: after)) path
      (.unexpected (path ++ (PathStep.member k).text))
  | missing {name comment members entries before mem after path}
    (hkeys : ∀ x ∈ entries, Declared members x.1)
    (hmembers : members.filter (!·.function) = before ++ mem :: after)
    (hbefore : MembersConform graph before entries)
    (hfound : Value.lookup mem.name entries = none) (hrequired : mem.optional = false) :
    Fault (.interface name comment members) (.object entries) path
      (.missing (path ++ (PathStep.member mem.name).text))
  | enum {name comment members v path}
    (h : ∀ member ∈ members, Value.parse member.value ≠ some v) :
    Fault (.enum name comment members) v path (.mismatch path s!"a member of {name}" v.kind)

variable {graph : List TypeNode}

/-- The part that the check goes on with is smaller than the whole. -/
theorem GoesOn.sizeOf_lt {node node' : TypeNode} {v w : Value} {step : PathStep}
    (h : GoesOn graph node v step node' w) : sizeOf w < sizeOf v := by
  cases h with
  | item => exact sizeOf_item_lt (by simp)
  | @entry _ _ before k _ after => exact sizeOf_entry_lt (e := (k, w)) (by simp)
  | member _ _ _ hfound => exact sizeOf_lookup_lt hfound

theorem GoesOn.hasPart {node node' : TypeNode} {v w : Value} {step : PathStep}
    (h : GoesOn graph node v step node' w) : v.HasPart step w := by
  cases h with
  | item => exact .index (by simp)
  | entry => exact .key (by simp)
  | member _ _ _ hfound =>
    obtain ⟨⟨k, x⟩, hx, rfl⟩ := Option.map_eq_some_iff.mp hfound
    obtain rfl : k = _ := by simpa using List.find?_some hx
    exact .member (List.mem_of_find?_eq_some hx)

/-- The check arrives only at places that the value has. -/
theorem Arrives.hasPlace {node node' : TypeNode} {v w : Value} {steps : List PathStep}
    (h : Arrives graph node v steps node' w) : v.HasPlace steps w := by
  induction h with
  | here => exact .nil
  | named _ _ _ _ ih => exact ih
  | step hs _ ih => exact .cons hs.hasPart ih

/-! ## Section 3: The loops of the check -/

/-- A list of checks fails with the first check that fails. -/
theorem forM_eq_error_iff {α : Type} {f : α → Except ConformanceError Unit} {l : List α}
    {e : ConformanceError} :
    forM l f = .error e ↔ ∃ before x after, l = before ++ x :: after ∧
      (∀ y ∈ before, f y = .ok ()) ∧ f x = .error e := by
  induction l with
  | nil => simp [pure, Except.pure]
  | cons x l ih =>
    rw [List.forM_cons, bind_check]
    cases hx : f x with
    | error e' =>
      constructor
      · intro h
        exact ⟨[], x, l, rfl, by simp, hx.trans h⟩
      · rintro ⟨_ | ⟨y, before⟩, z, after, hl, hbefore, hz⟩
        · obtain rfl := (List.cons.inj hl).1
          exact hx.symm.trans hz
        · -- The first check would not have failed.
          obtain rfl := (List.cons.inj hl).1
          exact absurd (hx.symm.trans (hbefore x List.mem_cons_self)) (by simp)
    -- The first check passes, so the one that fails is among the rest.
    | ok u =>
      simp only [ih]
      constructor
      · rintro ⟨before, z, after, rfl, hbefore, hz⟩
        exact ⟨x :: before, z, after, rfl, List.forall_mem_cons.mpr ⟨hx, hbefore⟩, hz⟩
      · rintro ⟨_ | ⟨y, before⟩, z, after, hl, hbefore, hz⟩
        · obtain rfl := (List.cons.inj hl).1
          exact absurd (hx.symm.trans hz) (by simp)
        · exact ⟨before, z, after, (List.cons.inj hl).2, (List.forall_mem_cons.mp hbefore).2, hz⟩

/-! ## Section 4: What makes each node fail -/

/-- An array fails with the first of its items that fails. -/
theorem check_array_eq_error_iff {elem : TypeNode} {items : List Value} {path : String}
    {e : ConformanceError} :
    check graph (.array [elem]) (.array items) path = .error e ↔
      ∃ before v after, items = before ++ v :: after ∧ (∀ w ∈ before, Conforms graph elem w) ∧
        check graph elem v (extendPath path (.index before.length)) = .error e := by
  rw [check_array_eq, forM_eq_error_iff]
  constructor
  · rintro ⟨before, ⟨v, i⟩, after, hitems, hbefore, hv⟩
    -- The position of an item is the number of items before it.
    obtain ⟨before, rest, rfl, rfl, hrest⟩ := List.zipIdx_eq_append_iff.mp hitems
    obtain ⟨w, after, rfl, hhead, rfl⟩ := List.zipIdx_eq_cons_iff.mp hrest.symm
    obtain ⟨rfl, rfl⟩ := Prod.mk.inj hhead
    rw [Nat.zero_add] at hv
    refine ⟨before, v, after, rfl, ?_, hv⟩
    intro w hw
    rw [← List.zipIdx_map_fst 0 before] at hw
    obtain ⟨x, hx, rfl⟩ := List.mem_map.mp hw
    exact check_eq_ok_iff.mp (hbefore x hx)
  · rintro ⟨before, v, after, rfl, hbefore, hv⟩
    refine ⟨before.zipIdx, (v, before.length), after.zipIdx (before.length + 1), ?_, ?_, hv⟩
    · rw [List.zipIdx_append, List.zipIdx_cons, Nat.zero_add]
    · intro x hx
      exact check_eq_ok_iff.mpr (hbefore x.1 (List.fst_mem_of_mem_zipIdx hx))

/-- A map fails with the first of its values that fails. -/
theorem check_map_eq_error_iff {key elem : TypeNode} {entries : List (String × Value)}
    {path : String} {e : ConformanceError} :
    check graph (.map [key, elem]) (.object entries) path = .error e ↔
      ∃ before k v after, entries = before ++ (k, v) :: after ∧
        (∀ x ∈ before, Conforms graph elem x.2) ∧
        check graph elem v (extendPath path (.key k)) = .error e := by
  rw [check_map_eq, forM_eq_error_iff]
  simp only [check_eq_ok_iff, Prod.exists]

/-- The keys of an object fail with the first one that is not declared. -/
theorem checkKeys_eq_error_iff {members : List Member} {entries : List (String × Value)}
    {path : String} {e : ConformanceError} :
    checkKeys members entries path = .error e ↔
      ∃ before k v after, entries = before ++ (k, v) :: after ∧
        (∀ x ∈ before, Declared members x.1) ∧ ¬ Declared members k ∧
        e = .unexpected (path ++ (PathStep.member k).text) := by
  simp only [← declares_iff, ← extendPath_eq]
  unfold checkKeys
  constructor
  · intro h
    split at h
    · rename_i k v hfind
      obtain ⟨hk, before, after, rfl, hbefore⟩ := List.find?_eq_some_iff_append.mp hfind
      exact ⟨before, k, v, after, rfl, by simpa using hbefore, by simpa using hk,
        (Except.error.inj h).symm⟩
    · exact absurd h (by simp)
  · rintro ⟨before, k, v, after, rfl, hbefore, hk, rfl⟩
    -- All keys before it are declared, so this is the one that is found.
    have hfind : (before ++ (k, v) :: after).find? (fun x => !declares members x.1) =
        some (k, v) :=
      List.find?_eq_some_iff_append.mpr
        ⟨by simpa using hk, before, after, rfl, by simpa using hbefore⟩
    rw [hfind]

/-- An object fails with its keys, or else with the first of its members that fails. -/
theorem check_interface_eq_error_iff {name : String} {comment : Option String}
    {members : List Member} {entries : List (String × Value)} {path : String}
    {e : ConformanceError} :
    check graph (.interface name comment members) (.object entries) path = .error e ↔
      checkKeys members entries path = .error e ∨
        (∀ x ∈ entries, Declared members x.1) ∧
          ∃ before mem after, members.filter (!·.function) = before ++ mem :: after ∧
            MembersConform graph before entries ∧
            checkMember graph entries path mem = .error e := by
  rw [check_interface_eq, bind_check, ← checkKeys_eq_ok_iff path]
  cases checkKeys members entries path with
  | error e' => simp
  | ok u => simp [forM_eq_error_iff, membersConform_iff path]

/-- The error at a fault is what the check of it comes to. -/
theorem Fault.check_eq {node : TypeNode} {v : Value} {path : String} {e : ConformanceError}
    (h : Fault graph node v path e) : check graph node v path = .error e := by
  cases h with
  | primitive hp h => rw [check_primitive hp, expect, if_neg (by simpa using h)]
  | unknown hp h => exact check_of_unknown hp h v path
  | void h => cases v <;> simp_all [check, expect]
  | arrayArity h => exact check_array_malformed h v path
  | array h => exact check_array_mismatch h _ path
  | mapArity h => exact check_map_malformed h v path
  | map h => exact check_map_mismatch h _ _ path
  | interface h => exact check_interface_mismatch h _ _ _ path
  -- Keys are checked first, so nothing else has to be known of the entries.
  | unexpected hbefore h =>
    refine check_interface_eq_error_iff.mpr (.inl ?_)
    exact checkKeys_eq_error_iff.mpr ⟨_, _, _, _, rfl, hbefore, h, rfl⟩
  | missing hkeys hmembers hbefore hfound hrequired =>
    refine check_interface_eq_error_iff.mpr (.inr ⟨hkeys, _, _, _, hmembers, hbefore, ?_⟩)
    rw [checkMember, hfound]
    simp [hrequired, extendPath_eq]
  | @enum _ _ members _ _ h =>
    have hnone : members.any (denotes · v) = false := by
      simpa [denotes] using h
    rw [check, checkEnum, hnone]
    rfl

/-- A part fails in the same way as the whole does. -/
theorem GoesOn.check_eq {node node' : TypeNode} {v w : Value} {step : PathStep} {path : String}
    {e : ConformanceError} (h : GoesOn graph node v step node' w)
    (he : check graph node' w (extendPath path step) = .error e) :
    check graph node v path = .error e := by
  cases h with
  | item hbefore => exact check_array_eq_error_iff.mpr ⟨_, _, _, rfl, hbefore, he⟩
  | entry hbefore => exact check_map_eq_error_iff.mpr ⟨_, _, _, _, rfl, hbefore, he⟩
  | member hkeys hmembers hbefore hfound =>
    refine check_interface_eq_error_iff.mpr (.inr ⟨hkeys, _, _, _, hmembers, hbefore, ?_⟩)
    rw [checkMember, hfound]
    exact he

/-- What the check of a value fails for: a fault of its own, a part of it, or what its name stands
    for. -/
inductive Fails (graph : List TypeNode) (path : String) (e : ConformanceError) :
    TypeNode → Value → Prop
  | fault {node v} (h : Fault graph node v path e) : Fails graph path e node v
  | part {node v step node' w} (hs : GoesOn graph node v step node' w)
    (h : check graph node' w (extendPath path step) = .error e) : Fails graph path e node v
  | named {name node v} (hp : name ∉ primitiveNames)
    (hfind : graph.find? (·.name == name) = some node) (hd : node.IsDeclaration)
    (h : Fails graph path e node v) : Fails graph path e (.simple name) v

/-- A fault is what the check fails for. -/
theorem Fault.fails {node : TypeNode} {v : Value} {path : String} {e e' : ConformanceError}
    (hfault : Fault graph node v path e') (h : check graph node v path = .error e) :
    Fails graph path e node v := by
  obtain rfl : e' = e := Except.error.inj (hfault.check_eq.symm.trans h)
  exact .fault hfault

theorem fails_interface {name : String} {comment : Option String} {members : List Member}
    {v : Value} {path : String} {e : ConformanceError}
    (h : check graph (.interface name comment members) v path = .error e) :
    Fails graph path e (.interface name comment members) v := by
  by_cases hobject : ∃ entries, v = .object entries
  · obtain ⟨entries, rfl⟩ := hobject
    rcases check_interface_eq_error_iff.mp h with h | ⟨hkeys, before, mem, after, hmembers, hb, h⟩
    · -- A key that is not declared: the first one is reported.
      obtain ⟨before, k, w, after, rfl, hbefore, hk, rfl⟩ := checkKeys_eq_error_iff.mp h
      exact .fault (.unexpected hbefore hk)
    -- All keys are declared.  A member fails by what it holds or by not being there.
    · unfold checkMember at h
      cases hfound : Value.lookup mem.name entries with
      | some w =>
        rw [hfound] at h
        exact .part (.member hkeys hmembers hb hfound) h
      | none =>
        rw [hfound] at h
        cases hrequired : mem.optional with
        | true => simp [hrequired] at h
        | false =>
          obtain rfl : ConformanceError.missing _ = e := by
            simpa [hrequired, extendPath_eq] using h
          exact .fault (.missing hkeys hmembers hb hfound hrequired)
  · have hfault : Fault graph (.interface name comment members) v path _ :=
      .interface fun entries hv => hobject ⟨entries, hv⟩
    exact hfault.fails h

theorem fails_array {params : List TypeNode} {v : Value} {path : String} {e : ConformanceError}
    (h : check graph (.array params) v path = .error e) : Fails graph path e (.array params) v := by
  by_cases harity : params.length = 1
  · obtain ⟨elem, rfl⟩ := List.length_eq_one_iff.mp harity
    by_cases harray : ∃ items, v = .array items
    · obtain ⟨items, rfl⟩ := harray
      obtain ⟨before, w, after, rfl, hbefore, hw⟩ := check_array_eq_error_iff.mp h
      exact .part (.item hbefore) hw
    · have hfault : Fault graph (.array [elem]) v path _ :=
        .array fun items hv => harray ⟨items, hv⟩
      exact hfault.fails h
  · have hfault : Fault graph (.array params) v path _ := .arrayArity harity
    exact hfault.fails h

theorem fails_map {params : List TypeNode} {v : Value} {path : String} {e : ConformanceError}
    (h : check graph (.map params) v path = .error e) : Fails graph path e (.map params) v := by
  by_cases harity : params.length = 2
  · obtain ⟨key, elem, rfl⟩ := List.length_eq_two.mp harity
    by_cases hobject : ∃ entries, v = .object entries
    · obtain ⟨entries, rfl⟩ := hobject
      obtain ⟨before, k, w, after, rfl, hbefore, hw⟩ := check_map_eq_error_iff.mp h
      exact .part (.entry hbefore) hw
    · have hfault : Fault graph (.map [key, elem]) v path _ :=
        .map fun entries hv => hobject ⟨entries, hv⟩
      exact hfault.fails h
  · have hfault : Fault graph (.map params) v path _ := .mapArity harity
    exact hfault.fails h

theorem fails_enum {name : String} {comment : Option String} {members : List EnumMember}
    {v : Value} {path : String} {e : ConformanceError}
    (h : check graph (.enum name comment members) v path = .error e) :
    Fails graph path e (.enum name comment members) v := by
  have hfault : Fault graph (.enum name comment members) v path
      (.mismatch path s!"a member of {name}" v.kind) := by
    refine .enum fun member hm hread => ?_
    have hok : check graph (.enum name comment members) v path = .ok () :=
      check_eq_ok_iff.mpr (.enum hm hread)
    exact absurd (h.symm.trans hok) (by simp)
  exact hfault.fails h

theorem fails_simple {name : String} {v : Value} {path : String} {e : ConformanceError}
    (h : check graph (.simple name) v path = .error e) : Fails graph path e (.simple name) v := by
  by_cases hp : name ∈ primitiveNames
  · rw [check_primitive hp, expect] at h
    split at h
    · exact absurd h (by simp)
    · rename_i hkind
      obtain rfl := Except.error.inj h
      exact .fault (.primitive hp (by simpa using hkind))
  · by_cases hd : ∃ node, graph.find? (·.name == name) = some node ∧ node.IsDeclaration
    · obtain ⟨node, hfind, hd⟩ := hd
      rw [check_of_named hp hfind hd] at h
      refine .named hp hfind hd ?_
      cases hd with
      | interface => exact fails_interface h
      | enum => exact fails_enum h
    · have hfault : Fault graph (.simple name) v path (.unknownType path name) :=
        .unknown hp fun node hfind hdecl => hd ⟨node, hfind, hdecl⟩
      exact hfault.fails h

/-- Every failure is of one of these sorts. -/
theorem fails_of_check {node : TypeNode} {v : Value} {path : String} {e : ConformanceError}
    (h : check graph node v path = .error e) : Fails graph path e node v := by
  cases node with
  | simple name => exact fails_simple h
  | array params => exact fails_array h
  | map params => exact fails_map h
  | interface name comment members => exact fails_interface h
  | enum name comment members => exact fails_enum h
  | void =>
    have hfault : Fault graph .void v path (.mismatch path "void" v.kind) := by
      refine .void ?_
      rintro rfl
      simp [check, expect] at h
    exact hfault.fails h

/-! ## Section 5: The whole way -/

/-- The check fails if and only if it arrives at a fault, and with the error that reports it. -/
theorem check_eq_error_iff {node : TypeNode} {v : Value} {path : String} {e : ConformanceError} :
    check graph node v path = .error e ↔ ∃ steps node' w,
      Arrives graph node v steps node' w ∧ Fault graph node' w (path ++ stepsText steps) e := by
  constructor
  · -- Names are followed without a step, so the induction is on the value.
    induction hk : sizeOf v using Nat.strongRecOn generalizing node v path with
    | _ k ih =>
      subst hk
      intro h
      induction fails_of_check h with
      | fault hfault => exact ⟨[], _, _, .here, by simpa [stepsText] using hfault⟩
      | part hs hpart =>
        obtain ⟨steps, node', w, harrives, hfault⟩ := ih _ hs.sizeOf_lt rfl hpart
        refine ⟨_, node', w, .step hs harrives, ?_⟩
        rwa [stepsText_cons, ← String.append_assoc, ← extendPath_eq]
      | named hp hfind hd _ ih' =>
        obtain ⟨steps, node', w, harrives, hfault⟩ :=
          ih' ih ((check_of_named hp hfind hd _ _).symm.trans h)
        exact ⟨steps, node', w, .named hp hfind hd harrives, hfault⟩
  -- Going back, the text of the path grows by one step for each part.
  · rintro ⟨steps, node', w, harrives, hfault⟩
    induction harrives generalizing path with
    | here =>
      rw [stepsText, List.map_nil, String.join_nil, String.append_empty] at hfault
      exact hfault.check_eq
    | named hp hfind hd _ ih => exact (check_of_named hp hfind hd _ _).trans (ih hfault)
    | step hs _ ih =>
      rw [stepsText_cons, ← String.append_assoc, ← extendPath_eq] at hfault
      exact hs.check_eq (ih hfault)

/-- Where there is a fault the value does not conform. -/
theorem Fault.not_conforms {node : TypeNode} {v : Value} {path : String} {e : ConformanceError}
    (h : Fault graph node v path e) : ¬ Conforms graph node v := by
  intro hconforms
  have hok : check graph node v path = .ok () := check_eq_ok_iff.mpr hconforms
  exact absurd (h.check_eq.symm.trans hok) (by simp)

theorem not_mem_of_lookup {key : String} {entries : List (String × Value)}
    (h : Value.lookup key entries = none) (w : Value) : (key, w) ∉ entries := by
  intro hmem
  have hnone := List.find?_eq_none.mp (Option.map_eq_none_iff.mp h) _ hmem
  exact hnone (by simp)

/-- The number of parameters is wrong. -/
inductive WrongArity : TypeNode → Prop
  | array {params} (h : params.length ≠ 1) : WrongArity (.array params)
  | map {params} (h : params.length ≠ 2) : WrongArity (.map params)

end Conformance

open Conformance

/-- The value has the place that the error speaks of, and there things are as the error says.  A
    member that is missing or unexpected is one of an object that the value has there. -/
def ConformanceError.Holds (graph : List TypeNode) (root : String) (v : Value) :
    ConformanceError → Prop
  | .mismatch path expected found => ∃ steps node w, path = root ++ stepsText steps ∧
      v.HasPlace steps w ∧ Arrives graph (.simple root) v steps node w ∧ w.kind = found ∧
      node.expects = expected ∧ ¬ Conforms graph node w
  | .missing path => ∃ steps key name comment members entries,
      path = root ++ stepsText (steps ++ [.member key]) ∧ v.HasPlace steps (.object entries) ∧
      Arrives graph (.simple root) v steps (.interface name comment members) (.object entries) ∧
      (∀ w, (key, w) ∉ entries) ∧
      ∃ mem ∈ members, mem.name = key ∧ mem.function = false ∧ mem.optional = false
  | .unexpected path => ∃ steps key name comment members entries,
      path = root ++ stepsText (steps ++ [.member key]) ∧ v.HasPlace steps (.object entries) ∧
      Arrives graph (.simple root) v steps (.interface name comment members) (.object entries) ∧
      (∃ w, (key, w) ∈ entries) ∧ ∀ mem ∈ members, mem.function = false → mem.name ≠ key
  | .unknownType path name => ∃ steps w, path = root ++ stepsText steps ∧ v.HasPlace steps w ∧
      Arrives graph (.simple root) v steps (.simple name) w ∧
      ∀ node, graph.find? (·.name == name) = some node → ¬ node.IsDeclaration
  | .malformed path kind => ∃ steps node w, path = root ++ stepsText steps ∧
      v.HasPlace steps w ∧ Arrives graph (.simple root) v steps node w ∧ node.kind = kind ∧
      WrongArity node

variable {graph : List TypeNode} {root : String} {v : Value}

/-- The text of the steps to a member of what stands at a path. -/
theorem append_stepsText_member (root : String) (steps : List PathStep) (key : String) :
    root ++ stepsText steps ++ (PathStep.member key).text =
      root ++ stepsText (steps ++ [.member key]) := by
  rw [stepsText_append, stepsText_singleton, String.append_assoc]

/-- What an error says holds when the check arrives at the fault that it reports. -/
theorem Conformance.Fault.holds {steps : List PathStep} {node : TypeNode} {w : Value}
    {e : ConformanceError} (harrives : Arrives graph (.simple root) v steps node w)
    (h : Fault graph node w (root ++ stepsText steps) e) : e.Holds graph root v := by
  have hplace := harrives.hasPlace
  have hnot := h.not_conforms
  cases h with
  -- Where the value is of the wrong form, the place itself is at fault.
  | primitive | void | array | map | interface | enum =>
    exact ⟨steps, _, w, rfl, hplace, harrives, rfl, rfl, hnot⟩
  | unknown _ hunknown => exact ⟨steps, w, rfl, hplace, harrives, hunknown⟩
  | arrayArity harity => exact ⟨steps, _, w, rfl, hplace, harrives, rfl, .array harity⟩
  | mapArity harity => exact ⟨steps, _, w, rfl, hplace, harrives, rfl, .map harity⟩
  | @unexpected _ _ _ _ _ x _ _ _ hk =>
    refine ⟨steps, _, _, _, _, _, append_stepsText_member root steps _, hplace, harrives,
      ⟨x, by simp⟩, ?_⟩
    exact fun mem hmem hf hname => hk ⟨mem, hmem, hf, hname⟩
  | missing _ hmembers _ hfound hrequired =>
    obtain ⟨hmem, hfunction⟩ := function_of_filter hmembers
    exact ⟨steps, _, _, _, _, _, append_stepsText_member root steps _, hplace, harrives,
      not_mem_of_lookup hfound, _, hmem, rfl, hfunction, hrequired⟩

/-- A check that fails has arrived at a fault, and the error is the one that reports it.  Its path
    is the root with the text of steps to a place of the instance, and what it says holds there.
    Undeclared keys go before all members of the same object; members are tried in the order of
    their declaration and items by their positions, since the check goes on with a part only when
    all parts before it conform.  The text of a step is a member's name behind a dot, or a position
    or a shown key in brackets. -/
theorem checkInstance_eq_error_iff (graph : List TypeNode) (root : String) (v : Value)
    (e : ConformanceError) :
    (checkInstance graph root v = .error e ↔ ∃ steps node w,
      Arrives graph (.simple root) v steps node w ∧
        Fault graph node w (root ++ stepsText steps) e) ∧
    (checkInstance graph root v = .error e → e.Holds graph root v) ∧
    (∀ steps name comment members entries,
      Arrives graph (.simple root) v steps (.interface name comment members) (.object entries) →
      (∃ x ∈ entries, ¬ Declared members x.1) →
      ∃ key, checkInstance graph root v =
        .error (.unexpected (root ++ stepsText (steps ++ [.member key])))) ∧
    (∀ name, (PathStep.member name).text = "." ++ name) ∧
    (∀ i, (PathStep.index i).text = "[" ++ toString i ++ "]") ∧
    ∀ k, (PathStep.key k).text = "[" ++ Text.showKey k ++ "]" := by
  have hiff : ∀ e, checkInstance graph root v = .error e ↔ ∃ steps node w,
      Arrives graph (.simple root) v steps node w ∧
        Fault graph node w (root ++ stepsText steps) e := by
    intro e
    exact check_eq_error_iff
  refine ⟨hiff e, ?_, ?_, fun _ => rfl, fun _ => rfl, fun _ => rfl⟩
  · intro h
    obtain ⟨steps, node, w, harrives, hfault⟩ := (hiff e).mp h
    exact hfault.holds harrives
  · rintro steps name comment members entries harrives ⟨x, hx, hundeclared⟩
    cases hkeys : checkKeys members entries (root ++ stepsText steps) with
    | ok u => exact absurd ((checkKeys_eq_ok_iff _).mp hkeys x hx) hundeclared
    | error e' =>
      -- The first of these keys is the one that is reported.
      obtain ⟨before, key, w, after, rfl, hbefore, hk, rfl⟩ := checkKeys_eq_error_iff.mp hkeys
      rw [append_stepsText_member] at hkeys
      refine ⟨key, (hiff _).mpr ⟨steps, _, _, harrives, ?_⟩⟩
      rw [← append_stepsText_member]
      exact .unexpected hbefore hk

/-- Routes with stops, where other routes begin. -/
def routeGraph : List TypeNode := [
  .interface "Stop" none [
    { Member.property "lines" (.map [.string, .simple "Route"]) with optional := true },
    .property "name" .string],
  .interface "Route" none [.property "stops" (.array [.simple "Stop"]), .method "drive" .void []]]

/-- A stop with a number for its name, behind one where nothing is wrong. -/
def routeValue : Value :=
  .object [("stops", .array [.object [("name", .string "a")], .object [("name", .integer 3)]])]

/-- A stop with a number for its name and with an entry that is not declared. -/
def stopValue : Value := .object [("name", .integer 3), ("zone", .null)]

theorem arrives_stop :
    Arrives routeGraph (.simple "Route") (.object [("stops", .array [stopValue])])
      [.member "stops", .index 0] (.interface "Stop" none [
        { Member.property "lines" (.map [.string, .simple "Route"]) with optional := true },
        .property "name" .string]) stopValue := by
  have hitem : GoesOn routeGraph (.array [.simple "Stop"]) (.array [stopValue]) (.index 0)
      (.simple "Stop") stopValue := @GoesOn.item _ _ [] stopValue [] (by simp)
  have hstops : GoesOn routeGraph
      (.interface "Route" none
        [.property "stops" (.array [.simple "Stop"]), .method "drive" .void []])
      (.object [("stops", .array [stopValue])]) (.member "stops") (.array [.simple "Stop"])
      (.array [stopValue]) := by
    refine @GoesOn.member _ _ _ _ _ [] (.property "stops" _) [] _ (by decide) rfl ?_ rfl
    intro mem hmem
    exact absurd hmem (by simp)
  exact .named (by decide) rfl .interface
    (.step hstops (.step hitem (.named (by decide) rfl .interface .here)))

/-- A line without stops, known by a name with quotes and a line break. -/
def lineValue : Value :=
  .object [("stops", .array [.object [("name", .string "a"),
    ("lines", .object [("N \"1\"\n", .object [])])]])]

set_option maxRecDepth 4000 in
theorem stop_located :
    checkInstance routeGraph "Route" routeValue =
        .error (.mismatch "Route.stops[1].name" "string" "number") ∧
      (ConformanceError.mismatch "Route.stops[1].name" "string" "number").Holds routeGraph "Route"
        routeValue ∧
      checkInstance routeGraph "Route" lineValue =
        .error (.missing "Route.stops[0].lines[\"N \\\"1\\\"\\n\"].stops") ∧
      (ConformanceError.missing "Route.stops[0].lines[\"N \\\"1\\\"\\n\"].stops").Holds routeGraph
        "Route" lineValue ∧
      ∃ key, checkInstance routeGraph "Route" (.object [("stops", .array [stopValue])]) =
        .error (.unexpected ("Route" ++
          stepsText ([.member "stops", .index 0] ++ [.member key]))) := by
  have hname : checkInstance routeGraph "Route" routeValue =
      .error (.mismatch "Route.stops[1].name" "string" "number") := by cbv
  have hline : checkInstance routeGraph "Route" lineValue =
      .error (.missing "Route.stops[0].lines[\"N \\\"1\\\"\\n\"].stops") := by cbv
  have hunexpected := (checkInstance_eq_error_iff routeGraph "Route"
    (.object [("stops", .array [stopValue])]) (.missing "Route")).2.2.1
  exact ⟨hname, (checkInstance_eq_error_iff routeGraph "Route" routeValue _).2.1 hname, hline,
    (checkInstance_eq_error_iff routeGraph "Route" lineValue _).2.1 hline,
    hunexpected _ _ _ _ _ arrives_stop ⟨("zone", .null), by simp, by decide⟩⟩

end TypeExport
