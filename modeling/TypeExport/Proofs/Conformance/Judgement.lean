import Mathlib.Data.List.Basic
import TypeExport.Conformance.Check

/-! # Judgements on Instances

    `Conforms` says which values a node of a graph describes, without any order of checking and
    without places.  The check accepts a value if and only if it conforms (`check_eq_ok_iff`).

    A check of a value is a list of checks of its parts that stops at the first failure, so it
    accepts when all of them do.  A name costs no part of the value; but it stands for an interface
    or an enumeration and never for another name, and what these go on with is a part. -/

namespace TypeExport

open Json

/-- The names of the target language that stand for no declaration. -/
def primitiveNames : List String := ["string", "number", "boolean"]

/-- The node declares a name, as an interface or as an enumeration. -/
inductive TypeNode.IsDeclaration : TypeNode → Prop
  | interface {name comment members} : IsDeclaration (.interface name comment members)
  | enum {name comment members} : IsDeclaration (.enum name comment members)

namespace Conformance

/-! ## Section 1: Judgements -/

def Declared (members : List Member) (key : String) : Prop :=
  ∃ mem ∈ members, mem.function = false ∧ mem.name = key

/-- The node describes the value. -/
inductive Conforms (graph : List TypeNode) : TypeNode → Value → Prop
  | primitive {name v} (hp : name ∈ primitiveNames) (h : v.kind = name) :
    Conforms graph (.simple name) v
  /-- A name stands for the first node of that name. -/
  | named {name node v} (hp : name ∉ primitiveNames)
    (hfind : graph.find? (·.name == name) = some node) (hd : node.IsDeclaration)
    (h : Conforms graph node v) : Conforms graph (.simple name) v
  | void : Conforms graph .void .null
  | array {elem items} (h : ∀ v ∈ items, Conforms graph elem v) :
    Conforms graph (.array [elem]) (.array items)
  | map {key elem entries} (h : ∀ e ∈ entries, Conforms graph elem e.2) :
    Conforms graph (.map [key, elem]) (.object entries)
  /-- All keys are names of properties, and every property is there or may be left out. -/
  | interface {name comment members entries}
    (hkeys : ∀ e ∈ entries, ∃ mem ∈ members, mem.function = false ∧ mem.name = e.1)
    (hpresent : ∀ mem ∈ members, mem.function = false →
      ∀ v, Value.lookup mem.name entries = some v → Conforms graph mem.type v)
    (habsent : ∀ mem ∈ members, mem.function = false →
      Value.lookup mem.name entries = none → mem.optional = true) :
    Conforms graph (.interface name comment members) (.object entries)
  /-- The value is what the literal of a member is read as. -/
  | enum {name comment members member v} (hm : member ∈ members)
    (h : Value.parse member.value = some v) : Conforms graph (.enum name comment members) v

variable {graph : List TypeNode}

/-- A name that a node of the graph has stands for such a node. -/
theorem find?_of_name {k : String} (h : ∃ n ∈ graph, n.name = k) :
    ∃ node, graph.find? (·.name == k) = some node ∧ node ∈ graph ∧ node.name = k := by
  obtain ⟨n, hn, hname⟩ := h
  have hsome : (graph.find? (·.name == k)).isSome := by
    rw [List.find?_isSome]
    exact ⟨n, hn, by simp [hname]⟩
  obtain ⟨node, hfind⟩ := Option.isSome_iff_exists.mp hsome
  exact ⟨node, hfind, List.mem_of_find?_eq_some hfind, by simpa using List.find?_some hfind⟩

/-! ## Section 2: Leaves of the check -/

theorem expect_eq_ok_iff {ok : Bool} {expected : String} {v : Value} {path : String} :
    expect ok expected v path = .ok () ↔ ok = true := by
  cases ok <;> simp [expect]

theorem denotes_iff {member : EnumMember} {v : Value} :
    denotes member v = true ↔ Value.parse member.value = some v := by
  simp [denotes]

theorem declares_iff {members : List Member} {key : String} :
    declares members key = true ↔ Declared members key := by
  simp [declares, Declared]

instance (members : List Member) (key : String) : Decidable (Declared members key) :=
  decidable_of_iff _ declares_iff

theorem checkKeys_eq_ok_iff {members : List Member} {entries : List (String × Value)}
    (path : String) :
    checkKeys members entries path = .ok () ↔ ∀ x ∈ entries, Declared members x.1 := by
  unfold checkKeys
  split
  · rename_i k v hfind
    have hk := List.find?_some hfind
    simp only [reduceCtorEq, false_iff]
    intro hall
    simp [declares_iff.mpr (hall _ (List.mem_of_find?_eq_some hfind))] at hk
  · rename_i hfind
    simpa [declares_iff] using hfind

theorem checkEnum_eq_ok_iff {name : String} {comment : Option String} {members : List EnumMember}
    {v : Value} {path : String} :
    checkEnum name members v path = .ok () ↔ Conforms graph (.enum name comment members) v := by
  rw [checkEnum, expect_eq_ok_iff, List.any_eq_true]
  constructor
  · rintro ⟨member, hm, h⟩
    exact .enum hm (denotes_iff.mp h)
  · rintro (_ | _ | _ | _ | _ | _ | ⟨hm, h⟩)
    exact ⟨_, hm, denotes_iff.mpr h⟩

section equations

attribute [local simp] check checkInterface checkItems checkEntries checkMembers

/-- A primitive is checked by the kind of the value. -/
theorem check_primitive {name : String} (hp : name ∈ primitiveNames) (v : Value) (path : String) :
    check graph (.simple name) v path = expect (v.kind == name) name v path := by
  have hname : name = "string" ∨ name = "number" ∨ name = "boolean" := by
    simpa [primitiveNames] using hp
  rcases hname with rfl | rfl | rfl <;> cases v <;> simp [Value.kind]

theorem check_void (v : Value) (path : String) :
    check graph .void v path = expect (v.kind == "null") "void" v path := by
  cases v <;> simp [Value.kind]

/-- A name that is no primitive is looked up. -/
theorem check_simple {name : String} (hp : name ∉ primitiveNames) (v : Value) (path : String) :
    check graph (.simple name) v path =
      match graph.find? (·.name == name) with
      | some (.interface _ _ members) => checkInterface graph members v path
      | some (.enum name _ members) => checkEnum name members v path
      | _ => .error (.unknownType path name) := by
  have hne : name ≠ "string" ∧ name ≠ "number" ∧ name ≠ "boolean" := by
    simpa [primitiveNames] using hp
  cases hfind : graph.find? (·.name == name) with
  | none => simp [hne, hfind]
  | some node => cases node <;> simp [hne, hfind]

/-- A name is checked as the declaration is that it stands for. -/
theorem check_of_named {name : String} {node : TypeNode} (hp : name ∉ primitiveNames)
    (hfind : graph.find? (·.name == name) = some node) (hd : node.IsDeclaration) (v : Value)
    (path : String) : check graph (.simple name) v path = check graph node v path := by
  rw [check_simple hp, hfind]
  cases hd with
  | interface => rw [check]
  | enum => rw [check]

theorem check_of_unknown {name : String} (hp : name ∉ primitiveNames)
    (h : ∀ node, graph.find? (·.name == name) = some node → ¬ node.IsDeclaration) (v : Value)
    (path : String) : check graph (.simple name) v path = .error (.unknownType path name) := by
  rw [check_simple hp]
  cases hfind : graph.find? (·.name == name) with
  | none => rfl
  | some node =>
    cases node with
    | interface => exact absurd .interface (h _ hfind)
    | enum => exact absurd .enum (h _ hfind)
    | _ => rfl

/-- An array with a wrong number of parameters is refused before the value is looked at. -/
theorem check_array_malformed {params : List TypeNode} (h : params.length ≠ 1) (v : Value)
    (path : String) : check graph (.array params) v path = .error (.malformed path "array") := by
  rw [check]
  rintro elem rfl
  exact h rfl

/-- So is a map. -/
theorem check_map_malformed {params : List TypeNode} (h : params.length ≠ 2) (v : Value)
    (path : String) : check graph (.map params) v path = .error (.malformed path "map") := by
  rw [check]
  rintro key elem rfl
  exact h rfl

theorem check_array_mismatch {v : Value} (h : ∀ items, v ≠ .array items) (elem : TypeNode)
    (path : String) :
    check graph (.array [elem]) v path = .error (.mismatch path "array" v.kind) := by
  cases v with
  | array items => exact absurd rfl (h items)
  | _ => simp

theorem check_map_mismatch {v : Value} (h : ∀ entries, v ≠ .object entries) (key elem : TypeNode)
    (path : String) :
    check graph (.map [key, elem]) v path = .error (.mismatch path "map" v.kind) := by
  cases v with
  | object entries => exact absurd rfl (h entries)
  | _ => simp

theorem check_interface_mismatch {v : Value} (h : ∀ entries, v ≠ .object entries) (name : String)
    (comment : Option String) (members : List Member) (path : String) :
    check graph (.interface name comment members) v path =
      .error (.mismatch path "object" v.kind) := by
  cases v with
  | object entries => exact absurd rfl (h entries)
  | _ => simp

/-! ## Section 3: Checks of parts, one after the other -/

/-- The first of two checks that fails decides. -/
theorem bind_check {x : Except ConformanceError Unit} {f : Unit → Except ConformanceError Unit} :
    (x >>= f) = match x with
      | .ok () => f ()
      | .error e => .error e := by
  cases x <;> rfl

/-- A list of checks accepts when all of them do. -/
theorem forM_eq_ok_iff {α : Type} {f : α → Except ConformanceError Unit} {l : List α} :
    forM l f = .ok () ↔ ∀ x ∈ l, f x = .ok () := by
  induction l with
  | nil => simp [pure, Except.pure]
  | cons x l ih =>
    rw [List.forM_cons, bind_check, List.forall_mem_cons, ← ih]
    cases f x <;> simp

theorem checkItems_eq_forM (elem : TypeNode) (items : List Value) (i : Nat) (path : String) :
    checkItems graph elem items i path =
      forM (items.zipIdx i) fun x => check graph elem x.1 (extendPath path (.index x.2)) := by
  induction items generalizing i with
  | nil => rw [checkItems]; rfl
  | cons item rest ih => rw [checkItems, List.zipIdx_cons, List.forM_cons, ih]

theorem check_array_eq (elem : TypeNode) (items : List Value) (path : String) :
    check graph (.array [elem]) (.array items) path =
      forM items.zipIdx fun x => check graph elem x.1 (extendPath path (.index x.2)) := by
  rw [check, checkItems_eq_forM]

theorem checkEntries_eq_forM (elem : TypeNode) (entries : List (String × Value)) (path : String) :
    checkEntries graph elem entries path =
      forM entries fun x => check graph elem x.2 (extendPath path (.key x.1)) := by
  induction entries with
  | nil => rw [checkEntries]; rfl
  | cons x rest ih => rw [checkEntries, List.forM_cons, ih]

theorem check_map_eq (key elem : TypeNode) (entries : List (String × Value)) (path : String) :
    check graph (.map [key, elem]) (.object entries) path =
      forM entries fun x => check graph elem x.2 (extendPath path (.key x.1)) := by
  rw [check, checkEntries_eq_forM]

/-- The check of one member of an object. -/
def checkMember (graph : List TypeNode) (entries : List (String × Value)) (path : String)
    (mem : Member) : Except ConformanceError Unit :=
  match Value.lookup mem.name entries with
  | some item => check graph mem.type item (extendPath path (.member mem.name))
  | none => if mem.optional then .ok () else .error (.missing (extendPath path (.member mem.name)))

theorem checkMembers_eq_forM (members : List Member) (entries : List (String × Value))
    (path : String) :
    checkMembers graph members entries path = forM members (checkMember graph entries path) := by
  induction members with
  | nil => rw [checkMembers]; rfl
  | cons mem rest ih =>
    rw [checkMembers, List.forM_cons, checkMember, ← ih]
    split <;> rename_i hfound
    · rw [hfound]
    · rw [hfound]
      cases mem.optional <;> rfl

/-- Methods are left out before the members are checked: they are no part of a value. -/
theorem check_interface_eq (name : String) (comment : Option String) (members : List Member)
    (entries : List (String × Value)) (path : String) :
    check graph (.interface name comment members) (.object entries) path =
      (checkKeys members entries path >>= fun _ =>
        forM (members.filter (!·.function)) (checkMember graph entries path)) := by
  rw [check, checkInterface, checkMembers_eq_forM]

end equations

/-! ## Section 4: The check decides -/

/-- Members are as declared when each is there and conforms, or is optional. -/
def MembersConform (graph : List TypeNode) (members : List Member)
    (entries : List (String × Value)) : Prop :=
  ∀ mem ∈ members, (∀ v, Value.lookup mem.name entries = some v → Conforms graph mem.type v) ∧
    (Value.lookup mem.name entries = none → mem.optional = true)

/-- The members that are checked are those that are no methods. -/
theorem function_of_filter {members before after : List Member} {mem : Member}
    (h : members.filter (!·.function) = before ++ mem :: after) :
    mem ∈ members ∧ mem.function = false := by
  have hmem : mem ∈ members.filter (!·.function) := by
    rw [h]
    exact List.mem_append_right _ List.mem_cons_self
  simpa using hmem

theorem conforms_interface_iff {name : String} {comment : Option String} {members : List Member}
    {entries : List (String × Value)} :
    Conforms graph (.interface name comment members) (.object entries) ↔
      (∀ x ∈ entries, Declared members x.1) ∧
        MembersConform graph (members.filter (!·.function)) entries := by
  have hmem : ∀ {mem}, mem ∈ members.filter (!·.function) ↔
      mem ∈ members ∧ mem.function = false := by simp
  constructor
  · rintro (_ | _ | _ | _ | _ | ⟨hkeys, hpresent, habsent⟩)
    refine ⟨hkeys, fun mem h => ?_⟩
    obtain ⟨h, hf⟩ := hmem.mp h
    exact ⟨hpresent mem h hf, habsent mem h hf⟩
  · rintro ⟨hkeys, h⟩
    exact .interface hkeys (fun mem hm hf => (h mem (hmem.mpr ⟨hm, hf⟩)).1)
      fun mem hm hf => (h mem (hmem.mpr ⟨hm, hf⟩)).2

/-- The items of an array are smaller than the array. -/
theorem sizeOf_item_lt {items : List Value} {v : Value} (hv : v ∈ items) :
    sizeOf v < sizeOf (Value.array items) := by
  have hlt := List.sizeOf_lt_of_mem hv
  rw [Value.array.sizeOf_spec]
  omega

/-- The values of an object are smaller than the object. -/
theorem sizeOf_entry_lt {entries : List (String × Value)} {e : String × Value} (he : e ∈ entries) :
    sizeOf e.2 < sizeOf (Value.object entries) := by
  have hlt := List.sizeOf_lt_of_mem he
  obtain ⟨k, v⟩ := e
  rw [Prod.mk.sizeOf_spec] at hlt
  rw [Value.object.sizeOf_spec]
  show sizeOf v < 1 + sizeOf entries
  omega

theorem sizeOf_lookup_lt {entries : List (String × Value)} {name : String} {v : Value}
    (h : Value.lookup name entries = some v) : sizeOf v < sizeOf (Value.object entries) := by
  have hlt := sizeOf_lt_of_lookup h
  rw [Value.object.sizeOf_spec]
  omega

/-- The check decides about all values that are smaller than `v`. -/
def DecidesBelow (graph : List TypeNode) (v : Value) : Prop :=
  ∀ (node : TypeNode) (w : Value) (path : String), sizeOf w < sizeOf v →
    (check graph node w path = .ok () ↔ Conforms graph node w)

theorem check_array_eq_ok_iff {params : List TypeNode} {v : Value} {path : String}
    (h : DecidesBelow graph v) :
    check graph (.array params) v path = .ok () ↔ Conforms graph (.array params) v := by
  by_cases harity : params.length = 1
  · obtain ⟨elem, rfl⟩ := List.length_eq_one_iff.mp harity
    by_cases harray : ∃ items, v = .array items
    · obtain ⟨items, rfl⟩ := harray
      rw [check_array_eq, forM_eq_ok_iff]
      constructor
      · intro hall
        refine .array fun w hw => ?_
        -- Positions matter for the path of an error only.
        rw [← List.zipIdx_map_fst 0 items] at hw
        obtain ⟨x, hx, rfl⟩ := List.mem_map.mp hw
        exact (h _ _ _ (sizeOf_item_lt (List.fst_mem_of_mem_zipIdx hx))).mp (hall x hx)
      · rintro (_ | _ | _ | hall) x hx
        have hmem := List.fst_mem_of_mem_zipIdx hx
        exact (h _ _ _ (sizeOf_item_lt hmem)).mpr (hall _ hmem)
    · have hne : ∀ items, v ≠ .array items := fun items hv => harray ⟨items, hv⟩
      rw [check_array_mismatch hne]
      simp only [reduceCtorEq, false_iff]
      rintro (_ | _ | _ | _)
      exact hne _ rfl
  · rw [check_array_malformed harity]
    simp only [reduceCtorEq, false_iff]
    rintro (_ | _ | _ | _)
    exact harity rfl

theorem check_map_eq_ok_iff {params : List TypeNode} {v : Value} {path : String}
    (h : DecidesBelow graph v) :
    check graph (.map params) v path = .ok () ↔ Conforms graph (.map params) v := by
  by_cases harity : params.length = 2
  · obtain ⟨key, elem, rfl⟩ := List.length_eq_two.mp harity
    by_cases hobject : ∃ entries, v = .object entries
    · obtain ⟨entries, rfl⟩ := hobject
      rw [check_map_eq, forM_eq_ok_iff]
      constructor
      · intro hall
        exact .map fun x hx => (h _ _ _ (sizeOf_entry_lt hx)).mp (hall x hx)
      · rintro (_ | _ | _ | _ | hall) x hx
        exact (h _ _ _ (sizeOf_entry_lt hx)).mpr (hall x hx)
    · have hne : ∀ entries, v ≠ .object entries := fun entries hv => hobject ⟨entries, hv⟩
      rw [check_map_mismatch hne]
      simp only [reduceCtorEq, false_iff]
      rintro (_ | _ | _ | _ | _)
      exact hne _ rfl
  · rw [check_map_malformed harity]
    simp only [reduceCtorEq, false_iff]
    rintro (_ | _ | _ | _ | _)
    exact harity rfl

theorem checkMember_eq_ok_iff {entries : List (String × Value)} {mem : Member} {path : String}
    (h : DecidesBelow graph (.object entries)) :
    checkMember graph entries path mem = .ok () ↔
      (∀ v, Value.lookup mem.name entries = some v → Conforms graph mem.type v) ∧
        (Value.lookup mem.name entries = none → mem.optional = true) := by
  unfold checkMember
  cases hfound : Value.lookup mem.name entries with
  | some item => simp [h _ _ _ (sizeOf_lookup_lt hfound)]
  | none => cases mem.optional <;> simp

theorem check_interface_eq_ok_iff {name : String} {comment : Option String}
    {members : List Member} {v : Value} {path : String} (h : DecidesBelow graph v) :
    check graph (.interface name comment members) v path = .ok () ↔
      Conforms graph (.interface name comment members) v := by
  by_cases hobject : ∃ entries, v = .object entries
  · obtain ⟨entries, rfl⟩ := hobject
    rw [check_interface_eq, bind_check, conforms_interface_iff, ← checkKeys_eq_ok_iff path]
    cases checkKeys members entries path with
    | error e => simp
    | ok u => simp [forM_eq_ok_iff, checkMember_eq_ok_iff h, MembersConform]
  · have hne : ∀ entries, v ≠ .object entries := fun entries hv => hobject ⟨entries, hv⟩
    rw [check_interface_mismatch hne]
    simp only [reduceCtorEq, false_iff]
    rintro (_ | _ | _ | _ | _ | _)
    exact hne _ rfl

theorem check_void_eq_ok_iff {v : Value} {path : String} :
    check graph .void v path = .ok () ↔ Conforms graph .void v := by
  rw [check_void, expect_eq_ok_iff]
  constructor
  · intro h
    cases v <;> first | exact .void | exact absurd h (by simp [Value.kind])
  · rintro (_ | _ | _)
    rfl

/-- A name is judged as its declaration is. -/
theorem check_simple_eq_ok_iff {name : String} {v : Value} {path : String}
    (h : ∀ node : TypeNode, node.IsDeclaration →
      (check graph node v path = .ok () ↔ Conforms graph node v)) :
    check graph (.simple name) v path = .ok () ↔ Conforms graph (.simple name) v := by
  by_cases hp : name ∈ primitiveNames
  · rw [check_primitive hp, expect_eq_ok_iff]
    constructor
    · intro hkind
      exact .primitive hp (by simpa using hkind)
    · rintro (⟨_, hkind⟩ | ⟨hp', _, _, _⟩)
      · simpa using hkind
      · exact absurd hp hp'
  · by_cases hd : ∃ node, graph.find? (·.name == name) = some node ∧ node.IsDeclaration
    · -- The name stands for a declaration, and that has been decided before.
      obtain ⟨node, hfind, hd⟩ := hd
      rw [check_of_named hp hfind hd, h node hd]
      constructor
      · exact .named hp hfind hd
      · rintro (⟨hp', _⟩ | ⟨_, hfind', _, hv⟩)
        · exact absurd hp' hp
        · obtain rfl := Option.some.inj (hfind.symm.trans hfind')
          exact hv
    -- No declaration has the name, and neither rule for names applies.
    · rw [check_of_unknown hp fun node hfind hdecl => hd ⟨node, hfind, hdecl⟩]
      simp only [reduceCtorEq, false_iff]
      rintro (⟨hp', _⟩ | ⟨_, hfind, hdecl, _⟩)
      · exact hp hp'
      · exact hd ⟨_, hfind, hdecl⟩

/-- The check accepts exactly what conforms. -/
theorem check_eq_ok_iff {node : TypeNode} {v : Value} {path : String} :
    check graph node v path = .ok () ↔ Conforms graph node v := by
  -- The induction is on the value, not on the node: the graph may lead back to itself.
  induction hk : sizeOf v using Nat.strongRecOn generalizing node v path with
  | _ k ih =>
    subst hk
    have hbelow : DecidesBelow graph v := fun node w path hlt => ih (sizeOf w) hlt rfl
    have henum : ∀ name comment members, check graph (.enum name comment members) v path = .ok () ↔
        Conforms graph (.enum name comment members) v := by
      intro name comment members
      rw [check]
      exact checkEnum_eq_ok_iff
    cases node with
    | simple name =>
      refine check_simple_eq_ok_iff fun node hd => ?_
      cases hd with
      | interface => exact check_interface_eq_ok_iff hbelow
      | enum => exact henum _ _ _
    | array params => exact check_array_eq_ok_iff hbelow
    | map params => exact check_map_eq_ok_iff hbelow
    | interface name comment members => exact check_interface_eq_ok_iff hbelow
    | enum name comment members => exact henum name comment members
    | void => exact check_void_eq_ok_iff

/-- Members pass the check when they are as declared. -/
theorem membersConform_iff {members : List Member} {entries : List (String × Value)}
    (path : String) : MembersConform graph members entries ↔
      ∀ mem ∈ members, checkMember graph entries path mem = .ok () :=
  forall₂_congr fun _ _ => (checkMember_eq_ok_iff fun _ _ _ _ => check_eq_ok_iff).symm

end Conformance

end TypeExport
