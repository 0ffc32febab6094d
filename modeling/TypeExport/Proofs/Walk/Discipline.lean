import TypeExport.Proofs.Walk.Depth

/-! # The Discipline of Marks

    Six functions call each other and change one state.  Each of them may set marks before it calls
    another one, and the other may come back to it; what holds of an extraction as a whole rests on
    each function leaving the state in order.  That order is:

    - the declarations in progress are the same after a call as before it;
    - the declarations with a node become more and never fewer, and so do the keys, which keep their
      places;
    - a node stands under its own name, and a declaration that counts as having a node has one
      under its name in the target language (`Sound`);
    - a struct comes to have a node through one walk over its fields, and no other walk over them
      is made to declare it (`EntersByOneWalk`).

    `Orderly` says all this of one step.  It is closed under doing one step after the other, under
    marks (`Orderly.within`) and under calls (`Orderly.recorded_call`), so each function is orderly
    when the functions it calls are, and the recursion is closed by induction on the levels.  The
    point where the clauses need each other is `declareStruct_orderly`: a struct is in progress
    while its fields are walked, so nothing inside can declare it, and this is why the walk is the
    only one. -/

namespace TypeExport

namespace Extraction

open Extracting

/-! ## Section 1: The order of states -/

structure Sound (policy : ExtractPolicy) (m : HostModule) (s : Extraction) : Prop where
  /-- Each node stands under its own name. -/
  keyed : s.Keyed
  distinct : s.keys.Nodup
  /-- A declaration that counts as having a node has one. -/
  named : ∀ name ∈ s.declared, ∃ d, m.lookup name = some d ∧ policy.typeNamer d ∈ s.keys

/-- What may happen to a state from the beginning of a call to its answer. -/
structure Kept (s s' : Extraction) : Prop where
  inProgress : s'.inProgress = s.inProgress
  declared : s.declared ⊆ s'.declared
  /-- Keys keep their places, and new ones come behind them. -/
  keys : s.keys <+: s'.keys

theorem keys_addResult (s : Extraction) (node : TypeNode) :
    (s.addResult node).keys = if node.name ∈ s.keys then s.keys else s.keys ++ [node.name] :=
  keys_upsert Prod.fst (node.name, node) s.result

theorem keys_prefix_addResult (s : Extraction) (node : TypeNode) :
    s.keys <+: (s.addResult node).keys := by
  rw [keys_addResult]
  split
  · exact List.prefix_rfl
  · exact List.prefix_append _ _

theorem name_mem_keys_addResult (s : Extraction) (node : TypeNode) :
    node.name ∈ (s.addResult node).keys := by
  rw [keys_addResult]
  split
  · assumption
  · exact List.mem_append_right _ (List.mem_singleton_self _)

theorem nodup_keys_addResult {s : Extraction} (h : s.keys.Nodup) (node : TypeNode) :
    (s.addResult node).keys.Nodup := by
  rw [keys_addResult]
  split
  · exact h
  · refine List.nodup_append.mpr ⟨h, by simp, ?_⟩
    intro a ha b hb heq
    obtain rfl := List.mem_singleton.mp hb
    exact absurd (heq ▸ ha) ‹_›

theorem Kept.refl (s : Extraction) : Kept s s := ⟨rfl, Finset.Subset.refl _, List.prefix_rfl⟩

theorem Kept.trans {s s₁ s₂ : Extraction} (h₁ : Kept s s₁) (h₂ : Kept s₁ s₂) : Kept s s₂ :=
  ⟨h₂.inProgress.trans h₁.inProgress, h₁.declared.trans h₂.declared, h₁.keys.trans h₂.keys⟩

theorem Kept.addResult (s : Extraction) (node : TypeNode) : Kept s (s.addResult node) :=
  ⟨rfl, Finset.Subset.refl _, s.keys_prefix_addResult node⟩

theorem Kept.declare (s : Extraction) (name : String) (node : TypeNode) :
    Kept s (s.declare name node) :=
  ⟨rfl, Finset.subset_insert _ _, (s.markDeclared name).keys_prefix_addResult node⟩

/-- A mark that was not set before is taken away again. -/
theorem inProgress_leave {s s' : Extraction} {name : String} (hn : name ∉ s.inProgress)
    (h : s'.inProgress = (s.enter name).inProgress) :
    (s'.leave name).inProgress = s.inProgress := by
  show s'.inProgress.erase name = s.inProgress
  rw [h]
  exact Finset.erase_insert hn

theorem Kept.leave {s s' : Extraction} {name : String} (hn : name ∉ s.inProgress)
    (h : Kept (s.enter name) s') : Kept s (s'.leave name) :=
  ⟨inProgress_leave hn h.inProgress, h.declared, h.keys⟩

section sound

variable {policy : ExtractPolicy} {m : HostModule} {s s' : Extraction}

theorem sound_empty : Sound policy m {} := ⟨by simp [Keyed], by simp [keys], by simp⟩

/-- Marks on what is in progress have no part in it. -/
theorem Sound.enter (h : s.Sound policy m) (name : String) : (s.enter name).Sound policy m :=
  ⟨h.keyed, h.distinct, h.named⟩

theorem Sound.leave (h : s.Sound policy m) (name : String) : (s.leave name).Sound policy m :=
  ⟨h.keyed, h.distinct, h.named⟩

theorem Sound.addResult (h : s.Sound policy m) (node : TypeNode) :
    (s.addResult node).Sound policy m := by
  refine ⟨h.keyed.addResult node, nodup_keys_addResult h.distinct node, fun name hname => ?_⟩
  obtain ⟨d, hd, hkey⟩ := h.named name hname
  exact ⟨d, hd, (s.keys_prefix_addResult node).subset hkey⟩

/-- A declaration that gets its node is in order from then on. -/
theorem Sound.declare {d : TypeDecl} {node : TypeNode} (h : s.Sound policy m)
    (hd : m.lookup d.name = some d) (hnode : node.name = policy.typeNamer d) :
    (s.declare d.name node).Sound policy m := by
  have hadd := h.addResult node
  refine ⟨hadd.keyed, hadd.distinct, fun name hname => ?_⟩
  rcases Finset.mem_insert.mp hname with rfl | hname
  · exact ⟨d, hd, hnode ▸ s.name_mem_keys_addResult node⟩
  · exact hadd.named name hname

end sound

/-! ## Section 2: The order of records -/

/-- The call is one that a walk over `m` can make: the struct that is referred to is declared. -/
def Call.Fits (m : HostModule) : Call → Prop
  | .namedStruct d fields => m.lookup d.name = some d ∧ d.type.deref = .struct fields
  | _ => True

namespace Event

def now : Event → Extraction
  | begun _ s => s
  | answered _ _ s => s
  | walked _ _ s => s

def states : Event → List Extraction
  | begun _ s => [s]
  | answered _ s s' => [s, s']
  | walked _ s s' => [s, s']

/-- The entry is about a walk over the fields of `d` that is to declare it. -/
def IsWalk (d : TypeDecl) (e : Event) : Prop := ∃ s s', e = .walked d s s'

def InOrder (policy : ExtractPolicy) (m : HostModule) : Event → Prop
  | begun call s => call.Fits m ∧ s.Sound policy m
  | answered call s s' =>
    call.Fits m ∧ s.Sound policy m ∧ s'.Sound policy m ∧ Kept s s'
  | walked _ s s' => s.Sound policy m ∧ s'.Sound policy m ∧ Kept s s'

theorem InOrder.sound {policy : ExtractPolicy} {m : HostModule} {e : Event}
    (h : e.InOrder policy m) : ∀ s ∈ e.states, s.Sound policy m := by
  cases e with
  | begun call s => simpa [states] using h.2
  | answered call s s' => simpa [states] using ⟨h.2.1, h.2.2.1⟩
  | walked d s s' => simpa [states] using ⟨h.1, h.2.1⟩

end Event

/-- The record `l` tells of exactly one walk over the fields of the struct `d` that is to declare
    it: the struct is in progress during the walk, counts as having no node until the end of it, and
    as having one ever since. -/
def EntersByOneWalk (d : TypeDecl) (fields : List HostField) (l : List Event) : Prop :=
  ∃ before s s' after,
    l = before ++ .answered (.structMembers d.name fields) s s' :: .walked d s s' :: after ∧
    (∀ e ∈ before ++ after, ¬ e.IsWalk d) ∧
    d.name ∈ s.inProgress ∧ d.name ∉ s'.declared ∧
    (∀ e ∈ before, d.name ∉ e.now.declared) ∧ ∀ e ∈ after, d.name ∈ e.now.declared

/-- What becomes of the struct `d` from the state `s` to the state `s'`, with the record `l`. -/
inductive Fate (d : TypeDecl) (fields : List HostField) (s : Extraction) (l : List Event)
    (s' : Extraction) : Prop
  /-- It has a node if it had one before. -/
  | asBefore (hl : ∀ e ∈ l, ¬ e.IsWalk d) (hd : d.name ∈ s'.declared → d.name ∈ s.declared)
  /-- It comes to have a node. -/
  | entered (hp : d.name ∉ s.inProgress) (hn : d.name ∉ s.declared) (hd : d.name ∈ s'.declared)
    (hl : EntersByOneWalk d fields l)

/-- A struct that is in progress is left as it is. -/
theorem Fate.of_inProgress {d : TypeDecl} {fields : List HostField} {s s' : Extraction}
    {l : List Event} (h : Fate d fields s l s') (hp : d.name ∈ s.inProgress) :
    (∀ e ∈ l, ¬ e.IsWalk d) ∧ (d.name ∈ s'.declared → d.name ∈ s.declared) := by
  cases h with
  | asBefore hl hd => exact ⟨hl, hd⟩
  | entered hp' _ _ _ => exact absurd hp hp'

theorem EntersByOneWalk.prepend {d : TypeDecl} {fields : List HostField} {l₁ l₂ : List Event}
    (hw : ∀ e ∈ l₁, ¬ e.IsWalk d) (hn : ∀ e ∈ l₁, d.name ∉ e.now.declared)
    (h : EntersByOneWalk d fields l₂) : EntersByOneWalk d fields (l₁ ++ l₂) := by
  obtain ⟨before, s, s', after, rfl, hother, hp, hd, hbefore, hafter⟩ := h
  refine ⟨l₁ ++ before, s, s', after, (List.append_assoc ..).symm, ?_, hp, hd, ?_, hafter⟩
  · intro e he
    rw [List.append_assoc] at he
    exact (List.mem_append.mp he).elim (hw e) (hother e)
  · exact fun e he => (List.mem_append.mp he).elim (hn e) (hbefore e)

theorem EntersByOneWalk.append {d : TypeDecl} {fields : List HostField} {l₁ l₂ : List Event}
    (hw : ∀ e ∈ l₂, ¬ e.IsWalk d) (hn : ∀ e ∈ l₂, d.name ∈ e.now.declared)
    (h : EntersByOneWalk d fields l₁) : EntersByOneWalk d fields (l₁ ++ l₂) := by
  obtain ⟨before, s, s', after, rfl, hother, hp, hd, hbefore, hafter⟩ := h
  refine ⟨before, s, s', after ++ l₂, by simp, ?_, hp, hd, hbefore, ?_⟩
  · intro e he
    rw [← List.append_assoc] at he
    exact (List.mem_append.mp he).elim (hother e) (hw e)
  · exact fun e he => (List.mem_append.mp he).elim (hafter e) (hn e)

/-! ## Section 3: Orderly steps -/

variable (policy : ExtractPolicy) (m : HostModule)

/-- What a step does that leads from the state `s` to the state `s'` and records `l`. -/
structure Passes (s : Extraction) (l : List Event) (s' : Extraction) : Prop where
  kept : Kept s s'
  sound : s.Sound policy m → s'.Sound policy m
  /-- During the step, too, the declarations with a node only become more. -/
  between : ∀ e ∈ l, s.declared ⊆ e.now.declared ∧ e.now.declared ⊆ s'.declared
  fate : ∀ d fields, m.lookup d.name = some d → d.type.deref = .struct fields →
    Fate d fields s l s'

/-- A step from the state `s` that ends in `r` leaves everything in order.  What it records is in
    order also when it fails. -/
structure Orderly (s : Extraction) {α : Type} (r : Answer α) : Prop where
  restored : r.state.inProgress = s.inProgress
  recorded : s.Sound policy m → ∀ e ∈ r.log, e.InOrder policy m
  passes : r.IsOk → Passes policy m s r.log r.state

variable {policy m}

/-- A step without a record, that changes no more than the nodes of declarations that are no
    structs. -/
theorem Passes.quiet {s s' : Extraction} (hkept : Kept s s')
    (hsound : s.Sound policy m → s'.Sound policy m)
    (hdecl : ∀ d, m.lookup d.name = some d → d.IsStruct → d.name ∈ s'.declared →
      d.name ∈ s.declared) : Passes policy m s [] s' :=
  ⟨hkept, hsound, fun _ he => absurd he List.not_mem_nil, fun d fields hd hs =>
    .asBefore (fun _ he => absurd he List.not_mem_nil) (hdecl d hd ⟨fields, hs⟩)⟩

/-- One step after the other.  The clauses on structs meet in the state between the two. -/
theorem Passes.trans {s s₁ s₂ : Extraction} {l₁ l₂ : List Event} (h₁ : Passes policy m s l₁ s₁)
    (h₂ : Passes policy m s₁ l₂ s₂) : Passes policy m s (l₁ ++ l₂) s₂ := by
  refine ⟨h₁.kept.trans h₂.kept, h₂.sound ∘ h₁.sound, ?_, ?_⟩
  · intro e he
    rcases List.mem_append.mp he with he | he
    · exact ⟨(h₁.between e he).1, (h₁.between e he).2.trans h₂.kept.declared⟩
    · exact ⟨h₁.kept.declared.trans (h₂.between e he).1, (h₂.between e he).2⟩
  · intro d fields hd hs
    cases h₁.fate d fields hd hs with
    | asBefore hl₁ hd₁ =>
      cases h₂.fate d fields hd hs with
      | asBefore hl₂ hd₂ =>
        exact .asBefore (fun e he => (List.mem_append.mp he).elim (hl₁ e) (hl₂ e)) (hd₁ ∘ hd₂)
      | entered hp hn hd₂ hl₂ =>
        refine .entered (h₁.kept.inProgress ▸ hp) (fun h => hn (h₁.kept.declared h)) hd₂ ?_
        exact hl₂.prepend hl₁ fun e he h => hn ((h₁.between e he).2 h)
    | entered hp hn hd₁ hl₁ =>
      cases h₂.fate d fields hd hs with
      | asBefore hl₂ hd₂ =>
        -- What is recorded after the walk is recorded in states in which `d` has its node.
        refine .entered hp hn (h₂.kept.declared hd₁) ?_
        exact hl₁.append hl₂ fun e he => (h₂.between e he).1 hd₁
      -- No struct is entered twice: after the first walk it has a node.
      | entered _ hn₂ _ _ => exact absurd hd₁ hn₂

/-- The step inside a mark, seen from outside. -/
theorem Passes.leave {s s' : Extraction} {l : List Event} {name : String}
    (hn : name ∉ s.inProgress) (h : Passes policy m (s.enter name) l s') :
    Passes policy m s l (s'.leave name) := by
  refine ⟨h.kept.leave hn, fun hs => (h.sound (hs.enter name)).leave name, h.between, ?_⟩
  intro d fields hd hs
  cases h.fate d fields hd hs with
  | asBefore hl hd' => exact .asBefore hl hd'
  -- What is entered inside has no mark there, so it has none outside.
  | entered hp hn' hd' hl => exact .entered (fun h => hp (Finset.mem_insert_of_mem h)) hn' hd' hl

/-- An entry that tells of no walk can be added. -/
theorem Passes.single {s : Extraction} {e : Event} (hnow : e.now = s)
    (hw : ∀ d, ¬ e.IsWalk d) : Passes policy m s [e] s := by
  refine ⟨.refl s, id, ?_, ?_⟩
  · intro e' he
    obtain rfl := List.mem_singleton.mp he
    rw [hnow]
    exact ⟨Finset.Subset.refl _, Finset.Subset.refl _⟩
  · intro d fields _ _
    refine .asBefore (fun e' he => ?_) id
    obtain rfl := List.mem_singleton.mp he
    exact hw d

namespace Orderly

variable {α β : Type} {s : Extraction} {x : Extracting α}

/-- A step that only stops. -/
theorem of_error {r : Answer α} {why : Stop} (h : r.value = .error why)
    (hstate : r.state.inProgress = s.inProgress) (hlog : r.log = []) : Orderly policy m s r := by
  refine ⟨hstate, fun _ e he => absurd (hlog ▸ he) List.not_mem_nil, ?_⟩
  rintro ⟨a, ha⟩
  rw [h] at ha
  exact absurd ha (by simp)

/-- A step that records nothing. -/
theorem of_passes {r : Answer α} (hlog : r.log = []) (h : Passes policy m s [] r.state) :
    Orderly policy m s r :=
  ⟨h.kept.inProgress, fun _ _ he => absurd (hlog ▸ he) List.not_mem_nil, fun _ => hlog ▸ h⟩

theorem pure (a : α) : Orderly policy m s ((Pure.pure a : Extracting α) s) :=
  of_passes rfl (.quiet (.refl s) id fun _ _ _ => id)

theorem stop (why : Stop) : Orderly policy m s ((Extracting.stop why : Extracting α) s) :=
  of_error rfl rfl rfl

theorem fail (e : ExtractError) : Orderly policy m s ((Extracting.fail e : Extracting α) s) :=
  stop (.error e)

theorem ofExcept (r : Except ExtractError α) :
    Orderly policy m s (Extracting.ofExcept r s) := by
  cases r with
  | ok a => exact pure a
  | error e => exact fail e

/-- One orderly step after the other. -/
theorem bind {f : α → Extracting β} (h : Orderly policy m s (x s))
    (hf : ∀ a s', Orderly policy m s' (f a s')) : Orderly policy m s ((x >>= f) s) := by
  cases hx : (x s).value with
  | error e =>
    rw [bind_of_error hx]
    refine ⟨h.restored, h.recorded, ?_⟩
    rintro ⟨b, hb⟩
    exact absurd hb (by simp)
  | ok a =>
    have hpass := h.passes ⟨a, hx⟩
    have hrest := hf a (x s).state
    rw [bind_of_ok hx]
    refine ⟨hrest.restored.trans h.restored, ?_, fun hok => hpass.trans (hrest.passes hok)⟩
    intro hs e he
    rcases List.mem_append.mp he with he | he
    · exact h.recorded hs e he
    · exact hrest.recorded (hpass.sound hs) e he

/-- A call: an entry, an orderly step, and an entry with the answer. -/
theorem recorded_call {call : Call} (h : Orderly policy m s (x s)) (hfits : call.Fits m) :
    Orderly policy m s (Extracting.recorded call x s) := by
  have hbegun : Passes policy m s [.begun call s] s :=
    .single rfl (by rintro d ⟨_, _, h⟩; exact absurd h (by simp))
  refine ⟨h.restored, ?_, ?_⟩
  · intro hs e he
    -- The record begins with the call, goes on with what it does, and ends with its answer.
    rcases List.mem_cons.mp he with rfl | he
    · exact ⟨hfits, hs⟩
    rcases List.mem_append.mp he with he | he
    · exact h.recorded hs e he
    · cases hx : (x s).value with
      | error e' =>
        simp only [Answer.ifOk, hx] at he
        exact absurd he List.not_mem_nil
      | ok a =>
        simp only [Answer.ifOk, hx] at he
        obtain rfl := List.mem_singleton.mp he
        have hpass := h.passes ⟨a, hx⟩
        exact ⟨hfits, hs, hpass.sound hs, hpass.kept⟩
  · rintro ⟨a, ha⟩
    have hx : (x s).value = .ok a := ha
    have hanswered : Passes policy m (x s).state [.answered call s (x s).state] (x s).state :=
      .single rfl (by rintro d ⟨_, _, h⟩; exact absurd h (by simp))
    have hall := hbegun.trans ((h.passes ⟨a, hx⟩).trans hanswered)
    simpa only [Extracting.recorded, Answer.ifOk, hx, List.cons_append, List.nil_append] using hall

/-- A step with a mark that was not set before. -/
theorem within {name : String} (hn : name ∉ s.inProgress)
    (h : Orderly policy m (s.enter name) (x (s.enter name))) :
    Orderly policy m s (Extracting.within name x s) :=
  ⟨inProgress_leave hn h.restored, fun hs => h.recorded (hs.enter name),
    fun hok => (h.passes hok).leave hn⟩

theorem look {f : Extraction → Extracting β} (h : Orderly policy m s (f s s)) :
    Orderly policy m s ((Extracting.look >>= f) s) := h

end Orderly

/-! ## Section 4: The functions are orderly -/

variable {depth : Nat}

/-- At this depth all functions that call each other are orderly, whatever state they are called
    in. -/
structure InOrderAt (policy : ExtractPolicy) (m : HostModule) (depth : Nat) : Prop where
  resolve : ∀ t field site s, Orderly policy m s (resolve policy m depth t field site s)
  anonymousStruct : ∀ fields field site s,
    Orderly policy m s (anonymousStruct policy m depth fields field site s)
  structMembers : ∀ owner fields s,
    Orderly policy m s (structMembers policy m depth owner fields s)
  named : ∀ name site s, Orderly policy m s (named policy m depth name site s)
  namedStruct : ∀ {d fields}, m.lookup d.name = some d → d.type.deref = .struct fields → ∀ s,
    Orderly policy m s (namedStruct policy m depth d fields s)

theorem InOrderAt.resolve_succ (h : InOrderAt policy m depth) (t : HostType)
    (field : Option HostField) (site : String) (s : Extraction) :
    Orderly policy m s (Extraction.resolve policy m (depth + 1) t field site s) := by
  have hfits : (Call.resolve t field site).Fits m := trivial
  rw [Extraction.resolve]
  refine Orderly.recorded_call ?_ hfits
  cases t.deref with
  | slice elem | array len elem => exact (h.resolve elem none site s).bind fun _ _ => .pure _
  | map key value =>
    exact (h.resolve key none site s).bind fun _ s' =>
      (h.resolve value none site s').bind fun _ _ => .pure _
  | struct fields => exact h.anonymousStruct fields field site s
  | named name => exact h.named name site s
  | _ => exact .ofExcept _

/-- A node of a struct without a name is added by itself, and no declaration with it. -/
theorem InOrderAt.anonymousStruct_succ (h : InOrderAt policy m depth) (fields : List HostField)
    (field : Option HostField) (site : String) (s : Extraction) :
    Orderly policy m s (Extraction.anonymousStruct policy m (depth + 1) fields field site s) := by
  have hfits : (Call.anonymousStruct fields field site).Fits m := trivial
  rw [Extraction.anonymousStruct]
  refine ((h.structMembers site fields s).bind fun members s' => ?_).recorded_call hfits
  cases policy.anonNamer with
  | none => exact .pure _
  | some namer =>
    cases field with
    | none => exact .pure _
    | some f =>
      have hadd : Orderly policy m s'
          (change (·.addResult (.interface (namer f) none members)) s') :=
        .of_passes rfl (.quiet (.addResult s' _) (fun hs => hs.addResult _) fun _ _ _ => id)
      exact hadd.bind fun _ _ => .pure _

theorem eachField_orderly {resolve : HostField → Extracting TypeNode}
    (h : ∀ f s, Orderly policy m s (resolve f s)) : ∀ (fields : List HostField) (s : Extraction),
      Orderly policy m s (eachField resolve fields s)
  | [], _ => .pure []
  | f :: rest, s => by
    rw [eachField]
    by_cases hv : f.isVisible
    · rw [if_pos hv]
      exact (h f s).bind fun _ s' => (eachField_orderly h rest s').bind fun _ _ => .pure _
    · rw [if_neg hv]
      exact eachField_orderly h rest s

theorem InOrderAt.structMembers_succ (h : InOrderAt policy m depth) (owner : String)
    (fields : List HostField) (s : Extraction) :
    Orderly policy m s (Extraction.structMembers policy m (depth + 1) owner fields s) := by
  have hfits : (Call.structMembers owner fields).Fits m := trivial
  have heach := eachField_orderly (fun f => h.resolve f.type (some f) s!"{owner}.{f.name}") fields s
  rw [Extraction.structMembers]
  exact (heach.bind fun _ _ => .pure _).recorded_call hfits

/-- What a walk over the fields of `d` has kept in order, the node of `d` keeps in order, too.
    Inside the walk `d` was in progress, so nothing there has declared it. -/
theorem Passes.declareStruct {d : TypeDecl} {fields : List HostField} {node : TypeNode}
    {s s' : Extraction} {l : List Event} (hd : m.lookup d.name = some d)
    (hs : d.type.deref = .struct fields) (hnode : node.name = policy.typeNamer d)
    (hp : d.name ∉ s.inProgress) (hn : d.name ∉ s.declared)
    (h : Passes policy m (s.enter d.name)
      (l ++ [.answered (.structMembers d.name fields) (s.enter d.name) s']) s') :
    Passes policy m s
      (l ++ [.answered (.structMembers d.name fields) (s.enter d.name) s'] ++
        [.walked d (s.enter d.name) s'])
      ((s'.leave d.name).declare d.name node) := by
  -- Inside the walk the struct was in progress, so it has not come to have a node.
  obtain ⟨hunwalked, hold⟩ :=
    (h.fate d fields hd hs).of_inProgress (Finset.mem_insert_self d.name s.inProgress)
  have hn' : d.name ∉ s'.declared := fun hmem => hn (hold hmem)
  have hleave := h.leave hp
  refine ⟨hleave.kept.trans (.declare _ _ _), fun hsound => (hleave.sound hsound).declare hd hnode,
    ?between, ?fate⟩
  case between =>
    intro e he
    rcases List.mem_append.mp he with he | he
    · exact ⟨(hleave.between e he).1, (hleave.between e he).2.trans (Finset.subset_insert _ _)⟩
    · obtain rfl := List.mem_singleton.mp he
      exact ⟨hleave.kept.declared, Finset.subset_insert _ _⟩
  case fate =>
    intro d' fields' hd' hs'
    by_cases heq : d'.name = d.name
    · -- All that is recorded before the walk was recorded while `d` was in progress.
      obtain rfl := HostModule.eq_of_name_eq hd' hd heq.symm
      obtain rfl : fields' = fields := HostType.struct.inj (hs'.symm.trans hs)
      refine .entered hp hn (Finset.mem_insert_self _ _) ⟨l, s.enter d'.name, s', [], by simp, ?_,
        Finset.mem_insert_self _ _, hn', ?_, fun _ he => absurd he List.not_mem_nil⟩
      · intro e he
        rw [List.append_nil] at he
        exact hunwalked e (List.mem_append_left _ he)
      · exact fun e he hmem => hn' ((h.between e (List.mem_append_left _ he)).2 hmem)
    · -- The walk over the fields of another struct is none over those of this one.
      have hother : ∀ e ∈ [Event.walked d (s.enter d.name) s'], ¬ e.IsWalk d' := by
        rintro e he ⟨_, _, rfl⟩
        have hwalk := List.mem_singleton.mp he
        simp only [Event.walked.injEq] at hwalk
        exact heq (congrArg TypeDecl.name hwalk.1)
      cases hleave.fate d' fields' hd' hs' with
      | asBefore hl hdecl =>
        refine .asBefore (fun e he => (List.mem_append.mp he).elim (hl e) (hother e)) ?_
        exact fun hmem => hdecl ((Finset.mem_insert.mp hmem).resolve_left heq)
      | entered hp' hn'' hd'' hl =>
        refine .entered hp' hn'' (Finset.mem_insert_of_mem hd'') (hl.append hother ?_)
        intro e he
        obtain rfl := List.mem_singleton.mp he
        exact hd''

section declareBy

variable {d : TypeDecl} {s : Extraction} {walk : Extracting (List Member)}

theorem declareBy_of_ok {members : List Member}
    (h : (walk (s.enter d.name)).value = .ok members) :
    declareBy policy d walk s =
      ⟨.ok (), ((walk (s.enter d.name)).state.leave d.name).declare d.name
        (.interface (policy.typeNamer d) (policy.declComment d) members),
        (walk (s.enter d.name)).log⟩ := by
  have hwithin : (Extracting.within d.name walk s).value = .ok members := h
  unfold declareBy
  rw [bind_of_ok hwithin]
  simp [Extracting.within, change]

theorem declareBy_of_error {why : Stop} (h : (walk (s.enter d.name)).value = .error why) :
    declareBy policy d walk s =
      ⟨.error why, (walk (s.enter d.name)).state.leave d.name, (walk (s.enter d.name)).log⟩ := by
  have hwithin : (Extracting.within d.name walk s).value = .error why := h
  unfold declareBy
  rw [bind_of_error hwithin]
  rfl

end declareBy

/-- The last entry of a call that has an answer is the one with the answer. -/
theorem log_structMembers {owner : String} {fields : List HostField} {s : Extraction}
    {members : List Member}
    (h : (structMembers policy m depth owner fields s).value = .ok members) :
    ∃ l, (structMembers policy m depth owner fields s).log =
      l ++ [.answered (.structMembers owner fields) s
        (structMembers policy m depth owner fields s).state] := by
  cases depth with
  | zero => exact absurd h (by simp [structMembers, stop])
  | succ depth => exact ⟨_, log_recorded (.structMembers owner fields) h⟩

/-- Walking a struct that has neither a mark nor a node, and declaring it. -/
theorem InOrderAt.declareStruct (h : InOrderAt policy m depth) {d : TypeDecl}
    {fields : List HostField} (hd : m.lookup d.name = some d) (hs : d.type.deref = .struct fields)
    {s : Extraction} (hp : d.name ∉ s.inProgress) (hn : d.name ∉ s.declared) :
    Orderly policy m s (declareBy policy d
      (walking d (Extraction.structMembers policy m depth d.name fields)) s) := by
  have hwalk := h.structMembers d.name fields (s.enter d.name)
  have hrestored := inProgress_leave hp hwalk.restored
  cases hx : (Extraction.structMembers policy m depth d.name fields (s.enter d.name)).value with
  -- A walk that fails declares nothing and leaves the path as it found it.
  | error why =>
    have hwalking := walking_of_error d hx
    rw [declareBy_of_error (congrArg Answer.value hwalking), hwalking]
    refine ⟨hrestored, fun hsound => hwalk.recorded (hsound.enter _), ?_⟩
    rintro ⟨a, ha⟩
    exact absurd ha (by simp)
  | ok members =>
    have hpass := hwalk.passes ⟨members, hx⟩
    have hwalking := walking_of_ok d hx
    rw [declareBy_of_ok (congrArg Answer.value hwalking), hwalking]
    refine ⟨hrestored, fun hsound e he => ?_, fun _ => ?_⟩
    · have hentered := hsound.enter d.name
      -- What is recorded comes from the walk over the members, but for the last event.
      rcases List.mem_append.mp he with he | he
      · exact hwalk.recorded hentered e he
      · obtain rfl := List.mem_singleton.mp he
        exact ⟨hentered, hpass.sound hentered, hpass.kept⟩
    · obtain ⟨before, hl⟩ := log_structMembers hx
      rw [hl] at hpass
      show Passes policy m s (_ ++ _) _
      rw [hl]
      exact hpass.declareStruct hd hs rfl hp hn

/-- A struct is walked only where it is neither in progress nor has a node. -/
theorem InOrderAt.namedStruct_succ (h : InOrderAt policy m depth) {d : TypeDecl}
    {fields : List HostField} (hd : m.lookup d.name = some d) (hs : d.type.deref = .struct fields)
    (s : Extraction) :
    Orderly policy m s (Extraction.namedStruct policy m (depth + 1) d fields s) := by
  have hfits : (Call.namedStruct d fields).Fits m := ⟨hd, hs⟩
  rw [Extraction.namedStruct]
  refine Orderly.recorded_call (.look ?_) hfits
  by_cases he : policy.embedStructs
  · simp only [he, if_true]
    by_cases hp : d.name ∈ s.inProgress
    · rw [if_pos hp]
      exact .fail _
    · rw [if_neg hp]
      exact (Orderly.within hp (h.structMembers _ _ _)).bind fun _ _ => .pure _
  · simp only [he, Bool.false_eq_true, if_false]
    by_cases hwalk : policy.followStructs ∧ d.name ∉ s.inProgress ∧ d.name ∉ s.declared
    · rw [if_pos hwalk]
      exact (h.declareStruct hd hs hwalk.2.1 hwalk.2.2).bind fun _ _ => .pure _
    · rw [if_neg hwalk]
      exact .pure _

/-- The node of a declaration that is no struct. -/
theorem Passes.declare {d : TypeDecl} {node : TypeNode} (hd : m.lookup d.name = some d)
    (hs : ¬ d.IsStruct) (hnode : node.name = policy.typeNamer d) (s : Extraction) :
    Passes policy m s [] (s.declare d.name node) := by
  refine .quiet (.declare s _ _) (fun hsound => hsound.declare hd hnode) fun d' hd' hs' hmem => ?_
  refine (Finset.mem_insert.mp hmem).resolve_left fun heq => ?_
  obtain rfl := HostModule.eq_of_name_eq hd hd' heq
  exact hs hs'

theorem enumeration_orderly {provider : EnumProvider} {d : TypeDecl}
    (hd : m.lookup d.name = some d) (hs : ¬ d.IsStruct) (s : Extraction) :
    Orderly policy m s (enumeration policy provider d s) := by
  refine .look ?_
  by_cases hn : d.name ∈ s.declared
  · rw [if_neg (not_not.mpr hn)]
    exact .pure _
  · rw [if_pos hn]
    refine Orderly.bind ?_ fun _ _ => .pure _
    cases hm : provider.members d with
    | error cause =>
      rw [declareEnum_of_error hm]
      exact .of_error rfl rfl rfl
    | ok members =>
      rw [declareEnum_of_ok hm]
      exact .of_passes rfl (.declare hd hs rfl s)

theorem InOrderAt.named_succ (h : InOrderAt policy m depth) (name site : String)
    (s : Extraction) :
    Orderly policy m s (Extraction.named policy m (depth + 1) name site s) := by
  have hfits : (Call.named name site).Fits m := trivial
  cases hd : m.lookup name with
  | none =>
    rw [named_unknown hd]
    exact (Orderly.fail _).recorded_call hfits
  | some d =>
    have hd' : m.lookup d.name = some d := HostModule.name_of_lookup hd ▸ hd
    by_cases hs : d.IsStruct
    · obtain ⟨fields, hs⟩ := hs
      rw [named_struct hd hs]
      exact (h.namedStruct hd' hs s).recorded_call hfits
    · cases hc : policy.claims? d with
      | some provider =>
        rw [named_enum hd hs hc]
        exact (enumeration_orderly hd' hs s).recorded_call hfits
      | none =>
        by_cases hi : ∃ methods, d.type.deref = .interface methods
        · obtain ⟨methods, hi⟩ := hi
          rw [named_interface hd hc hi]
          exact (Orderly.fail _).recorded_call hfits
        · -- The mark of an alias is taken away when its shape has been resolved.
          rw [named_alias hd ⟨hs, hc⟩ fun methods h => hi ⟨methods, h⟩]
          refine Orderly.recorded_call (.look ?_) hfits
          by_cases hp : d.name ∈ s.inProgress
          · rw [if_pos hp]
            exact .fail _
          · rw [if_neg hp]
            exact .within hp (h.resolve _ _ _ _)

/-- The recursion is closed: where no level is left a call only stops. -/
theorem inOrderAt (depth : Nat) : InOrderAt policy m depth := by
  induction depth with
  | zero =>
    exact ⟨fun _ _ _ _ => .stop _, fun _ _ _ _ => .stop _, fun _ _ _ => .stop _,
      fun _ _ _ => .stop _, fun _ _ _ => .stop _⟩
  | succ depth ih =>
    exact ⟨ih.resolve_succ, ih.anonymousStruct_succ, ih.structMembers_succ, ih.named_succ,
      ih.namedStruct_succ⟩

/-! ## Section 5: Roots are orderly -/

theorem errorLike_orderly (t : HostType) (s : Extraction) :
    Orderly policy m s (errorLike m depth t s) := by
  unfold errorLike
  cases m.errorLikeWithin depth [] t with
  | none => exact .stop _
  | some answer => exact .ofExcept _

theorem returned_orderly (site : String) (t : HostType) (s : Extraction) :
    Orderly policy m s (returned policy m depth site t s) := by
  refine (errorLike_orderly t s).bind fun b s' => ?_
  cases b with
  | true => exact .pure _
  | false => exact (inOrderAt depth).resolve t none site s'

theorem methodReturns_orderly (d : TypeDecl) (method : HostMethod) (s : Extraction) :
    Orderly policy m s (methodReturns policy m depth d method s) := by
  unfold methodReturns
  match method.signature.results with
  | [] => exact .pure _
  | [only] => exact returned_orderly _ only s
  | [first, second] =>
    refine (errorLike_orderly second s).bind fun b s' => ?_
    cases b with
    | true => exact returned_orderly _ first s'
    | false => exact .fail _
  | _ :: _ :: _ :: _ => exact .fail _

theorem methodArgs_orderly (site : String) : ∀ (params : List (HostParam × Nat)) (s : Extraction),
    Orderly policy m s (methodArgs policy m depth site params s)
  | [], _ => .pure []
  | (param, _) :: rest, s =>
    ((inOrderAt depth).resolve param.type none site s).bind fun _ s' =>
      (methodArgs_orderly site rest s').bind fun _ _ => .pure _

theorem methodMember_orderly (d : TypeDecl) (method : HostMethod) (s : Extraction) :
    Orderly policy m s (methodMember policy m depth d method s) := by
  unfold methodMember
  by_cases hv : method.signature.variadic
  · rw [if_pos hv]
    exact .fail _
  · rw [if_neg hv]
    exact (methodReturns_orderly d method s).bind fun _ s' =>
      (methodArgs_orderly _ _ s').bind fun _ _ => .pure _

theorem methodMembers_orderly (d : TypeDecl) : ∀ (methods : List HostMethod) (s : Extraction),
    Orderly policy m s (methodMembers policy m depth d methods s)
  | [], _ => .pure []
  | method :: rest, s =>
    (methodMember_orderly d method s).bind fun _ s' =>
      (methodMembers_orderly d rest s').bind fun _ _ => .pure _

theorem declareInterface_orderly {d : TypeDecl} {methods : List HostMethod}
    (hd : m.lookup d.name = some d) (hi : d.type.deref = .interface methods) {s : Extraction}
    (hp : d.name ∉ s.inProgress) :
    Orderly policy m s (declareBy policy d (do
      return policy.arrange (← methodMembers policy m depth d methods)) s) := by
  have hs : ¬ d.IsStruct := by
    rintro ⟨fields, hs⟩
    exact absurd (hs.symm.trans hi) (by simp)
  refine (Orderly.within hp ?_).bind fun _ s' => .of_passes rfl (.declare hd hs rfl s')
  exact (methodMembers_orderly d methods _).bind fun _ _ => .pure _

/-- The whole extraction is orderly.  At its beginning there are no marks and no nodes. -/
theorem extraction_orderly (policy : ExtractPolicy) (m : HostModule) (depth : Nat)
    (root : HostType) : Orderly policy m {} (extraction policy m depth root) := by
  unfold extraction walkRoot
  cases root.deref with
  | named name =>
    cases hd : m.lookup name with
    | none =>
      simp only [hd]
      exact .fail _
    | some d =>
      have hd' : m.lookup d.name = some d := HostModule.name_of_lookup hd ▸ hd
      simp only [hd]
      cases hs : d.type.deref with
      | struct fields =>
        exact (inOrderAt depth).declareStruct hd' hs (Finset.notMem_empty _)
          (Finset.notMem_empty _)
      | interface methods => exact declareInterface_orderly hd' hs (Finset.notMem_empty _)
      | _ => exact .fail _
  | _ => exact .fail _

/-! ## Section 6: The discipline of an extraction -/

/-- A state that the extraction from the root comes to: the one at its beginning, one in which a
    call begins or has its answer, or the one at its end when it does not fail.  A declaration gets
    its mark and its node in two changes with no call between them. -/
inductive Met (policy : ExtractPolicy) (m : HostModule) (depth : Nat) (root : HostType) :
    Extraction → Prop
  | start : Met policy m depth root {}
  | during {e s} (he : e ∈ (extraction policy m depth root).log) (hs : s ∈ e.states) :
    Met policy m depth root s
  | finish (h : (extraction policy m depth root).IsOk) :
    Met policy m depth root (extraction policy m depth root).state

/-- What is promised of a step that begins in the state `s` and ends in `r`. -/
structure Disciplined (policy : ExtractPolicy) (m : HostModule) (s : Extraction)
    (r : Answer Unit) : Prop where
  /-- The marks are restored, also by a step that fails. -/
  restored : r.state.inProgress = s.inProgress
  kept : r.IsOk → Kept s r.state
  sound : r.IsOk → r.state.Sound policy m
  structs : r.IsOk → ∀ d fields, m.lookup d.name = some d → d.type.deref = .struct fields →
    d.name ∉ s.declared → d.name ∈ r.state.declared → EntersByOneWalk d fields r.log

theorem Orderly.disciplined {s : Extraction} {r : Answer Unit} (h : Orderly policy m s r)
    (hs : s.Sound policy m) : Disciplined policy m s r := by
  refine ⟨h.restored, fun hok => (h.passes hok).kept, fun hok => (h.passes hok).sound hs, ?_⟩
  intro hok d fields hd hfields hn hmem
  cases (h.passes hok).fate d fields hd hfields with
  | asBefore _ hold => exact absurd (hold hmem) hn
  | entered _ _ _ hl => exact hl

theorem Orderly.dropping {α : Type} {x : Extracting α} {s : Extraction}
    (h : Orderly policy m s (x s)) : Orderly policy m s (Extracting.dropping x s) := by
  refine ⟨h.restored, h.recorded, ?_⟩
  rintro ⟨a, ha⟩
  cases hx : (x s).value with
  | error e =>
    simp only [Extracting.dropping, hx] at ha
    exact absurd ha (by simp [Except.map])
  | ok b => exact h.passes ⟨b, hx⟩

theorem perform_orderly {call : Call} (hfits : call.Fits m) (s : Extraction) :
    Orderly policy m s (perform policy m depth call s) := by
  have horderly : InOrderAt policy m depth := inOrderAt depth
  cases call with
  | resolve t field site => exact (horderly.resolve t field site s).dropping
  | named name site => exact (horderly.named name site s).dropping
  | anonymousStruct fields field site =>
    exact (horderly.anonymousStruct fields field site s).dropping
  | namedStruct d fields => exact (horderly.namedStruct hfits.1 hfits.2 s).dropping
  | structMembers owner fields => exact (horderly.structMembers owner fields s).dropping

theorem Met.sound {root : HostType} {s : Extraction} (h : Met policy m depth root s) :
    s.Sound policy m := by
  have horderly := extraction_orderly policy m depth root
  cases h with
  | start => exact sound_empty
  | during he hs => exact (horderly.recorded sound_empty _ he).sound _ hs
  | finish hok => exact (horderly.passes hok).sound sound_empty

/-- Every extraction is disciplined.  With enough levels it is the walk of the library; and with
    however many levels, what it records is in order: its calls begin in states in order, and those
    that have an answer keep the marks, the nodes and the places of the keys.  From every state that
    it comes to, every call is disciplined, and so is the extraction as a whole: the marks are
    restored, the declared names and the keys only grow, nodes stand under their names and declared
    names have a node, and a struct is declared through one walk over its fields. -/
theorem extract_disciplined (policy : ExtractPolicy) (m : HostModule) (root : HostType) :
    (∀ more, graph policy (extraction policy m (m.maxDepth + more) root) =
      some (extract m root policy)) ∧
    ∀ depth,
      (∀ e ∈ (extraction policy m depth root).log, e.InOrder policy m) ∧
      (∀ s, Met policy m depth root s → s.Sound policy m ∧
        ∀ call : Call, call.Fits m → ∀ depth',
          Disciplined policy m s (perform policy m depth' call s)) ∧
      Disciplined policy m {} (extraction policy m depth root) := by
  refine ⟨graph_extraction policy root, fun depth => ?_⟩
  have horderly := extraction_orderly policy m depth root
  refine ⟨horderly.recorded sound_empty, fun s hmet => ⟨hmet.sound, fun call hfits depth' => ?_⟩,
    horderly.disciplined sound_empty⟩
  exact (perform_orderly hfits s).disciplined hmet.sound

/-- The fields of a ship, which mention its own fleet, a ship and an enumeration. -/
def shipFields : List HostField :=
  [⟨"Fleet", .pointer (.named "Fleet"), none⟩, ⟨"Escort", .pointer (.named "Ship"), none⟩,
    ⟨"Flag", .named "Flag", none⟩]

def fleetModule : HostModule where
  types := [
    ⟨"Fleet", .struct [⟨"Ships", .slice (.named "Ship"), none⟩], none, none⟩,
    ⟨"Ship", .struct shipFields, none, none⟩,
    ⟨"Flag", .string, none, some [.string "Red" "red"]⟩]

/-- Twenty levels are enough for a fleet.  While it is walked, its ships are met: the fleet stays in
    progress, and the ship is declared by one walk over its fields, behind its flag. -/
theorem ship_declared_once :
    (extraction .following fleetModule 20 (.named "Fleet")).IsOk ∧
    ∃ s, Met .following fleetModule 20 (.named "Fleet") s ∧ s.inProgress = {"Fleet"} ∧
      "Ship" ∉ s.declared ∧
      let r := perform .following fleetModule 20 (.named "Ship" "Fleet.Ships") s
      r.IsOk ∧ r.state.inProgress = {"Fleet"} ∧ "Ship" ∈ r.state.declared ∧
        r.state.keys = ["Flag", "Ship"] ∧
        EntersByOneWalk ⟨"Ship", .struct shipFields, none, none⟩ shipFields r.log := by
  let s : Extraction := { inProgress := {"Fleet"} }
  have hmet : Met .following fleetModule 20 (.named "Fleet") s := by
    -- Before this call, those for the members of the fleet, for the slice and for its elements
    -- have begun.
    refine .during (e := .begun (.named "Ship" "Fleet.Ships") s) ?_ (List.mem_singleton_self _)
    exact List.mem_of_getElem? (i := 3) rfl
  have hcall := (((extract_disciplined .following fleetModule (.named "Fleet")).2 20).2.1 s hmet).2
    (.named "Ship" "Fleet.Ships") trivial 20
  have hok : (perform .following fleetModule 20 (.named "Ship" "Fleet.Ships") s).IsOk := ⟨(), rfl⟩
  exact ⟨⟨(), rfl⟩, s, hmet, rfl, by decide, hok, hcall.restored, by decide, by decide,
    hcall.structs hok _ _ rfl rfl (by decide) (by decide)⟩

end Extraction

end TypeExport
