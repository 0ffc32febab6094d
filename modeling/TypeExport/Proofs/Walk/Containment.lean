import Mathlib
import TypeExport.Proofs.Walk.Search

/-! # Containment

    With structs embedded, every declaration but an enumeration is written out where its name
    stands.  Then a declaration has no finite form if it contains itself, whatever lies between:
    structs, aliases, collections, anonymous structs.

    `cyclicType_iff_contains_itself` says that a walk finds exactly these.  It fails with a circle
    only at a declaration that contains itself, and it does not succeed when it can come to one;
    that a declaration is met a second time beside the first is no circle. -/

namespace TypeExport

namespace ExtractPolicy

variable (policy : ExtractPolicy) (m : HostModule)

/-! ## Section 1: Containment -/

/-- The declaration `e` is named in a visible place of `d`, which is a struct or an alias.
    Enumerations contain nothing. -/
def Contains (d e : TypeDecl) : Prop :=
  ¬ policy.IsEnum d ∧ e.name ∈ d.type.mentions ∧ m.lookup e.name = some e

/-- The declaration contains itself, directly or by way of others. -/
def ContainsItself (d : TypeDecl) : Prop := Relation.TransGen (policy.Contains m) d d

/-- The declaration is contained in the root, or is the root. -/
def ContainedIn (root d : TypeDecl) : Prop := Relation.ReflTransGen (policy.Contains m) root d

variable {policy : ExtractPolicy} {m : HostModule}

/-- With structs embedded, all that contains anything is written out. -/
theorem isWrittenOut_iff (he : policy.embedStructs = true) {d : TypeDecl} :
    policy.IsWrittenOut d ↔ ¬ policy.IsEnum d := by
  constructor
  · exact IsWrittenOut.not_isEnum
  · intro h
    by_cases hs : d.IsStruct
    · exact .inr ⟨he, hs⟩
    · refine .inl ⟨hs, ?_⟩
      cases hc : policy.claims? d with
      | none => rfl
      | some provider => exact absurd ⟨hs, by rw [hc]; rfl⟩ h

theorem Contains.written (he : policy.embedStructs = true) {d e : TypeDecl}
    (hd : m.lookup d.name = some d) (h : policy.Contains m d e) :
    policy.WrittenStep m d.name e.name :=
  ⟨d, hd, (isWrittenOut_iff he).mpr h.1, h.2.1⟩

/-- Names stand for what is contained in a declaration that its name stands for. -/
theorem lookup_of_contained {d e : TypeDecl} (hd : m.lookup d.name = some d)
    (h : policy.ContainedIn m d e) : m.lookup e.name = some e := by
  rcases Relation.ReflTransGen.cases_tail h with rfl | ⟨_, _, hlast⟩
  · exact hd
  · exact hlast.2.2

theorem ContainedIn.written (he : policy.embedStructs = true) {d e : TypeDecl}
    (hd : m.lookup d.name = some d) (h : policy.ContainedIn m d e) :
    Relation.ReflTransGen (policy.WrittenStep m) d.name e.name := by
  induction h with
  | refl => exact .refl
  | tail hfirst hlast ih => exact ih.tail (hlast.written he (lookup_of_contained hd hfirst))

theorem ContainsItself.written (he : policy.embedStructs = true) {d : TypeDecl}
    (h : policy.ContainsItself m d) :
    Relation.TransGen (policy.WrittenStep m) d.name d.name := by
  -- The last step of the circle finds the declaration by its name.
  obtain ⟨c, hfirst, hback⟩ := Relation.TransGen.head'_iff.mp h
  have hd : m.lookup d.name = some d := lookup_of_contained hfirst.2.2 hback
  exact Relation.TransGen.head' (hfirst.written he hd) (ContainedIn.written he hfirst.2.2 hback)

/-! ## Section 2: No circle goes unnoticed -/

/-- Under a root from which a walk succeeds nothing contains itself. -/
theorem RootWalk.not_containsItself (he : policy.embedStructs = true) {root : HostType}
    (w : policy.RootWalk m root) (hs : w.decl.IsStruct) {e : TypeDecl}
    (h : policy.ContainedIn m w.decl e) : ¬ policy.ContainsItself m e := by
  have hvisits := w.visits_mentions hs
  intro hself
  rcases Relation.ReflTransGen.cases_head h with rfl | ⟨c, hfirst, hrest⟩
  · -- A root that contains itself is written out somewhere below itself, where it is on the path.
    obtain ⟨c, hfirst, hback⟩ := Relation.TransGen.head'_iff.mp hself
    exact hvisits.not_mem_path hfirst.2.1 (ContainedIn.written he hfirst.2.2 hback) w.lookup_eq
      ((isWrittenOut_iff he).mpr hfirst.1) List.mem_cons_self
  · exact hvisits.not_circular hfirst.2.1 (ContainedIn.written he hfirst.2.2 hrest)
      (hself.written he)

/-! ## Section 3: No circle is made up -/

/-- A search stalls only at a declaration that contains itself, if all its names are contained in
    the root and in everything on the path. -/
theorem Stalls.containsItself (he : policy.embedStructs = true) {root : TypeDecl} {n : String}
    {path names D : List String} (h : policy.Stalls m path names D n) :
    (∀ e, m.lookup e.name = some e → e.name ∈ names → policy.ContainedIn m root e ∧
      ∀ a, m.lookup a.name = some a → a.name ∈ path →
        Relation.TransGen (policy.Contains m) a e) →
      ∃ e, e.name = n ∧ policy.ContainedIn m root e ∧ policy.ContainsItself m e := by
  induction h with
  | @again path d names D hd _ hp =>
    intro hcont
    obtain ⟨hroot, hpath⟩ := hcont d hd List.mem_cons_self
    exact ⟨d, rfl, hroot, hpath d hd hp⟩
  | @writtenOut path d names D n hd hw _ _ ih =>
    intro hcont
    obtain ⟨hroot, hpath⟩ := hcont d hd List.mem_cons_self
    -- What the declaration mentions it contains, and so does whatever contains the declaration.
    refine ih fun e he' hmem => ?_
    have hstep : policy.Contains m d e := ⟨hw.not_isEnum, hmem, he'⟩
    refine ⟨hroot.tail hstep, fun a ha hmem => ?_⟩
    rcases List.mem_cons.mp hmem with heq | hmem
    · obtain rfl := HostModule.eq_of_name_eq hd ha heq
      exact .single hstep
    · exact (hpath a ha hmem).tail hstep
  | followed _ hf _ _ _ _ => exact absurd (he ▸ hf.1) (by simp)
  | later _ _ ih =>
    intro hcont
    exact ih fun e he' hmem => hcont e he' (List.mem_append_right _ hmem)

/-- With structs embedded, a walk from a struct fails with a circle only at a declaration below the
    root that contains itself, and it does not succeed when there is one.  So where nothing contains
    itself no circle is reported, however often a declaration is used. -/
theorem cyclicType_iff_contains_itself (he : policy.embedStructs = true) {root : HostType}
    {d : TypeDecl} (hroot : root.deref = .named d.name) (hd : m.lookup d.name = some d)
    (hs : d.IsStruct) :
    (∀ n, extract m root policy = .error (.cyclicType n) →
      ∃ e, e.name = n ∧ policy.ContainedIn m d e ∧ policy.ContainsItself m e) ∧
    (∀ graph, extract m root policy = .ok graph →
      ∀ e, policy.ContainedIn m d e → ¬ policy.ContainsItself m e) ∧
    ((∀ e, policy.ContainedIn m d e → ¬ policy.ContainsItself m e) →
      ∀ n, extract m root policy ≠ .error (.cyclicType n)) := by
  have hfails : ∀ n, extract m root policy = .error (.cyclicType n) →
      ∃ e, e.name = n ∧ policy.ContainedIn m d e ∧ policy.ContainsItself m e := by
    intro n h
    obtain ⟨fields, hs'⟩ := id hs
    have hstalls := (extract_struct_error hroot hd hs' h).stalls rfl
    rw [← mentions_struct hs'] at hstalls
    -- On the path there is the root alone, from which one step leads to what it mentions.
    refine hstalls.containsItself he fun e he' hmem => ?_
    have hstep : policy.Contains m d e := ⟨fun henum => henum.1 hs, hmem, he'⟩
    refine ⟨.single hstep, fun a ha hmem => ?_⟩
    obtain rfl := HostModule.eq_of_name_eq hd ha (List.mem_singleton.mp hmem)
    exact .single hstep
  refine ⟨hfails, ?_, ?_⟩
  · intro graph h e hcont
    obtain ⟨w, -⟩ := extract_eq_ok h
    obtain rfl : w.decl = d := w.decl_eq hroot hd
    exact w.not_containsItself he hs hcont
  · intro hnone n h
    obtain ⟨e, _, hcont, hself⟩ := hfails n h
    exact hnone e hcont hself

def treeDecl : TypeDecl := ⟨"Tree", .struct [⟨"Branches", .named "Forest", none⟩], none, none⟩

def forestModule : HostModule where
  types := [treeDecl, ⟨"Forest", .slice (.pointer (.named "Tree")), none, none⟩]

/-- The tree contains itself by way of the forest. -/
theorem tree_contains_itself :
    extract forestModule (.named "Tree") embedding = .error (.cyclicType "Tree") ∧
      ∃ e, e.name = "Tree" ∧ embedding.ContainedIn forestModule treeDecl e ∧
        embedding.ContainsItself forestModule e := by
  have h : extract forestModule (.named "Tree") embedding = .error (.cyclicType "Tree") := by cbv
  have hs : treeDecl.IsStruct := ⟨_, rfl⟩
  have hd : forestModule.lookup treeDecl.name = some treeDecl := rfl
  exact ⟨h, (cyclicType_iff_contains_itself rfl rfl hd hs).1 "Tree" h⟩

def pairModule : HostModule where
  types := [
    ⟨"Pair", .struct [⟨"First", .named "Half", none⟩, ⟨"Second", .named "Half", none⟩], none, none⟩,
    ⟨"Half", .struct [⟨"Size", .int 32 false, none⟩], none, none⟩]

example : extract pairModule (.named "Pair") embedding = .ok [.interface "Pair" none [
    .property "First" (.interface "" none [.property "Size" .number]),
    .property "Second" (.interface "" none [.property "Size" .number])]] := by cbv

end ExtractPolicy

end TypeExport
