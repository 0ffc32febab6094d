/-! # Lists With Keys

    A list stands for a table when its items have keys.  `upsert` enters an item: it takes the place
    of the first one with its key, or comes last.  Items of other keys are neither moved nor
    changed. -/

namespace TypeExport

variable {α β κ : Type} [DecidableEq κ] {key : α → κ} {item x : α} {items : List α}

/-- Enters an item, in place of the first one with its key. -/
def upsert (key : α → κ) (item : α) : List α → List α
  | [] => [item]
  | other :: rest =>
    if key other = key item then item :: rest else other :: upsert key item rest

theorem mem_upsert (h : x ∈ upsert key item items) : x = item ∨ x ∈ items := by
  induction items with
  | nil => exact .inl (List.mem_singleton.mp h)
  | cons other rest ih =>
    rw [upsert] at h
    split at h
    · exact (List.mem_cons.mp h).imp_right (List.mem_cons_of_mem _)
    · rcases List.mem_cons.mp h with rfl | h
      · exact .inr List.mem_cons_self
      · exact (ih h).imp_right (List.mem_cons_of_mem _)

theorem mem_upsert_self (key : α → κ) (item : α) (items : List α) :
    item ∈ upsert key item items := by
  induction items with
  | nil => exact List.mem_singleton_self item
  | cons other rest ih =>
    rw [upsert]
    split
    · exact List.mem_cons_self
    · exact List.mem_cons_of_mem _ ih

/-- Only a new key makes the keys more, and it comes last. -/
theorem keys_upsert (key : α → κ) (item : α) (items : List α) :
    (upsert key item items).map key =
      if key item ∈ items.map key then items.map key else items.map key ++ [key item] := by
  induction items with
  | nil => simp [upsert]
  | cons other rest ih =>
    by_cases h : key other = key item
    · simp [upsert, h]
    · -- The head keeps its place, so only the rest decides.
      have hne : key item ≠ key other := fun he => h he.symm
      simp only [upsert, h, if_false, List.map_cons, ih, List.mem_cons, hne, false_or]
      split <;> rfl

theorem upsert_of_not_mem (h : key item ∉ items.map key) :
    upsert key item items = items ++ [item] := by
  induction items with
  | nil => rfl
  | cons other rest ih =>
    rw [List.map_cons, List.mem_cons, not_or] at h
    rw [upsert, if_neg fun heq => h.1 heq.symm, ih h.2, List.cons_append]

/-- A change of items may come before or after one is entered, when it tells the key of the new item
    from those of the others as before. -/
theorem upsert_map_of_iff {key' : β → κ} {f : α → β}
    (hf : ∀ x ∈ items, key' (f x) = key' (f item) ↔ key x = key item) :
    upsert key' (f item) (items.map f) = (upsert key item items).map f := by
  induction items with
  | nil => rfl
  | cons other rest ih =>
    have hother := hf other List.mem_cons_self
    have hrest := ih fun x hx => hf x (List.mem_cons_of_mem _ hx)
    simp only [List.map_cons, upsert, hother, hrest]
    split <;> rfl

/-- The item found under a key is the last one entered under it. -/
theorem find?_upsert [BEq κ] [LawfulBEq κ] (key : α → κ) (item : α) (items : List α) (k : κ) :
    (upsert key item items).find? (key · == k) =
      if key item = k then some item else items.find? (key · == k) := by
  induction items with
  | nil => by_cases hk : key item = k <;> simp [upsert, hk]
  | cons other rest ih =>
    by_cases hother : key other = key item
    · by_cases hk : key item = k <;> simp [upsert, hother, hk]
    · rw [upsert, if_neg hother, List.find?_cons, List.find?_cons, ih]
      by_cases hk : key other = k
      · -- The head hides the rest from its own key only.
        have hne : key item ≠ k := fun h => hother (hk.trans h.symm)
        simp [hk, hne]
      · simp [beq_eq_false_iff_ne.mpr hk]

end TypeExport
