import Mathlib.Data.List.Sublists
import TypeExport.Policy.SortOrder

/-! # Stable Sorting

    What an order of names does to a list is said here without the algorithm: the items come in
    ascending order, and those that the order does not tell apart stay as they were.  All orders of
    names do this when they are total preorders, as the two that are built in are. -/

namespace TypeExport

/-! ## Section 1: Stably sorted lists -/

/-- `sorted` holds the items in ascending order, and leaves those that the order does not tell apart
    in the order they had. -/
structure IsStableSort {α : Type} (le : α → α → Bool) (items sorted : List α) : Prop where
  perm : sorted.Perm items
  ascending : sorted.Pairwise fun a b => le a b
  stable : ∀ a, sorted.filter (fun b => le a b && le b a) =
    items.filter fun b => le a b && le b a

/-- A comparison that may leave distinct items undecided, but decides between any two in some
    way. -/
structure IsTotalPreorder {α : Type} (le : α → α → Bool) : Prop where
  total : ∀ a b, le a b || le b a
  trans : ∀ a b c, le a b → le b c → le a c

section

variable {α β : Type} {le : α → α → Bool}

/-- Items compared by their names are compared by a total preorder if the names are. -/
theorem IsTotalPreorder.comap (h : IsTotalPreorder le) (name : β → α) :
    IsTotalPreorder fun a b => le (name a) (name b) :=
  ⟨fun a b => h.total (name a) (name b), fun a b c => h.trans (name a) (name b) (name c)⟩

/-- Merge sort is a stable sort. -/
theorem isStableSort_mergeSort (h : IsTotalPreorder le) (items : List α) :
    IsStableSort le items (items.mergeSort le) := by
  have hperm := List.mergeSort_perm items le
  refine ⟨hperm, List.pairwise_mergeSort h.trans h.total items, fun a => ?_⟩
  let tied : α → Bool := fun b => le a b && le b a
  -- Items that are tied with `a` are in ascending order as they stand, so they survive the sort.
  have htied : (items.filter tied).Pairwise fun b c => le b c := by
    refine (List.pairwise_of_forall_mem_list fun b hb c hc => ?_)
    have hb' := (Bool.and_eq_true_iff.mp (List.mem_filter.mp hb).2)
    have hc' := (Bool.and_eq_true_iff.mp (List.mem_filter.mp hc).2)
    exact h.trans b a c hb'.2 hc'.1
  have hsub := List.sublist_mergeSort h.trans h.total htied List.filter_sublist
  have hinner : (items.filter tied).Sublist ((items.mergeSort le).filter tied) := by
    simpa using hsub.filter tied
  exact (hinner.eq_of_length (hperm.filter tied).length_eq.symm).symm

end

/-! ## Section 2: Orders of names -/

namespace SortOrder

variable {α : Type} {order : SortOrder}

/-- Whether an item of the first name may stand before one of the second. -/
def le : SortOrder → String → String → Bool
  | .discovery, _, _ => true
  | .alphabetical, a, b => (byCodePoints a b).isLE
  | .custom cmp, a, b => (cmp a b).isLE

/-- Any item may stand before any other. -/
theorem isTotalPreorder_discovery : IsTotalPreorder discovery.le :=
  ⟨fun _ _ => rfl, fun _ _ _ _ _ => rfl⟩

theorem isTotalPreorder_alphabetical : IsTotalPreorder alphabetical.le where
  total a b := by
    have hswap : compare b a = (compare a b).swap := Std.OrientedCmp.eq_swap
    simp only [le, byCodePoints, hswap]
    cases compare a b <;> rfl
  trans a b c hab hbc := by
    have hab' : (compare a b).isLE := hab
    have hbc' : (compare b c).isLE := hbc
    show (compare a c).isLE
    exact Std.TransCmp.isLE_trans hab' hbc'

/-- The alphabetical order tells all names apart. -/
theorem alphabetical_antisymm {a b : String} (hab : alphabetical.le a b)
    (hba : alphabetical.le b a) : a = b := by
  have hab' : (compare a b).isLE := hab
  have hba' : (compare b a).isLE := hba
  exact Std.LawfulEqCmp.eq_of_compare (Std.OrientedCmp.isLE_antisymm hab' hba')

/-- Items are put into the order of their names by a stable sort. -/
theorem sortBy_isStableSort (h : IsTotalPreorder order.le) (name : α → String)
    (items : List α) :
    IsStableSort (fun a b => order.le (name a) (name b)) items (order.sortBy name items) := by
  cases order with
  | discovery =>
    exact ⟨.refl items, List.pairwise_of_forall fun _ _ => rfl, fun _ => rfl⟩
  | alphabetical => exact isStableSort_mergeSort (h.comap name) items
  | custom cmp => exact isStableSort_mergeSort (h.comap name) items

/-- Sorted items stay as they are. -/
theorem sortBy_of_pairwise {name : α → String} {items : List α}
    (h : items.Pairwise fun a b => order.le (name a) (name b)) :
    order.sortBy name items = items := by
  cases order with
  | discovery => rfl
  | alphabetical => exact List.mergeSort_of_pairwise h
  | custom cmp => exact List.mergeSort_of_pairwise h

end SortOrder

end TypeExport
