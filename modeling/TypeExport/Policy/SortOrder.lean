/-! # Order of Names

    Declarations, members and enumeration members come in one order, chosen by their names.  All
    orders are stable: names that an order does not tell apart stay as they were found. -/

namespace TypeExport

inductive SortOrder where
  /-- As found. -/
  | discovery
  /-- Ascending by code points. -/
  | alphabetical
  /-- By a comparison of the caller's choice, a total preorder. -/
  | custom (compare : String → String → Ordering)
  deriving Inhabited

namespace SortOrder

/-- Ascending order by code points, which is also the order of the encoded bytes. -/
def byCodePoints (a b : String) : Ordering := compare a b

/-- Puts `items` into the order of their names. -/
def sortBy {α : Type} (order : SortOrder) (name : α → String) (items : List α) : List α :=
  match order with
  | .discovery => items
  | .alphabetical => items.mergeSort fun a b => (byCodePoints (name a) (name b)).isLE
  | .custom cmp => items.mergeSort fun a b => (cmp (name a) (name b)).isLE

/-- Sorting neither loses nor adds anything. -/
theorem sortBy_perm {α : Type} (order : SortOrder) (name : α → String) (items : List α) :
    (order.sortBy name items).Perm items := by
  cases order with
  | discovery => exact List.Perm.refl items
  | alphabetical => exact List.mergeSort_perm items _
  | custom cmp => exact List.mergeSort_perm items _

/-- The word by which a description of the policy names the order. -/
def label : SortOrder → String
  | .discovery => "Discovery"
  | .alphabetical => "Alphabetical"
  | .custom _ => "Custom(..)"

end SortOrder

end TypeExport
