import ScopedSql.Filter
import ScopedSql.Proofs.Outcome

/-! How lists of filters and groups are read: item by item, and objects as they are. -/

set_option autoImplicit false

namespace ScopedSql

theorem mapM_of_read_back {α : Type} {toValue : α → Value} {ofRecord? : Value → Option α}
    (each : ∀ a, ofRecord? (toValue a) = some a) (xs : List α) :
    (xs.map toValue).mapM ofRecord? = some xs := by
  induction xs with
  | nil => rfl
  | cons x xs ih =>
    rw [List.map_cons, List.mapM_cons, each, ih]
    rfl

theorem Filter.ofRecord?_toValue (f : Filter) : ofRecord? f.toValue = some f :=
  rfl

namespace FilterItem

theorem ofValue_toValue (item : FilterItem) : ofValue item.toValue = .ok item := by
  cases item with
  | single f => rfl
  | group g =>
    have filters := mapM_of_read_back Filter.ofRecord?_toValue g.filters
    have read : FilterGroup.ofRecord? g.toValue = some g := by
      rw [FilterGroup.toValue, FilterGroup.ofRecord?, filters]
      rfl
    have other : Filter.ofRecord? g.toValue = none := rfl
    simp only [ofValue, toValue, read, other]

-- A list is read item by item, also where it has none.
theorem listOf_list (xs : List Value) : listOf (.list xs) = xs.mapM ofValue := by
  cases xs with
  | nil => rfl
  | cons => rfl

theorem listOf_append {xs ys : List Value} {items more : List FilterItem}
    (listed : listOf (.list xs) = .ok items) (listed' : listOf (.list ys) = .ok more) :
    listOf (.list (xs ++ ys)) = .ok (items ++ more) := by
  rw [listOf_list, Except.mapM_eq_ok] at listed listed' ⊢
  exact List.rel_append listed listed'

theorem listOf_toValue (items : List FilterItem) :
    listOf (.list (items.map toValue)) = .ok items := by
  rw [listOf_list, Except.mapM_eq_ok, List.forall₂_map_left_iff, List.forall₂_same]
  exact fun item _ => ofValue_toValue item

end FilterItem

end ScopedSql
