import Mathlib.Algebra.BigOperators.Group.List.Basic
import ScopedSql.Proofs.Query.Builders

/-! Options merged with options.

Merging appends orderings and columns and keeps the last page that is set, so options form a monoid
whose unit asks for nothing. However many options are merged, and however they are bracketed, what
comes out is read off the list of them. Merging hands its parts to the check of options, as values,
and they pass it as they are.
-/

set_option autoImplicit false

namespace ScopedSql.Options

/-! ## Two options -/

instance : Monoid Options where
  mul := merge
  one := empty
  mul_assoc a b c := by
    change (a.merge b).merge c = a.merge (b.merge c)
    cases limit : c.limit <;> cases offset : c.offset <;>
      simp [merge, limit, offset, List.append_assoc]
  one_mul o := by
    change empty.merge o = o
    cases o with
    | mk orderBy limit offset fields => cases limit <;> cases offset <;> rfl
  mul_one o := by
    change o.merge empty = o
    simp [merge, empty]

theorem mul_eq_merge (a b : Options) : a * b = a.merge b :=
  rfl

/-- What a part becomes that another value overrides unless it is nothing. -/
def overridden (x y : Value) : Value :=
  match y with
  | .null => x
  | y => y

theorem countValue_orElse (m n : Option Nat) :
    countValue (n.orElse fun _ => m) = overridden (countValue m) (countValue n) := by
  cases n <;> rfl

/-- The parts of two options pass the check that all options pass, and make the merged ones. -/
theorem make_merge (a b : Options) :
    make (.tuple (a.orderBy.map OrderTerm.toValue ++ b.orderBy.map OrderTerm.toValue))
        (overridden (countValue a.limit) (countValue b.limit))
        (overridden (countValue a.offset) (countValue b.offset))
        (.tuple (a.fields ++ b.fields)) =
      .ok (a.merge b) := by
  have orderings :
      Value.tuple (a.orderBy.map OrderTerm.toValue ++ b.orderBy.map OrderTerm.toValue) =
        orderingsValue (a.orderBy ++ b.orderBy) := by
    rw [orderingsValue, List.map_append]
  rw [orderings, ← countValue_orElse, ← countValue_orElse, make_orderingsValue,
    readCount_countValue, readCount_countValue]
  rfl

/-! ## Several options -/

def merged (os : List Options) : Options :=
  os.foldl merge empty

theorem merged_eq_prod (os : List Options) : merged os = os.prod := by
  rw [List.prod_eq_foldl]
  rfl

theorem merged_append (os others : List Options) :
    merged (os ++ others) = (merged os).merge (merged others) := by
  rw [merged_eq_prod, merged_eq_prod, merged_eq_prod, List.prod_append, mul_eq_merge]

def lastSet (count : Options → Option Nat) (os : List Options) : Option Nat :=
  (os.filterMap count).getLast?

theorem lastSet_concat (count : Options → Option Nat) (os : List Options) (o : Options) :
    lastSet count (os ++ [o]) = (count o).orElse fun _ => lastSet count os := by
  cases set : count o <;> simp [lastSet, set]

theorem merged_eq (os : List Options) :
    merged os = ⟨os.flatMap orderBy, lastSet limit os, lastSet offset os, os.flatMap fields⟩ := by
  induction os using List.reverseRecOn with
  | nil => rfl
  | append_singleton os o ih =>
    have step : merged (os ++ [o]) = (merged os).merge o := by
      rw [merged, List.foldl_append]
      rfl
    rw [step, ih, lastSet_concat, lastSet_concat]
    simp [merge]

/-- Options are a monoid under merging: brackets do not count and empty options change nothing.
What is merged passes the check of options, and of several options it has all orderings and columns
in their order, with the last limit and the last offset that are set. -/
theorem options_form_a_monoid :
    (∀ a b c : Options, a.merge (b.merge c) = (a.merge b).merge c) ∧
    (∀ o : Options, empty.merge o = o ∧ o.merge empty = o) ∧
    (∀ a b : Options,
      make (.tuple (a.orderBy.map OrderTerm.toValue ++ b.orderBy.map OrderTerm.toValue))
          (overridden (countValue a.limit) (countValue b.limit))
          (overridden (countValue a.offset) (countValue b.offset))
          (.tuple (a.fields ++ b.fields)) =
        .ok (a.merge b)) ∧
    (∀ os others : List Options,
      merged (os ++ others) = (merged os).merge (merged others)) ∧
    ∀ os : List Options,
      merged os = ⟨os.flatMap orderBy, lastSet limit os, lastSet offset os, os.flatMap fields⟩ :=
  ⟨fun a b c => (mul_assoc a b c).symm, fun o => ⟨one_mul o, mul_one o⟩, make_merge, merged_append,
    merged_eq⟩

end ScopedSql.Options
