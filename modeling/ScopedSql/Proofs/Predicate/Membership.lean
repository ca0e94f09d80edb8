import ScopedSql.Proofs.Predicate.Offset
import ScopedSql.Proofs.Statement.Framing
import ScopedSql.Proofs.Value.Arrangement

/-! Membership in a set.

A filter binds the elements of its set each once, in the order in which they are arranged. Whether
the order in which a set is iterated shows in what is bound is thus a question about the elements:
whether they can be sorted, and whether what they are sorted by tells them all apart. Sets inside a
set and nans are left as they come. Elements that can neither be sorted nor written are refused.
-/

set_option autoImplicit false

namespace ScopedSql

def Operator.isMembership (op : Operator) : Bool :=
  op = .isIn || op = .notIn

/-- The set of some elements, frozen or not, that is iterated in their order. -/
def Value.setOf (frozen : Bool) (items : List Value) : Value :=
  if frozen then .frozenSet items else .set items

namespace Test

theorem valueList_setOf (frozen : Bool) (items : List Value) :
    valueList (.setOf frozen items) = Value.arranged items := by
  cases frozen <;> rfl

def membership (op : Operator) (values : List Value) : Test :=
  if op = .notIn then notIn values else isIn values

theorem ofOperator_setOf {op : Operator} (isMembership : op.isMembership) (frozen : Bool)
    (items : List Value) :
    ofOperator op (.setOf frozen items) = (Value.arranged items).map (membership op) := by
  cases op with
  | isIn | notIn =>
    rw [ofOperator, valueList_setOf]
    rfl
  | _ => cases isMembership

theorem values_valueTuple (values : List Value) : (valueTuple values).values = values := by
  simp [valueTuple, Sql.values, Sql.values_append, Sql.values_joined, List.flatMap_map]

theorem values_membership (op : Operator) (name : Identifier) (values : List Value) :
    ((membership op values).sql [.name name]).values = values := by
  unfold membership
  split <;> cases values <;>
    simp [sql, Sql.values, values_valueTuple]

end Test

namespace Parameters

theorem predicates_single (params : Parameters) {f : Filter} {sql : Sql}
    (compiled : f.sql .standard = .ok sql) :
    params.predicates .standard [.single f] =
      (.ok [sql.render params.dialect params.values.length],
        { params with values := params.values ++ sql.values }) := by
  have built : Where.predicates .standard [.single f] = .ok [sql] := by
    simp [Where.predicates, FilterItem.sql?, compiled]
  rw [params.predicates_of_built built]
  rfl

theorem predicates_single_error (params : Parameters) {f : Filter} {fault : Fault}
    (fails : f.sql .standard = .error fault) :
    params.predicates .standard [.single f] = (.error fault, params) := by
  simp [predicates, compile, Where.predicates, FilterItem.sql?, FilterItem.filters,
    Where.boundBefore, fails]

theorem predicates_single_congr (params : Parameters) {f g : Filter}
    (same : f.sql .standard = g.sql .standard) :
    params.predicates .standard [.single f] = params.predicates .standard [.single g] := by
  simp [predicates, compile, Where.predicates, FilterItem.sql?, FilterItem.filters,
    Where.boundBefore, same]

end Parameters

/-- Whether filters for membership in a set compile to one predicate with one list of values, or
fail alike, in whatever order the elements of the set are iterated. -/
def BindsInOwnOrder (frozen : Bool) (items : List Value) : Prop :=
  ∀ others, others.Perm items → ∀ (params : Parameters) (field : Value) (op : Operator),
    op.isMembership →
      params.predicates .standard [.single ⟨field, op, .setOf frozen others⟩] =
        params.predicates .standard [.single ⟨field, op, .setOf frozen items⟩]

theorem Filter.sql_setOf {op : Operator} (isMembership : op.isMembership) (field : Value)
    (frozen : Bool) (items : List Value) :
    Filter.sql .standard ⟨field, op, .setOf frozen items⟩ = (do
      let name ← Identifier.ofValue field
      return (Test.membership op (← Value.arranged items)).sql [.name name]) := by
  simp only [Filter.sql, RuleTable.standard_apply, Test.ofOperator_setOf isMembership]
  congr 1
  funext name
  cases Value.arranged items <;> rfl

section

variable (params : Parameters) {field : Value} {name : Identifier}
  (named : Identifier.ofValue field = .ok name) {op : Operator} (isMembership : op.isMembership)
  (frozen : Bool) {items bound : List Value}
include named isMembership

theorem predicates_setOf (settled : Value.arranged items = .ok bound) :
    params.predicates .standard [.single ⟨field, op, .setOf frozen items⟩] =
      (.ok [((Test.membership op bound).sql [.name name]).render params.dialect
          params.values.length],
        { params with values := params.values ++ bound }) := by
  have compiled : Filter.sql .standard ⟨field, op, .setOf frozen items⟩ =
      .ok ((Test.membership op bound).sql [.name name]) := by
    rw [Filter.sql_setOf isMembership, named, settled]
    rfl
  rw [params.predicates_single compiled, Test.values_membership]

theorem predicates_setOf_error {fault : Fault} (refused : Value.arranged items = .error fault) :
    params.predicates .standard [.single ⟨field, op, .setOf frozen items⟩] =
      (.error fault, params) := by
  refine params.predicates_single_error ?_
  rw [Filter.sql_setOf isMembership, named, refused]
  rfl

end

theorem bindsInOwnOrder_iff {frozen : Bool} {items : List Value} :
    BindsInOwnOrder frozen items ↔ Value.HasOwnOrder items := by
  constructor
  · intro alike others perm
    have named : Identifier.ofValue (.text "id") = .ok ⟨["id"], by decide⟩ := by rfl
    have same := alike others perm ⟨.sqlite, []⟩ (.text "id") .isIn rfl
    -- what is bound shows the order, and a fault shows itself
    cases first : Value.arranged others with
    | ok bound =>
      rw [predicates_setOf _ named rfl _ first] at same
      cases second : Value.arranged items with
      | ok bound' =>
        rw [predicates_setOf _ named rfl _ second] at same
        exact congrArg _ (by simpa using congrArg (fun outcome => outcome.2.values) same)
      | error fault =>
        rw [predicates_setOf_error _ named rfl _ second] at same
        cases congrArg Prod.fst same
    | error fault =>
      rw [predicates_setOf_error _ named rfl _ first] at same
      cases second : Value.arranged items with
      | ok bound =>
        rw [predicates_setOf _ named rfl _ second] at same
        cases congrArg Prod.fst same
      | error fault' =>
        rw [predicates_setOf_error _ named rfl _ second] at same
        exact congrArg _ (Except.error.inj (congrArg Prod.fst same))
  · intro own others perm params field op isMembership
    refine params.predicates_single_congr ?_
    rw [Filter.sql_setOf isMembership, Filter.sql_setOf isMembership, own others perm]

/-- What a filter binds for its set is the elements, each once, unless they can neither be sorted
nor all be written: then it is refused, and nothing is bound. Elements that can be compared are
bound in an order of their own just if of any two different ones one is below the other; elements
that can be sorted in no order, but written, just if different ones have different literals. Plain
elements are always of one or the other kind, and in the first case have an order of their own. -/
theorem set_is_bound_in_order_of_its_own_iff (frozen : Bool) (items : List Value) :
    (∀ (params : Parameters) (field : Value) (op : Operator) (name : Identifier),
      op.isMembership → Identifier.ofValue field = .ok name →
        (∃ bound, bound.Perm items ∧
          params.predicates .standard [.single ⟨field, op, .setOf frozen items⟩] =
            (.ok [((Test.membership op bound).sql [.name name]).render params.dialect
                params.values.length],
              { params with values := params.values ++ bound })) ∨
        Value.sorted? items = none ∧ (∃ x ∈ items, ¬x.isWritable) ∧
          params.predicates .standard [.single ⟨field, op, .setOf frozen items⟩] =
            (.error (.misuse .unreadable), params)) ∧
    (items.Pairwise Value.Comparable → (BindsInOwnOrder frozen items ↔ Value.Ranked items)) ∧
    ((∀ x ∈ items, x.isWritable) →
      (∀ others, others.Perm items → Value.sorted? others = none) →
        (BindsInOwnOrder frozen items ↔
          ∀ x ∈ items, ∀ y ∈ items, x.literal = y.literal → x = y)) ∧
    (Value.PlainSet items →
      (items.Pairwise Value.Comparable ∧ BindsInOwnOrder frozen items) ∨
        ∀ others, others.Perm items → Value.sorted? others = none) := by
  refine ⟨fun params field op name isMembership named => ?_, fun comparable => ?_,
    fun writable unsorted => ?_, fun isSet => ?_⟩
  · cases settled : Value.arranged items with
    | ok bound =>
      exact .inl ⟨bound, Value.perm_arranged settled,
        predicates_setOf params named isMembership frozen settled⟩
    | error fault =>
      obtain ⟨unsorted, unwritable, rfl⟩ := Value.arranged_eq_error.mp settled
      exact .inr ⟨unsorted, unwritable,
        predicates_setOf_error params named isMembership frozen settled⟩
  · rw [bindsInOwnOrder_iff, Value.hasOwnOrder_iff_ranked comparable]
  · rw [bindsInOwnOrder_iff, Value.hasOwnOrder_iff_literals writable unsorted]
  · refine isSet.sorts_or_not.imp_left fun ⟨comparable, ranked⟩ => ⟨comparable, ?_⟩
    rwa [bindsInOwnOrder_iff, Value.hasOwnOrder_iff_ranked comparable]

theorem set_of_texts_and_mixed_set_are_bound_in_order_of_their_own :
    BindsInOwnOrder false [.text "b", .text "c", .text "a"] ∧
      BindsInOwnOrder true [.int 1, .text "a"] := by
  constructor
  · have isSet : Value.PlainSet [.text "b", .text "c", .text "a"] :=
      ⟨by simpa using ⟨.scalar rfl, .scalar rfl, .scalar rfl⟩, by decide⟩
    rcases (set_is_bound_in_order_of_its_own_iff false _).2.2.2 isSet with ⟨_, own⟩ | unsorted
    · exact own
    · have sorts : Value.sorted? [.text "b", .text "c", .text "a"] =
          some [.text "a", .text "b", .text "c"] := by cbv
      cases sorts.symm.trans (unsorted _ (.refl _))
  · have isSet : Value.PlainSet [.int 1, .text "a"] :=
      ⟨by simpa using ⟨.scalar rfl, .scalar rfl⟩, by decide⟩
    have which := set_is_bound_in_order_of_its_own_iff true [.int 1, .text "a"]
    rcases which.2.2.2 isSet with ⟨comparable, _⟩ | unsorted
    · cases (List.pairwise_pair.mp comparable).forward
    · refine (which.2.2.1 (Value.allWritable_iff.mp rfl) unsorted).mpr ?_
      have apart : (Value.int 1).literal ≠ (Value.text "a").literal := by decide
      simpa using ⟨apart, apart.symm⟩

/-- Of two sets in a set neither is below the other, so that they are bound as they come. -/
theorem sets_in_set_are_bound_as_they_come :
    (Parameters.mk .sqlite []).predicates .standard
        [.single ⟨.text "team", .isIn, .setOf false
          [.frozenSet [.int 3], .frozenSet [.int 5]]⟩] =
      (.ok ["\"team\" IN (?, ?)"], ⟨.sqlite, [.frozenSet [.int 3], .frozenSet [.int 5]]⟩) ∧
    (Parameters.mk .sqlite []).predicates .standard
        [.single ⟨.text "team", .isIn, .setOf false
          [.frozenSet [.int 5], .frozenSet [.int 3]]⟩] =
      (.ok ["\"team\" IN (?, ?)"], ⟨.sqlite, [.frozenSet [.int 5], .frozenSet [.int 3]]⟩) ∧
    ¬ BindsInOwnOrder false [.frozenSet [.int 3], .frozenSet [.int 5]] := by
  have named : Identifier.ofValue (.text "team") = .ok ⟨["team"], by decide⟩ := by rfl
  have first : Value.arranged [.frozenSet [.int 3], .frozenSet [.int 5]] =
      .ok [.frozenSet [.int 3], .frozenSet [.int 5]] := by cbv
  have second : Value.arranged [.frozenSet [.int 5], .frozenSet [.int 3]] =
      .ok [.frozenSet [.int 5], .frozenSet [.int 3]] := by cbv
  rw [predicates_setOf _ named rfl _ first, predicates_setOf _ named rfl _ second]
  refine ⟨by rfl, by rfl, fun own => ?_⟩
  have same := bindsInOwnOrder_iff.mp own _ (List.Perm.swap _ _ _)
  cases first.symm.trans (same.symm.trans second)

end ScopedSql
