import ScopedSql.Proofs.Predicate.Atom

/-! The clause of a filter list says what its filters say.

The text behind `WHERE`, read with `AND` binding stronger than `OR`, is the conjunction of the
items of the list, each an atom or a group of atoms, whatever truth the atoms have.
-/

set_option autoImplicit false

namespace ScopedSql

open Sql

namespace Where

theorem ofItems_eq_ok {rules : RuleTable} {items : List FilterItem} {sql : Sql}
    (compiled : ofItems rules items = .ok sql) :
    ∃ parts, predicates rules items = .ok parts ∧ sql = clause parts := by
  simp only [ofItems, Except.bind_eq_ok, Except.pure_eq_ok] at compiled
  obtain ⟨parts, compiled, rfl⟩ := compiled
  exact ⟨parts, compiled, rfl⟩

theorem render_clause_eq_empty (d : Dialect) (parts : List Sql) :
    (clause parts).render d 0 = "" ↔ parts = [] := by
  cases parts with
  | nil => simp [clause, render]
  | cons part parts => simp [clause, render]

end Where

namespace Parameters

variable {d : Dialect} {rules : RuleTable} {items : List FilterItem} {text : String}
  {after : Parameters}

-- A clause that starts a text is rendered from its pieces and binds their values.
theorem whereClause_eq_ok (compiled : whereClause ⟨d, []⟩ rules items = (.ok text, after)) :
    ∃ sql, Where.ofItems rules items = .ok sql ∧ text = sql.render d 0 ∧
      after.values = sql.values := by
  unfold whereClause compile at compiled
  cases built : Where.ofItems rules items with
  | error fault => simp [built] at compiled
  | ok sql =>
    simp only [built, write, List.length_nil, List.nil_append, Prod.mk.injEq,
      Except.ok.injEq] at compiled
    obtain ⟨rfl, rfl⟩ := compiled
    exact ⟨sql, rfl, rfl, rfl⟩

theorem whereClause_ofText (compiled : whereClause ⟨d, []⟩ .standard items = (.ok text, after)) :
    Scope.ofText d text after.values = some (.ofItems items) := by
  obtain ⟨sql, built, rfl, values⟩ := whereClause_eq_ok compiled
  have lexemes := (Where.ofItems_shows d built).scans.ofText
  have scope := Scope.read_lexemes (Scope.ofItems items) [] ⟨rfl, rfl, rfl⟩
  rw [List.append_nil] at scope
  simp [Scope.ofText, values, lexemes, scope]

end Parameters

namespace FilterItem

theorem factor?_eq_none {item : FilterItem} : item.factor? = none ↔ item.filters = [] := by
  match item with
  | single f => simp [factor?, filters]
  | group ⟨[], _⟩ => simp [factor?, filters]
  | group ⟨[f], _⟩ => simp [factor?, filters]
  | group ⟨f :: g :: rest, .and⟩ => simp [factor?, filters]
  | group ⟨f :: g :: rest, .or⟩ => simp [factor?, filters]

theorem all_holds (truth : Atom Value → Bool) (items : List FilterItem) :
    (items.filterMap factor?).all (·.holds truth) = items.all (·.holds truth) := by
  induction items with
  | nil => rfl
  | cons item items ih =>
    have head := item.holds_eq_factor? truth
    cases factor : item.factor? with
    | none => simp [factor, ih, head]
    | some f => simp [factor, ih, head]

end FilterItem

/-- The clause of a filter list holds where all items of the list hold: a filter by itself, a group
by all or any of its members, a group without members always. -/
theorem whereClause_holds_iff_items_hold (d : Dialect) (filters : Value)
    (items : List FilterItem) (text : String) (after : Parameters)
    (listed : FilterItem.listOf filters = .ok items)
    (compiled : Parameters.whereClause ⟨d, []⟩ .standard items = (.ok text, after)) :
    ∃ scope, Scope.ofText d text after.values = some scope ∧
      (∀ truth, scope.holds truth = items.all (·.holds truth)) ∧
      (text = "" ↔ ∀ item ∈ items, item.filters = []) ∧
      (filters.isGiven = false → text = "") := by
  have read := Parameters.whereClause_ofText compiled
  obtain ⟨sql, built, rfl, _⟩ := Parameters.whereClause_eq_ok compiled
  obtain ⟨parts, predicates, rfl⟩ := Where.ofItems_eq_ok built
  have empty : parts = [] ↔ ∀ item ∈ items, item.filters = [] := by
    rw [← List.length_eq_zero_iff, (Where.predicates_scans d predicates).length_eq,
      List.length_eq_zero_iff, List.filterMap_eq_nil_iff]
    simp only [FilterItem.factor?_eq_none]
  refine ⟨.ofItems items, read, fun truth => ?_, ?_, fun absent => ?_⟩
  · rw [Scope.ofItems, Scope.holds_ofFactors, FilterItem.all_holds]
  · rw [Where.render_clause_eq_empty, empty]
  · rw [FilterItem.listOf, absent] at listed
    cases listed
    rw [Where.render_clause_eq_empty, empty]
    simp

theorem open_and_owned_or_shared_clause_holds :
    ∃ scope, Scope.ofText .postgres "WHERE \"status\" = $1 AND (\"owner\" = $2 OR 1=0)"
        [.text "open", .int 7] = some scope ∧
      (∀ truth : Atom Value → Bool, scope.holds truth =
        [FilterItem.single ⟨.text "status", .eq, .text "open"⟩,
          .group ⟨[⟨.text "owner", .eq, .int 7⟩, ⟨.text "shared", .isIn, .list []⟩], .or⟩].all
            (·.holds truth)) := by
  obtain ⟨scope, read, holds, _⟩ := whereClause_holds_iff_items_hold .postgres
    (.list [Filter.toValue ⟨.text "status", .eq, .text "open"⟩,
      FilterGroup.toValue
        ⟨[⟨.text "owner", .eq, .int 7⟩, ⟨.text "shared", .isIn, .list []⟩], .or⟩])
    _ "WHERE \"status\" = $1 AND (\"owner\" = $2 OR 1=0)" ⟨.postgres, [.text "open", .int 7]⟩
    rfl rfl
  exact ⟨scope, read, holds⟩

end ScopedSql
