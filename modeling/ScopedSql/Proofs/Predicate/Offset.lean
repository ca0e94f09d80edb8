import ScopedSql.Proofs.Filter
import ScopedSql.Proofs.Predicate.Atom

/-! Predicates behind other bound values.

Whether a filter list compiles, and which values it binds, does not depend on what was bound before.
Its predicates do, but by the numbers of their placeholders alone. So a list may be compiled in
parts, each behind the values of the parts before it.
-/

set_option autoImplicit false

namespace ScopedSql

open Sql

/-! ## Predicates of a list -/

namespace Where

theorem predicates_append {rules : RuleTable} {f g : List FilterItem} {first rest : List Sql}
    (built : predicates rules f = .ok first) (built' : predicates rules g = .ok rest) :
    predicates rules (f ++ g) = .ok (first ++ rest) := by
  simp only [predicates, Except.bind_eq_ok, Except.pure_eq_ok, Except.mapM_eq_ok] at built built' ⊢
  obtain ⟨parts, each, rfl⟩ := built
  obtain ⟨parts', each', rfl⟩ := built'
  exact ⟨parts ++ parts', List.rel_append each each', List.filterMap_append⟩

theorem predicates_apart {items : List FilterItem} {parts : List Sql}
    (built : predicates .standard items = .ok parts) :
    ∀ part ∈ parts, Apart .clear .loose part := by
  have each := (predicates_scans .postgres built).imp fun part factor scans =>
    And.intro scans.apart scans
  exact ((List.forall₂_and_left parts _).mp each).1

end Where

namespace Parameters

/-! ## Writing one predicate after the other -/

theorem writeAll_append (params : Parameters) (first rest : List Sql) :
    params.writeAll (first ++ rest) =
      ((params.writeAll first).1 ++ ((params.writeAll first).2.writeAll rest).1,
        ((params.writeAll first).2.writeAll rest).2) := by
  induction first generalizing params with
  | nil => rfl
  | cons part first ih => simp only [List.cons_append, writeAll, ih]

theorem writeAll_values (params : Parameters) (parts : List Sql) :
    (params.writeAll parts).2 =
      { params with values := params.values ++ parts.flatMap Sql.values } := by
  induction parts generalizing params with
  | nil => simp [writeAll]
  | cons part parts ih => simp [writeAll, write, ih]

-- Behind more values each part is the same text with higher numbers, and so are those behind it.
theorem writeAll_renumbered (params fresh : Parameters) (same : params.dialect = fresh.dialect)
    {more : Nat} (offset : params.values.length = fresh.values.length + more) {parts : List Sql}
    (apart : ∀ part ∈ parts, Apart .clear .loose part) :
    (params.writeAll parts).1 =
      (fresh.writeAll parts).1.map (params.dialect.renumbered more) := by
  induction parts generalizing params fresh with
  | nil => rfl
  | cons part parts ih =>
    obtain ⟨head, tail⟩ := List.forall_mem_cons.mp apart
    have text : (params.write part).1 = params.dialect.renumbered more (fresh.write part).1 := by
      rw [write, write, ← same, head.renumbered, offset]
    have further : (params.write part).2.values.length =
        (fresh.write part).2.values.length + more := by
      simp only [write, List.length_append, offset]
      omega
    have rest := ih (params.write part).2 (fresh.write part).2 same further tail
    simp only [writeAll, List.map_cons, text, rest]
    rfl

theorem writeAll_behind (params : Parameters) {parts : List Sql}
    (apart : ∀ part ∈ parts, Apart .clear .loose part) :
    (params.writeAll parts).1 =
      ((Parameters.mk params.dialect []).writeAll parts).1.map
        (params.dialect.renumbered params.values.length) :=
  writeAll_renumbered params ⟨params.dialect, []⟩ rfl (Nat.zero_add _).symm apart

/-! ## Compiling at an offset -/

theorem predicates_of_built {rules : RuleTable} {items : List FilterItem} {parts : List Sql}
    (params : Parameters) (built : Where.predicates rules items = .ok parts) :
    params.predicates rules items =
      (.ok (params.writeAll parts).1, (params.writeAll parts).2) := by
  simp only [predicates, compile, built]

/-- Behind these parameters a filter list compiles to these predicates and binds these values. -/
def Compiles (params : Parameters) (items : List FilterItem) (texts : List String)
    (added : List Value) : Prop :=
  params.predicates .standard items =
    (.ok texts, { params with values := params.values ++ added })

variable {items : List FilterItem} {parts : List Sql}

theorem compiles_of_built (params : Parameters)
    (built : Where.predicates .standard items = .ok parts) :
    params.Compiles items (params.writeAll parts).1 (parts.flatMap Sql.values) := by
  rw [Compiles, predicates_of_built params built, writeAll_values]

-- What is built is built from the items alone, whatever was bound before.
theorem exists_built {params : Parameters} {texts : List String}
    (compiled : (params.predicates .standard items).1 = .ok texts) :
    ∃ parts, Where.predicates .standard items = .ok parts := by
  cases built : Where.predicates .standard items with
  | ok parts => exact ⟨parts, rfl⟩
  | error fault => simp [predicates, compile, built] at compiled

/-- Filter lists that compile anywhere compile behind any parameters: a list in two parts to the
predicates of the first part and those of the second behind the values of the first. The earlier
values stay as they are, and the predicates of a part are those that it has by itself, with their
placeholders raised by the number of values before it. -/
theorem predicates_compile_at_any_offset (params : Parameters) {xs ys : List Value}
    {f g : List FilterItem} (listed : FilterItem.listOf (.list xs) = .ok f)
    (listed' : FilterItem.listOf (.list ys) = .ok g) {elsewhere elsewhere' : Parameters}
    {texts texts' : List String} (compiled : (elsewhere.predicates .standard f).1 = .ok texts)
    (compiled' : (elsewhere'.predicates .standard g).1 = .ok texts') :
    FilterItem.listOf (.list (xs ++ ys)) = .ok (f ++ g) ∧
    ∃ (bare bare' first rest : List String) (added added' : List Value),
      (Parameters.mk params.dialect []).Compiles f bare added ∧
      (Parameters.mk params.dialect []).Compiles g bare' added' ∧
      params.Compiles f first added ∧
      (Parameters.mk params.dialect (params.values ++ added)).Compiles g rest added' ∧
      params.Compiles (f ++ g) (first ++ rest) (added ++ added') ∧
      first = bare.map (params.dialect.renumbered params.values.length) ∧
      rest = bare'.map (params.dialect.renumbered (params.values ++ added).length) := by
  obtain ⟨parts, built⟩ := exists_built compiled
  obtain ⟨parts', built'⟩ := exists_built compiled'
  have whole := compiles_of_built params (Where.predicates_append built built')
  -- the second part is written behind what the first one leaves
  rw [writeAll_append, writeAll_values, List.flatMap_append] at whole
  have first := writeAll_behind params (Where.predicates_apart built)
  have rest := writeAll_behind ⟨params.dialect, params.values ++ parts.flatMap Sql.values⟩
    (Where.predicates_apart built')
  refine ⟨FilterItem.listOf_append listed listed', _, _, _, _, _, _, ?_, ?_, ?_, ?_, whole, first,
    rest⟩
  · exact compiles_of_built _ built
  · exact compiles_of_built _ built'
  · exact compiles_of_built params built
  · exact compiles_of_built _ built'

theorem membership_and_group_compile_behind_seed :
    (Parameters.mk .postgres [.text "seed"]).Compiles
      [.single ⟨.text "status", .isIn, .list [.int 1, .int 2]⟩,
        .group ⟨[⟨.text "a", .eq, .int 7⟩, ⟨.text "b", .isNull, .null⟩], .or⟩]
      ["\"status\" IN ($2, $3)", "(\"a\" = $4 OR \"b\" IS NULL)"] [.int 1, .int 2, .int 7] := by
  have compiled : ((Parameters.mk .sqlite []).predicates .standard
      [.single ⟨.text "status", .isIn, .list [.int 1, .int 2]⟩]).1 =
        .ok ["\"status\" IN (?, ?)"] := by rfl
  have compiled' : ((Parameters.mk .mysql [.null]).predicates .standard
      [.group ⟨[⟨.text "a", .eq, .int 7⟩, ⟨.text "b", .isNull, .null⟩], .or⟩]).1 =
        .ok ["(`a` = ? OR `b` IS NULL)"] := by rfl
  obtain ⟨_, bare, bare', first, rest, added, added', alone, alone', _, _, whole, rfl, rfl⟩ :=
    predicates_compile_at_any_offset ⟨.postgres, [.text "seed"]⟩ (FilterItem.listOf_toValue _)
      (FilterItem.listOf_toValue _) compiled compiled'
  have member : (Parameters.mk .postgres []).Compiles
      [.single ⟨.text "status", .isIn, .list [.int 1, .int 2]⟩] ["\"status\" IN ($1, $2)"]
      [.int 1, .int 2] := by rfl
  have group : (Parameters.mk .postgres []).Compiles
      [.group ⟨[⟨.text "a", .eq, .int 7⟩, ⟨.text "b", .isNull, .null⟩], .or⟩]
      ["(\"a\" = $1 OR \"b\" IS NULL)"] [.int 7] := by rfl
  cases member.symm.trans alone
  cases group.symm.trans alone'
  exact whole

end Parameters

end ScopedSql
