import ScopedSql.Proofs.Statement.Parameters

/-! The text of a statement does not depend on its values.

Two piece lists are alike if they differ in bound values only; alike pieces have the same text.
Orders that agree in everything but their values are compiled to alike pieces, so no value can
reach the text.
-/

set_option autoImplicit false

namespace ScopedSql

open Sql

/-! ## Pieces -/

def Piece.unbound : Piece → Piece
  | .bound _ => .bound .null
  | piece => piece

namespace Sql

def Alike (s t : Sql) : Prop :=
  s.map Piece.unbound = t.map Piece.unbound

theorem Alike.refl (s : Sql) : Alike s s := rfl

theorem Alike.bound (x y : Value) : Alike [.bound x] [.bound y] := rfl

theorem Alike.append {s s' t t' : Sql} (left : Alike s s') (right : Alike t t') :
    Alike (s ++ t) (s' ++ t') := by
  rw [Alike, List.map_append, List.map_append, left, right]

theorem render_unbound (d : Dialect) (start : Nat) (sql : Sql) :
    render d start (sql.map Piece.unbound) = render d start sql := by
  induction sql generalizing start with
  | nil => rfl
  | cons piece rest ih => cases piece <;> simp [render, Piece.unbound, ih]

theorem Alike.render_eq {s t : Sql} (alike : Alike s t) (d : Dialect) (start : Nat) :
    s.render d start = t.render d start := by
  rw [← render_unbound, alike, render_unbound]

theorem Alike.isEmpty_eq {s t : Sql} (alike : Alike s t) : s.isEmpty = t.isEmpty := by
  have lengths := congrArg List.length alike
  simp only [List.length_map] at lengths
  cases s <;> cases t <;> simp_all

theorem Alike.joined (separator : String) {parts parts' : List Sql}
    (each : List.Forall₂ Alike parts parts') :
    Alike (Sql.joined separator parts) (Sql.joined separator parts') := by
  induction each with
  | nil => rfl
  | @cons part part' rest rest' head tail ih =>
    cases tail with
    | nil => exact head
    | cons next more =>
      rw [joined_cons_cons, joined_cons_cons]
      exact head.append ((refl [.text separator]).append ih)

theorem Alike.spaced {parts parts' : List Sql} (each : List.Forall₂ Alike parts parts') :
    Alike (Sql.spaced parts) (Sql.spaced parts') := by
  refine .joined " " ?_
  induction each with
  | nil => exact .nil
  | @cons part part' rest rest' head _ ih =>
    have same := head.isEmpty_eq
    cases empty : part.isEmpty with
    | true => simpa [empty, ← same] using ih
    | false => simpa [empty, ← same] using ⟨head, ih⟩

end Sql

/-! ## Filters -/

/-- Filters that differ in their values only. The values of a membership may be others, but are as
many. -/
structure Filter.Alike (f g : Filter) : Prop where
  field_eq : f.field = g.field
  operator_eq : f.operator = g.operator
  length_eq : f.operator = .isIn ∨ f.operator = .notIn → f.members.length = g.members.length

inductive FilterItem.Alike : FilterItem → FilterItem → Prop where
  | single {f g : Filter} (filters : f.Alike g) : Alike (.single f) (.single g)
  | group {fs gs : List Filter} (join : Combinator) (filters : List.Forall₂ Filter.Alike fs gs) :
    Alike (.group ⟨fs, join⟩) (.group ⟨gs, join⟩)

inductive Test.Alike : Test → Test → Prop where
  | compare (comparison : Comparison) (x y : Value) : Alike (.compare comparison x) (.compare comparison y)
  | isIn {xs ys : List Value} (same : xs.length = ys.length) : Alike (.isIn xs) (.isIn ys)
  | notIn {xs ys : List Value} (same : xs.length = ys.length) : Alike (.notIn xs) (.notIn ys)
  | isNull : Alike .isNull .isNull
  | isNotNull : Alike .isNotNull .isNotNull

namespace Test

theorem alike_ofOperator {f g : Filter} (alike : f.Alike g) {test test' : Test}
    (first : ofOperator f.operator f.value = .ok test)
    (second : ofOperator g.operator g.value = .ok test') : test.Alike test' := by
  obtain ⟨field, operator, value⟩ := f
  obtain ⟨field', operator', value'⟩ := g
  obtain ⟨_, same, count⟩ := alike
  cases same
  cases operator with
  | isIn =>
    obtain ⟨xs, list, rfl⟩ := Except.map_eq_ok.mp first
    obtain ⟨ys, list', rfl⟩ := Except.map_eq_ok.mp second
    have lengths := count (.inl rfl)
    simp only [Filter.members, list, list'] at lengths
    exact .isIn lengths
  | notIn =>
    obtain ⟨xs, list, rfl⟩ := Except.map_eq_ok.mp first
    obtain ⟨ys, list', rfl⟩ := Except.map_eq_ok.mp second
    have lengths := count (.inr rfl)
    simp only [Filter.members, list, list'] at lengths
    exact .notIn lengths
  | isNull =>
    cases first
    cases second
    exact .isNull
  | isNotNull =>
    cases first
    cases second
    exact .isNotNull
  | contains | startsWith | endsWith =>
    obtain ⟨text, _, same⟩ := Except.bind_eq_ok.mp first
    obtain ⟨text', _, same'⟩ := Except.bind_eq_ok.mp second
    cases same
    cases same'
    exact .compare ..
  | _ =>
    cases first
    cases second
    exact .compare ..

theorem bounds_alike {xs ys : List Value} (same : xs.length = ys.length) :
    List.Forall₂ Sql.Alike (xs.map fun x => [.bound x]) (ys.map fun y => [.bound y]) := by
  induction xs generalizing ys with
  | nil =>
    rw [List.length_eq_zero_iff.mp same.symm]
    exact .nil
  | cons x xs ih =>
    obtain ⟨y, ys, rfl⟩ := List.exists_cons_of_length_eq_add_one same.symm
    exact .cons (.bound x y) (ih (Nat.succ.inj same))

theorem valueTuple_alike {xs ys : List Value} (same : xs.length = ys.length) :
    Sql.Alike (valueTuple xs) (valueTuple ys) :=
  ((Alike.refl [.text "("]).append (.joined ", " (bounds_alike same))).append (.refl [.text ")"])

theorem sql_alike (column : Sql) {test test' : Test} (alike : test.Alike test') :
    Sql.Alike (test.sql column) (test'.sql column) := by
  have start := Sql.Alike.refl column
  cases alike with
  | compare comparison x y => exact start.append ((Sql.Alike.refl [.text _]).append (.bound x y))
  | @isIn xs ys same =>
    cases xs with
    | nil =>
      rw [List.length_eq_zero_iff.mp same.symm]
      rfl
    | cons x xs =>
      obtain ⟨y, ys, rfl⟩ := List.exists_cons_of_length_eq_add_one same.symm
      exact start.append ((Sql.Alike.refl [.text " IN "]).append (valueTuple_alike same))
  | @notIn xs ys same =>
    cases xs with
    | nil =>
      rw [List.length_eq_zero_iff.mp same.symm]
      rfl
    | cons x xs =>
      obtain ⟨y, ys, rfl⟩ := List.exists_cons_of_length_eq_add_one same.symm
      exact start.append ((Sql.Alike.refl [.text " NOT IN "]).append (valueTuple_alike same))
  | isNull => rfl
  | isNotNull => rfl

end Test

theorem Filter.sql_alike {f g : Filter} (alike : f.Alike g) {sql sql' : Sql}
    (first : f.sql .standard = .ok sql) (second : g.sql .standard = .ok sql') :
    sql.Alike sql' := by
  simp only [Filter.sql, RuleTable.standard_apply, Except.bind_eq_ok, Except.pure_eq_ok]
    at first second
  obtain ⟨name, checked, test, tests, rfl⟩ := first
  obtain ⟨name', checked', test', tests', rfl⟩ := second
  -- both runs check one column, so they have one name for it
  rw [alike.field_eq, checked'] at checked
  cases checked
  exact Test.sql_alike _ (Test.alike_ofOperator alike tests tests')

theorem FilterGroup.joinedSql_alike (join : Combinator) {parts parts' : List Sql}
    (each : List.Forall₂ Sql.Alike parts parts') :
    Option.Rel Sql.Alike (joinedSql join parts) (joinedSql join parts') := by
  cases each with
  | nil => exact .none
  | cons head tail =>
    cases tail with
    | nil => exact .some head
    | cons next more =>
      exact .some (((Alike.refl [.text "("]).append
        (.joined _ (.cons head (.cons next more)))).append (.refl [.text ")"]))

theorem FilterItem.sql?_alike {item item' : FilterItem} (alike : item.Alike item')
    {part part' : Option Sql} (first : item.sql? .standard = .ok part)
    (second : item'.sql? .standard = .ok part') : Option.Rel Sql.Alike part part' := by
  cases alike with
  | single filters =>
    simp only [sql?, Except.bind_eq_ok, Except.pure_eq_ok] at first second
    obtain ⟨sql, compiled, rfl⟩ := first
    obtain ⟨sql', compiled', rfl⟩ := second
    exact .some (Filter.sql_alike filters compiled compiled')
  | group join filters =>
    simp only [sql?, FilterGroup.sql?, Except.bind_eq_ok, Except.pure_eq_ok] at first second
    obtain ⟨parts, compiled, rfl⟩ := first
    obtain ⟨parts', compiled', rfl⟩ := second
    have each : List.Forall₂ Sql.Alike parts parts' :=
      Except.mapM_related (R := Filter.Alike)
        (fun _ _ _ _ alike first second => Filter.sql_alike alike first second) filters compiled
        compiled'
    exact FilterGroup.joinedSql_alike join each

/-! ## Clauses -/

namespace Where

variable {items items' : List FilterItem}

theorem predicates_alike (alike : List.Forall₂ FilterItem.Alike items items')
    {parts parts' : List Sql} (first : predicates .standard items = .ok parts)
    (second : predicates .standard items' = .ok parts') : List.Forall₂ Sql.Alike parts parts' := by
  simp only [predicates, Except.bind_eq_ok, Except.pure_eq_ok] at first second
  obtain ⟨each, compiled, rfl⟩ := first
  obtain ⟨each', compiled', rfl⟩ := second
  have related : List.Forall₂ (Option.Rel Sql.Alike) each each' :=
    Except.mapM_related (R := FilterItem.Alike)
      (fun _ _ _ _ alike first second => FilterItem.sql?_alike alike first second) alike compiled
      compiled'
  clear compiled compiled'
  -- alike items are both left out or both there
  induction related with
  | nil => exact .nil
  | cons head _ ih =>
    cases head with
    | none => simpa using ih
    | some head => simpa using ⟨head, ih⟩

theorem clause_alike {parts parts' : List Sql} (each : List.Forall₂ Sql.Alike parts parts') :
    Sql.Alike (clause parts) (clause parts') := by
  cases each with
  | nil => rfl
  | cons head tail =>
    exact (Sql.Alike.refl [.text "WHERE "]).append (.joined " AND " (.cons head tail))

theorem ofItems_alike (alike : List.Forall₂ FilterItem.Alike items items') {sql sql' : Sql}
    (first : ofItems .standard items = .ok sql) (second : ofItems .standard items' = .ok sql') :
    sql.Alike sql' := by
  obtain ⟨parts, compiled, rfl⟩ := ofItems_eq_ok first
  obtain ⟨parts', compiled', rfl⟩ := ofItems_eq_ok second
  exact clause_alike (predicates_alike alike compiled compiled')

end Where

/-! ## Statements -/

namespace Assembler

variable {d : Dialect} {table idColumn : Value} {items items' : List FilterItem}
  {s s' : Statement}

theorem equation_alike {column x y : Value} {name name' : Sql}
    (first : nameSql column = .ok name) (second : nameSql column = .ok name') :
    Sql.Alike (name ++ [.text " = ", .bound x]) (name' ++ [.text " = ", .bound y]) := by
  rw [first] at second
  cases second
  exact (Sql.Alike.refl name).append ((Sql.Alike.refl [.text " = "]).append (.bound x y))

theorem assignment_alike {entry entry' : Value × Value} (same : entry.1 = entry'.1)
    {sql sql' : Sql} (first : assignment entry = .ok sql) (second : assignment entry' = .ok sql') :
    sql.Alike sql' := by
  obtain ⟨name, named, rfl⟩ := assignment_eq_ok first
  obtain ⟨name', named', rfl⟩ := assignment_eq_ok second
  exact equation_alike (same ▸ named) named'

theorem idClause_alike (alike : List.Forall₂ FilterItem.Alike items items') {id id' : Value}
    {sql sql' : Sql} (first : idClause ⟨d, .standard⟩ idColumn id items = .ok sql)
    (second : idClause ⟨d, .standard⟩ idColumn id' items' = .ok sql') : sql.Alike sql' := by
  obtain ⟨picks, parts, picked, predicated, rfl⟩ := idClause_eq_ok first
  obtain ⟨picks', parts', picked', predicated', rfl⟩ := idClause_eq_ok second
  obtain ⟨name, named, rfl⟩ := idPredicate_eq_ok picked
  obtain ⟨name', named', rfl⟩ := idPredicate_eq_ok picked'
  exact Where.clause_alike
    (.cons (equation_alike named named') (Where.predicates_alike alike predicated predicated'))

theorem select_alike (alike : List.Forall₂ FilterItem.Alike items items') {options : Options}
    (first : select ⟨d, .standard⟩ table items options = .ok s)
    (second : select ⟨d, .standard⟩ table items' options = .ok s') : s.sql = s'.sql := by
  obtain ⟨scope, columns, name, order, clause, shown, named, ordered, rfl⟩ := select_eq_ok first
  obtain ⟨scope', columns', name', order', clause', shown', named', ordered', rfl⟩ :=
    select_eq_ok second
  rw [shown'] at shown
  rw [named'] at named
  rw [ordered'] at ordered
  cases shown
  cases named
  cases ordered
  have scopes := Where.ofItems_alike alike clause clause'
  refine (Sql.Alike.spaced ?_).render_eq d 0
  exact .cons (.refl _) (.cons (.refl _) (.cons (.refl _) (.cons (.refl _) (.cons scopes
    (.cons (.refl _) (.cons (.refl _) .nil))))))

theorem count_alike (alike : List.Forall₂ FilterItem.Alike items items')
    (first : count ⟨d, .standard⟩ table items = .ok s)
    (second : count ⟨d, .standard⟩ table items' = .ok s') : s.sql = s'.sql := by
  obtain ⟨scope, name, clause, named, rfl⟩ := count_eq_ok first
  obtain ⟨scope', name', clause', named', rfl⟩ := count_eq_ok second
  rw [named'] at named
  cases named
  have scopes := Where.ofItems_alike alike clause clause'
  refine (Sql.Alike.spaced ?_).render_eq d 0
  exact .cons (.refl _) (.cons (.refl _) (.cons scopes .nil))

theorem findById_alike (alike : List.Forall₂ FilterItem.Alike items items') {id id' : Value}
    (first : findById ⟨d, .standard⟩ table idColumn id items = .ok s)
    (second : findById ⟨d, .standard⟩ table idColumn id' items' = .ok s') : s.sql = s'.sql := by
  obtain ⟨scope, name, clause, named, rfl⟩ := findById_eq_ok first
  obtain ⟨scope', name', clause', named', rfl⟩ := findById_eq_ok second
  rw [named'] at named
  cases named
  have scopes := idClause_alike alike clause clause'
  refine (Sql.Alike.spaced ?_).render_eq d 0
  exact .cons (.refl _) (.cons (.refl _) (.cons scopes (.cons (.refl _) .nil)))

theorem delete_alike (alike : List.Forall₂ FilterItem.Alike items items') {id id' : Value}
    (first : delete ⟨d, .standard⟩ table idColumn id items = .ok s)
    (second : delete ⟨d, .standard⟩ table idColumn id' items' = .ok s') : s.sql = s'.sql := by
  obtain ⟨scope, name, clause, named, rfl⟩ := delete_eq_ok first
  obtain ⟨scope', name', clause', named', rfl⟩ := delete_eq_ok second
  rw [named'] at named
  cases named
  have scopes := idClause_alike alike clause clause'
  refine (Sql.Alike.spaced ?_).render_eq d 0
  exact .cons (.refl _) (.cons (.refl _) (.cons scopes .nil))

theorem insert_alike {data data' : Dict}
    (keys : List.Forall₂ (fun entry entry' : Value × Value => entry.1 = entry'.1) data data')
    {asked : Value} (first : insert ⟨d, .standard⟩ table data asked = .ok s)
    (second : insert ⟨d, .standard⟩ table data' asked = .ok s') : s.sql = s'.sql := by
  obtain ⟨_, columns, name, named, tableNamed, rfl⟩ := insert_eq_ok first
  obtain ⟨_, columns', name', named', tableNamed', rfl⟩ := insert_eq_ok second
  rw [tableNamed'] at tableNamed
  cases tableNamed
  have names : List.Forall₂ Sql.Alike columns columns' := by
    refine Except.mapM_related (R := fun entry entry' => entry.1 = entry'.1) ?_ keys named named'
    intro entry entry' sql sql' same first second
    rw [same, second] at first
    cases first
    exact .refl sql
  -- as many columns, so as many placeholders between the brackets
  have listed :=
    ((Sql.Alike.refl [.text "("]).append (.joined ", " names)).append (.refl [.text ")"])
  have values := Test.valueTuple_alike
    (show (data.map (·.2)).length = (data'.map (·.2)).length by simpa using keys.length_eq)
  refine (Sql.Alike.spaced ?_).render_eq d 0
  exact .cons (.refl _) (.cons (.refl _) (.cons listed (.cons (.refl _) (.cons values
    (.cons (.refl _) .nil)))))

theorem update_alike {data data' : Dict}
    (keys : List.Forall₂ (fun entry entry' : Value × Value => entry.1 = entry'.1) data data')
    (alike : List.Forall₂ FilterItem.Alike items items') {id id' : Value}
    (first : update ⟨d, .standard⟩ table idColumn id data items = .ok s)
    (second : update ⟨d, .standard⟩ table idColumn id' data' items' = .ok s') :
    s.sql = s'.sql := by
  obtain ⟨_, sets, scope, name, assigned, clause, named, rfl⟩ := update_eq_ok first
  obtain ⟨_, sets', scope', name', assigned', clause', named', rfl⟩ := update_eq_ok second
  rw [named'] at named
  cases named
  have changes : List.Forall₂ Sql.Alike sets sets' :=
    Except.mapM_related (R := fun entry entry' => entry.1 = entry'.1)
      (fun _ _ _ _ same first second => assignment_alike same first second) keys assigned assigned'
  have scopes := idClause_alike alike clause clause'
  refine (Sql.Alike.spaced ?_).render_eq d 0
  exact .cons (.refl _) (.cons (.refl _) (.cons (.refl _) (.cons (.joined ", " changes)
    (.cons scopes .nil))))

end Assembler

/-! ## Orders -/

namespace StatementOrder

def SameFilters (filters filters' : Value) : Prop :=
  List.Forall₂ FilterItem.Alike (itemsOf filters) (itemsOf filters')

def SameColumns (data data' : Value) : Prop :=
  (entriesOf data).map (·.1) = (entriesOf data').map (·.1)

/-- Orders of one kind that differ in filter values, ids and data values only. -/
inductive Alike : StatementOrder → StatementOrder → Prop where
  | select {table filters filters' : Value} {options : Options}
      (same : SameFilters filters filters') :
    Alike (.select table filters options) (.select table filters' options)
  | count {table filters filters' : Value} (same : SameFilters filters filters') :
    Alike (.count table filters) (.count table filters')
  | findById {table idColumn id id' filters filters' : Value}
      (same : SameFilters filters filters') :
    Alike (.findById table idColumn id filters) (.findById table idColumn id' filters')
  | insert {table data data' returning : Value} (columns : SameColumns data data') :
    Alike (.insert table data returning) (.insert table data' returning)
  | update {table idColumn id id' data data' filters filters' : Value}
      (columns : SameColumns data data') (same : SameFilters filters filters') :
    Alike (.update table idColumn id data filters) (.update table idColumn id' data' filters')
  | delete {table idColumn id id' filters filters' : Value}
      (same : SameFilters filters filters') :
    Alike (.delete table idColumn id filters) (.delete table idColumn id' filters')

theorem SameFilters.items {filters filters' : Value} (same : SameFilters filters filters')
    {items items' : List FilterItem} (first : FilterItem.listOf filters = .ok items)
    (second : FilterItem.listOf filters' = .ok items') :
    List.Forall₂ FilterItem.Alike items items' := by
  rwa [SameFilters, Assembler.itemsOf_eq first, Assembler.itemsOf_eq second] at same

theorem SameColumns.entries {data data' : Dict} (same : SameColumns (.dict data) (.dict data')) :
    List.Forall₂ (fun entry entry' : Value × Value => entry.1 = entry'.1) data data' := by
  have columns : List.Forall₂ Eq (data.map (·.1)) (data'.map (·.1)) := by
    rw [List.forall₂_eq_eq_eq]
    exact same
  rwa [List.forall₂_map_left_iff, List.forall₂_map_right_iff] at columns

end StatementOrder

/-- Alike orders have the same text, and each binds its own values: no value that a caller hands in
has any part in the text. -/
theorem alike_orders_have_one_text (d : Dialect) {order order' : StatementOrder}
    (alike : order.Alike order') {s s' : Statement}
    (first : Assembler.compile ⟨d, .standard⟩ order = .ok s)
    (second : Assembler.compile ⟨d, .standard⟩ order' = .ok s') :
    s.sql = s'.sql ∧ s.params = order.bound ∧ s'.params = order'.bound := by
  have bound : ∀ {order : StatementOrder} {s : Statement},
      Assembler.compile ⟨d, .standard⟩ order = .ok s → s.params = order.bound := by
    intro order s compiled
    rw [(Assembler.compile_writes compiled).params_eq, StatementOrder.operands_command]
  refine ⟨?_, bound first, bound second⟩
  cases alike with
  | select same =>
    simp only [Assembler.compile, Except.bind_eq_ok] at first second
    obtain ⟨items, listed, compiled⟩ := first
    obtain ⟨items', listed', compiled'⟩ := second
    exact Assembler.select_alike (same.items listed listed') compiled compiled'
  | count same =>
    simp only [Assembler.compile, Except.bind_eq_ok] at first second
    obtain ⟨items, listed, compiled⟩ := first
    obtain ⟨items', listed', compiled'⟩ := second
    exact Assembler.count_alike (same.items listed listed') compiled compiled'
  | findById same =>
    simp only [Assembler.compile, Assembler.filtersAfterId, Except.bind_eq_ok] at first second
    obtain ⟨items, ⟨_, _, listed⟩, compiled⟩ := first
    obtain ⟨items', ⟨_, _, listed'⟩, compiled'⟩ := second
    exact Assembler.findById_alike (same.items listed listed') compiled compiled'
  | insert columns =>
    simp only [Assembler.compile, Except.bind_eq_ok] at first second
    obtain ⟨entries, taken, compiled⟩ := first
    obtain ⟨entries', taken', compiled'⟩ := second
    rw [Payload.forInsert_eq_ok taken, Payload.forInsert_eq_ok taken'] at columns
    exact Assembler.insert_alike columns.entries compiled compiled'
  | update columns same =>
    simp only [Assembler.compile, Assembler.filtersAfterId, Except.bind_eq_ok] at first second
    obtain ⟨entries, taken, _, _, items, ⟨_, _, listed⟩, compiled⟩ := first
    obtain ⟨entries', taken', _, _, items', ⟨_, _, listed'⟩, compiled'⟩ := second
    rw [Payload.forUpdate_eq_ok taken, Payload.forUpdate_eq_ok taken'] at columns
    exact Assembler.update_alike columns.entries (same.items listed listed') compiled compiled'
  | delete same =>
    simp only [Assembler.compile, Assembler.filtersAfterId, Except.bind_eq_ok] at first second
    obtain ⟨items, ⟨_, _, listed⟩, compiled⟩ := first
    obtain ⟨items', ⟨_, _, listed'⟩, compiled'⟩ := second
    exact Assembler.delete_alike (same.items listed listed') compiled compiled'

theorem quotes_in_a_value_change_no_text :
    (⟨"SELECT COUNT(*) as count FROM `t` WHERE `a` LIKE ?", [.text "%x%"], .count, .text "t",
        .null, .bool false⟩ : Statement).sql =
      (⟨"SELECT COUNT(*) as count FROM `t` WHERE `a` LIKE ?", [.text "%' OR 1=1 -- ?%"], .count,
        .text "t", .null, .bool false⟩ : Statement).sql ∧
      [Value.text "%x%"] = (StatementOrder.count (.text "t")
        (.list [Filter.toValue ⟨.text "a", .contains, .text "x"⟩])).bound ∧
      [Value.text "%' OR 1=1 -- ?%"] = (StatementOrder.count (.text "t")
        (.list [Filter.toValue ⟨.text "a", .contains, .text "' OR 1=1 -- ?"⟩])).bound := by
  have alike : StatementOrder.SameFilters
      (.list [Filter.toValue ⟨.text "a", .contains, .text "x"⟩])
      (.list [Filter.toValue ⟨.text "a", .contains, .text "' OR 1=1 -- ?"⟩]) :=
    .cons (.single ⟨rfl, rfl, by rintro (member | member) <;> cases member⟩) .nil
  exact alike_orders_have_one_text .mysql (.count alike) (by cbv) (by cbv)

end ScopedSql
