import ScopedSql.Proofs.Predicate.Clause
import ScopedSql.Proofs.Statement.Reading

/-! Placeholders and parameters agree.

Each statement binds the values of its order in one sequence, the data before the id and the id
before the filters, and its text has just the placeholders of that sequence.
-/

set_option autoImplicit false

namespace ScopedSql

open Sql Lexeme

/-! ## Values -/

namespace Atom

variable {α : Type}

def values : Atom α → List α
  | compare _ _ x => [x]
  | isIn _ x xs | notIn _ x xs => x :: xs
  | isNull _ | isNotNull _ | never | always => []

end Atom

def FilterItem.bound (item : FilterItem) : List Value :=
  item.filters.flatMap fun f => f.atom.values

namespace StatementOrder

def itemsOf (filters : Value) : List FilterItem :=
  (FilterItem.listOf filters).toOption.getD []

def entriesOf : Value → Dict
  | .dict entries => entries
  | _ => []

/-- The values that an order binds: those of the row, the id, those of the filters. -/
def bound : StatementOrder → List Value
  | select _ filters _ | count _ filters => (itemsOf filters).flatMap FilterItem.bound
  | findById _ _ id filters | delete _ _ id filters =>
    id :: (itemsOf filters).flatMap FilterItem.bound
  | insert _ data _ => (entriesOf data).map (·.2)
  | update _ _ id data filters =>
    (entriesOf data).map (·.2) ++ id :: (itemsOf filters).flatMap FilterItem.bound

def command (d : Dialect) : StatementOrder → Command Value
  | select table filters options => .ofSelect d table (itemsOf filters) options
  | count table filters => .ofCount table (itemsOf filters)
  | findById table idColumn id filters => .ofFind table idColumn id (itemsOf filters)
  | insert table data returning => .ofInsert d table (entriesOf data) returning
  | update table idColumn id data filters =>
    .ofUpdate table idColumn id (entriesOf data) (itemsOf filters)
  | delete table idColumn id filters => .ofDelete table idColumn id (itemsOf filters)

end StatementOrder

/-! ## Operands of what is written -/

namespace Lexeme

variable {α : Type}

theorem operands_intercalate {separator : List (Lexeme α)} (plain : operands separator = [])
    (lists : List (List (Lexeme α))) :
    operands (separator.intercalate lists) = lists.flatMap operands := by
  induction lists with
  | nil => rfl
  | cons first rest ih =>
    cases rest with
    | nil => simp
    | cons second rest => simp [List.intercalate_cons_cons, plain, ih]

@[simp] theorem operands_operandList (xs : List α) : operands (operandList xs) = xs := by
  rw [operandList, operands_intercalate rfl]
  simp [List.flatMap_map, operands]

@[simp] theorem operands_nameList (names : List (List String)) :
    operands (nameList (α := α) names) = [] := by
  rw [nameList, operands_intercalate rfl]
  simp [List.flatMap_map, operands]

@[simp] theorem operands_projection (shown : Projection) :
    operands (shown.lexemes (α := α)) = [] := by
  cases shown <;> simp [Projection.lexemes, operands]

@[simp] theorem operands_ofOrdering (order : List (List String × SortDirection)) :
    operands (ofOrdering (α := α) order) = [] := by
  cases order with
  | nil => rfl
  | cons first rest =>
    rw [ofOrdering, operands_append, operands_intercalate rfl]
    · simp [List.flatMap_map, ofOrderTerm, operands]
    · simp

@[simp] theorem operands_ofNumeralAfter (keyword : String) (n : Option Int) :
    operands (ofNumeralAfter (α := α) keyword n) = [] := by
  match n with
  | none => rfl
  | some (.ofNat n) => rfl
  | some (.negSucc n) => rfl

@[simp] theorem operands_ofReturned (returned : Bool) :
    operands (ofReturned (α := α) returned) = [] := by
  cases returned <;> rfl

@[simp] theorem operands_assignments (changes : List (List String × α)) :
    operands ([.comma].intercalate (changes.map ofAssignment)) = changes.map (·.2) := by
  rw [operands_intercalate rfl, List.flatMap_map, List.map_eq_flatMap]
  rfl

end Lexeme

@[simp] theorem Atom.operands_lexemes {α : Type} (a : Atom α) :
    operands a.lexemes = a.values := by
  cases a with
  | compare column comparison x => cases comparison <;> rfl
  | isIn | notIn => simp [lexemes, operands, values]
  | isNull | isNotNull | never | always => rfl

namespace Formula

variable {α : Type} (f : Formula α .factor) (fs : List (Formula α .factor))

theorem operands_ofFactors :
    operands (ofFactors f fs).lexemes = (f :: fs).flatMap fun f => operands f.lexemes := by
  rw [lexemes_ofFactors, operands_intercalate rfl, List.flatMap_map]

theorem operands_anyOf :
    operands (anyOf f fs).lexemes = (f :: fs).flatMap fun f => operands f.lexemes := by
  rw [lexemes_anyOf, operands_intercalate rfl, List.flatMap_map]

end Formula

namespace FilterItem

theorem operands_factor {item : FilterItem} {factor : Formula Value .factor}
    (stands : item.factor? = some factor) : operands factor.lexemes = item.bound := by
  match item with
  | single f =>
    cases stands
    simp [Formula.lexemes, bound, filters]
  | group ⟨[f], _⟩ =>
    cases stands
    simp [Formula.lexemes, bound, filters]
  | group ⟨f :: g :: rest, .and⟩ =>
    cases stands
    simp [Formula.lexemes, Formula.operands_ofFactors, operands, bound, filters,
      List.flatMap_map]
  | group ⟨f :: g :: rest, .or⟩ =>
    cases stands
    simp [Formula.lexemes, Formula.operands_anyOf, operands, bound, filters,
      List.flatMap_map]

theorem operands_factors (items : List FilterItem) :
    (items.filterMap factor?).flatMap (fun factor => operands factor.lexemes) =
      items.flatMap bound := by
  induction items with
  | nil => rfl
  | cons item items ih =>
    cases stands : item.factor? with
    | none =>
      have empty : item.bound = [] := by simp [bound, factor?_eq_none.mp stands]
      simp [stands, ih, empty]
    | some factor => simp [stands, ih, operands_factor stands]

end FilterItem

namespace Scope

theorem operands_ofFactors (factors : List (Formula Value .factor)) :
    operands (Scope.ofFactors factors).lexemes =
      factors.flatMap fun factor => operands factor.lexemes := by
  cases factors with
  | nil => rfl
  | cons f fs => simp [ofFactors, lexemes, Formula.lexemes, operands, Formula.operands_ofFactors]

theorem operands_ofItems (items : List FilterItem) :
    operands (Scope.ofItems items).lexemes = items.flatMap FilterItem.bound := by
  rw [ofItems, operands_ofFactors, FilterItem.operands_factors]

theorem operands_ofId (idColumn id : Value) (items : List FilterItem) :
    operands (Scope.ofId idColumn id items).lexemes = id :: items.flatMap FilterItem.bound := by
  rw [ofId, operands_ofFactors, List.flatMap_cons, FilterItem.operands_factors]
  simp [Formula.lexemes, Atom.values]

end Scope

namespace StatementOrder

theorem operands_command (d : Dialect) (order : StatementOrder) :
    operands (order.command d).lexemes = order.bound := by
  cases order with
  | select table filters options =>
    simp [command, Command.ofSelect, Command.lexemes, operands, Scope.operands_ofItems, bound]
  | count table filters =>
    simp [command, Command.ofCount, Command.lexemes, operands, Scope.operands_ofItems, bound]
  | findById table idColumn id filters =>
    simp [command, Command.ofFind, Command.lexemes, operands, Scope.operands_ofId, bound]
  | insert table data returning =>
    simp [command, Command.ofInsert, Command.lexemes, operands, Command.rowOf, bound]
  | update table idColumn id data filters =>
    have row : operands ([.comma].intercalate ((Command.rowOf (entriesOf data)).map ofAssignment)) =
        (entriesOf data).map (·.2) := by
      rw [operands_assignments, Command.rowOf, List.map_map]
      rfl
    simp only [command, Command.ofUpdate, Command.lexemes, operands_append, row,
      Scope.operands_ofId, bound]
    rfl
  | delete table idColumn id filters =>
    simp [command, Command.ofDelete, Command.lexemes, operands, Scope.operands_ofId, bound]

end StatementOrder

/-! ## Orders -/

theorem Value.lacking_ne_ok {α : Type} (x : Value) (operation : String) (a : α) :
    x.lacking operation ≠ .ok a := by
  simp [Value.lacking, Value.misused]

namespace Payload

theorem forUpdate_eq_ok {data : Value} {entries : Dict} (taken : forUpdate data = .ok entries) :
    data = .dict entries := by
  unfold forUpdate at taken
  split at taken
  · cases taken
  · split at taken
    · cases taken
      rfl
    · exact (Value.lacking_ne_ok _ _ _ taken).elim

theorem forInsert_eq_ok {data : Value} {entries : Dict} (taken : forInsert data = .ok entries) :
    data = .dict entries := by
  unfold forInsert at taken
  cases given : data.isGiven with
  | false =>
    rw [given] at taken
    cases taken
  | true =>
    simp only [given, Bool.not_true, Bool.false_eq_true, if_false] at taken
    split at taken
    · cases taken
      rfl
    · simp only [Except.bind_eq_ok] at taken
      obtain ⟨_, _, _, _, taken⟩ := taken
      exact (Value.lacking_ne_ok _ _ _ taken).elim

end Payload

namespace Assembler

variable {d : Dialect}

theorem itemsOf_eq {filters : Value} {items : List FilterItem}
    (listed : FilterItem.listOf filters = .ok items) : StatementOrder.itemsOf filters = items := by
  rw [StatementOrder.itemsOf, listed]
  rfl

theorem compile_writes {order : StatementOrder} {s : Statement}
    (compiled : compile ⟨d, .standard⟩ order = .ok s) : s.Writes d (order.command d) := by
  cases order with
  | select table filters options =>
    simp only [compile, Except.bind_eq_ok] at compiled
    obtain ⟨items, listed, compiled⟩ := compiled
    rw [StatementOrder.command, itemsOf_eq listed]
    exact select_writes compiled
  | count table filters =>
    simp only [compile, Except.bind_eq_ok] at compiled
    obtain ⟨items, listed, compiled⟩ := compiled
    rw [StatementOrder.command, itemsOf_eq listed]
    exact count_writes compiled
  | findById table idColumn id filters =>
    simp only [compile, filtersAfterId, Except.bind_eq_ok] at compiled
    obtain ⟨items, ⟨_, _, listed⟩, compiled⟩ := compiled
    rw [StatementOrder.command, itemsOf_eq listed]
    exact findById_writes compiled
  | insert table data returning =>
    simp only [compile, Except.bind_eq_ok] at compiled
    obtain ⟨entries, taken, compiled⟩ := compiled
    -- of all values only a dictionary is taken for a row
    rw [Payload.forInsert_eq_ok taken]
    exact insert_writes compiled
  | update table idColumn id data filters =>
    simp only [compile, filtersAfterId, Except.bind_eq_ok] at compiled
    obtain ⟨entries, taken, _, _, items, ⟨_, _, listed⟩, compiled⟩ := compiled
    rw [Payload.forUpdate_eq_ok taken, StatementOrder.command, itemsOf_eq listed]
    exact update_writes compiled
  | delete table idColumn id filters =>
    simp only [compile, filtersAfterId, Except.bind_eq_ok] at compiled
    obtain ⟨items, ⟨_, _, listed⟩, compiled⟩ := compiled
    rw [StatementOrder.command, itemsOf_eq listed]
    exact delete_writes compiled

end Assembler

/-! ## Agreement -/

/-- A text has the placeholders of these parameters, in their order and no others. -/
structure Agrees (d : Dialect) (text : String) (params : List Value) : Prop where
  marks : (Lexeme.scan d text).map operands = some (d.marks params.length)
  signs : text.toList.countP isPlaceholderSign = params.length

theorem Sql.Scans.agrees {d : Dialect} {sql : Sql} {lexemes : List (Lexeme Value)}
    (scans : Scans d .clear .loose sql lexemes) : Agrees d (sql.render d 0) sql.values :=
  ⟨scans.marks, scans.apart.countP_render d 0⟩

theorem Statement.Writes.agrees {d : Dialect} {s : Statement} {command : Command Value}
    (writes : s.Writes d command) : Agrees d s.sql s.params := by
  obtain ⟨_, sql, text, params, scans⟩ := writes
  rw [text, params]
  exact scans.agrees

/-- Every compiled text has one placeholder for each of its parameters, in order, and read with the
parameters in their places it is what was asked for. -/
theorem placeholders_agree_with_parameters (d : Dialect) :
    (∀ (order : StatementOrder) (s : Statement),
      Assembler.compile ⟨d, .standard⟩ order = .ok s →
        Agrees d s.sql s.params ∧ Command.ofText d s.sql s.params = some (order.command d) ∧
          s.params = order.bound) ∧
    (∀ (items : List FilterItem) (text : String) (after : Parameters),
      Parameters.whereClause ⟨d, []⟩ .standard items = (.ok text, after) →
        Agrees d text after.values ∧ Scope.ofText d text after.values = some (.ofItems items) ∧
          after.values = items.flatMap FilterItem.bound) := by
  constructor
  · intro order s compiled
    have writes := Assembler.compile_writes compiled
    refine ⟨writes.agrees, writes.ofText, ?_⟩
    rw [writes.params_eq, StatementOrder.operands_command]
  · intro items text after compiled
    have read := Parameters.whereClause_ofText compiled
    -- a clause that starts a text counts its placeholders from the first parameter
    obtain ⟨sql, built, rfl, values⟩ := Parameters.whereClause_eq_ok compiled
    have scans := (Where.ofItems_shows d built).scans
    rw [values] at read ⊢
    refine ⟨scans.agrees, read, ?_⟩
    rw [← scans.operands_eq, Scope.operands_ofItems]

theorem update_and_membership_agree :
    Agrees .postgres "UPDATE \"t\" SET \"a\" = $1 WHERE \"id\" = $2 AND \"b\" IN ($3, $4)"
        [.text "x", .int 7, .int 3, .int 5] ∧
      Agrees .mysql "WHERE `b` IN (?, ?)" [.int 3, .int 5] := by
  have update := (placeholders_agree_with_parameters .postgres).1
    (.update (.text "t") (.text "id") (.int 7) (.dict [(.text "a", .text "x")])
      (.list [Filter.toValue ⟨.text "b", .isIn, .list [.int 3, .int 5]⟩]))
    ⟨"UPDATE \"t\" SET \"a\" = $1 WHERE \"id\" = $2 AND \"b\" IN ($3, $4)",
      [.text "x", .int 7, .int 3, .int 5], .update, .text "t", .text "id", .bool false⟩ (by cbv)
  have clause := (placeholders_agree_with_parameters .mysql).2
    [.single ⟨.text "b", .isIn, .list [.int 3, .int 5]⟩] "WHERE `b` IN (?, ?)"
    ⟨.mysql, [.int 3, .int 5]⟩ (by cbv)
  exact ⟨update.1, clause.1⟩

end ScopedSql
