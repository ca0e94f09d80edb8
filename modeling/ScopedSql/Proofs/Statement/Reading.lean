import ScopedSql.Proofs.Statement.Parts
import ScopedSql.Statement.Order

/-! Statements read as the commands that were asked for.

A command is made from the parts of an order without a word of SQL. The text that is compiled for
the order, read with its parameters in the place of their placeholders, is that command: so every
parameter stands where its value belongs.
-/

set_option autoImplicit false

namespace ScopedSql

open Sql Lexeme

/-! ## Commands -/

namespace Scope

def ofId (idColumn id : Value) (items : List FilterItem) : Scope Value :=
  ofFactors (.atom (.compare idColumn.segments .eq id) :: items.filterMap FilterItem.factor?)

end Scope

namespace Command

def ofSelect (d : Dialect) (table : Value) (items : List FilterItem) (options : Options) :
    Command Value :=
  .select options.projection table.segments (.ofItems items) options.order
    (options.shownLimit d) (options.offset.map Int.ofNat)

def ofCount (table : Value) (items : List FilterItem) : Command Value :=
  .select .number table.segments (.ofItems items) [] none none

def ofFind (table idColumn id : Value) (items : List FilterItem) : Command Value :=
  .select .everything table.segments (.ofId idColumn id items) [] (some 1) none

def rowOf (data : Dict) : List (List String × Value) :=
  data.map fun entry => (entry.1.segments, entry.2)

-- A new row; whether it is returned is up to the dialect, then to what is asked for.
def ofInsert (d : Dialect) (table : Value) (data : Dict) (asked : Value) : Command Value :=
  .insert table.segments (rowOf data) (Assembler.returningOf d asked).isGiven

def ofUpdate (table idColumn id : Value) (data : Dict) (items : List FilterItem) :
    Command Value :=
  .update table.segments (rowOf data) (.ofId idColumn id items)

def ofDelete (table idColumn id : Value) (items : List FilterItem) : Command Value :=
  .delete table.segments (.ofId idColumn id items)

end Command

/-- The statement is the text of a piece list that reads as the command. -/
def Statement.Writes (d : Dialect) (s : Statement) (command : Command Value) : Prop :=
  command.HasColumns ∧ ∃ sql : Sql, s.sql = sql.render d 0 ∧ s.params = sql.values ∧
    Scans d .clear .loose sql command.lexemes

/-! ## Builders -/

namespace Assembler

variable {d : Dialect} {table idColumn id : Value} {items : List FilterItem} {s : Statement}

theorem idClause_shows {scope : Sql}
    (compiled : idClause ⟨d, .standard⟩ idColumn id items = .ok scope) :
    Shows d scope (Scope.ofId idColumn id items).lexemes := by
  obtain ⟨first, parts, picked, predicated, rfl⟩ := idClause_eq_ok compiled
  exact Where.clause_scans
    (.cons (idPredicate_scans d picked) (Where.predicates_scans d predicated))

theorem projection_ne_nil (shown : Projection) : shown.lexemes (α := Value) ≠ [] := by
  cases shown with
  | everything => simp [Projection.lexemes]
  | number => simp [Projection.lexemes]
  | columns first rest => simp [Projection.lexemes, nameList]

theorem nameSql_shows {x : Value} {sql : Sql} (compiled : nameSql x = .ok sql) :
    Shows d sql [.name x.segments] :=
  (nameSql_scans d compiled).shows (by simp)

theorem select_scans (d : Dialect) {options : Options} {scope columns name order : Sql}
    (clause : Where.ofItems .standard items = .ok scope)
    (shown : projection options.fields = .ok columns) (named : nameSql table = .ok name)
    (ordered : ordering options.orderBy = .ok order) :
    Scans d .clear .loose
      (spaced [[.text "SELECT"], columns, [.text "FROM"], name, scope, order, pageSql d options])
      (Command.ofSelect d table items options).lexemes := by
  have verb : Scans d .clear .loose [.text "SELECT"] [.word "SELECT"] :=
    .text rfl rfl fun _ => by cases d <;> rfl
  have source : Scans d .clear .loose [.text "FROM"] [.word "FROM"] :=
    .text rfl rfl fun _ => by cases d <;> rfl
  have projected := (projection_scans d shown).shows (projection_ne_nil _)
  have scans := verb.spaced (by simp)
    (.cons projected (.cons (source.shows (by simp)) (.cons (nameSql_shows named)
      (.cons (Where.ofItems_shows d clause) (.cons (ordering_shows d ordered)
        (.cons (paging_shows d options) .nil))))))
  simpa [Command.ofSelect, Command.lexemes] using scans

theorem select_writes {options : Options}
    (compiled : select ⟨d, .standard⟩ table items options = .ok s) :
    s.Writes d (.ofSelect d table items options) := by
  obtain ⟨scope, columns, name, order, clause, shown, named, ordered, rfl⟩ := select_eq_ok compiled
  exact ⟨trivial, _, rfl, rfl, select_scans d clause shown named ordered⟩

theorem count_scans (d : Dialect) {scope name : Sql}
    (clause : Where.ofItems .standard items = .ok scope) (named : nameSql table = .ok name) :
    Scans d .clear .loose (spaced [[.text "SELECT COUNT(*) as count FROM"], name, scope])
      (Command.ofCount table items).lexemes := by
  have verb : Scans d .clear .loose [.text "SELECT COUNT(*) as count FROM"]
      [.word "SELECT", .word "COUNT", .opening, .symbol "*", .closing, .word "as", .word "count",
        .word "FROM"] :=
    .text rfl rfl fun _ => by cases d <;> rfl
  have scans := verb.spaced (by simp)
    (.cons (nameSql_shows named) (.cons (Where.ofItems_shows d clause) .nil))
  simpa [Command.ofCount, Command.lexemes, Projection.lexemes, ofOrdering, ofNumeralAfter]
    using scans

theorem count_writes (compiled : count ⟨d, .standard⟩ table items = .ok s) :
    s.Writes d (.ofCount table items) := by
  obtain ⟨scope, name, clause, named, rfl⟩ := count_eq_ok compiled
  exact ⟨trivial, _, rfl, rfl, count_scans d clause named⟩

theorem findById_scans {scope name : Sql}
    (clause : idClause ⟨d, .standard⟩ idColumn id items = .ok scope)
    (named : nameSql table = .ok name) :
    Scans d .clear .loose (spaced [[.text "SELECT * FROM"], name, scope, [.text "LIMIT 1"]])
      (Command.ofFind table idColumn id items).lexemes := by
  have verb : Scans d .clear .loose [.text "SELECT * FROM"]
      [.word "SELECT", .symbol "*", .word "FROM"] :=
    .text rfl rfl fun _ => by cases d <;> rfl
  have one : Scans d .clear .loose [.text "LIMIT 1"] [.word "LIMIT", .word "1"] :=
    .text rfl rfl fun _ => by cases d <;> rfl
  have scans := verb.spaced (by simp)
    (.cons (nameSql_shows named) (.cons (idClause_shows clause)
      (.cons (one.shows (by simp)) .nil)))
  have numeral : ofNumeral (α := Value) 1 = [.word "1"] := rfl
  simpa [Command.ofFind, Command.lexemes, Projection.lexemes, ofOrdering, ofNumeralAfter, numeral]
    using scans

theorem findById_writes (compiled : findById ⟨d, .standard⟩ table idColumn id items = .ok s) :
    s.Writes d (.ofFind table idColumn id items) := by
  obtain ⟨scope, name, clause, named, rfl⟩ := findById_eq_ok compiled
  exact ⟨trivial, _, rfl, rfl, findById_scans clause named⟩

theorem delete_scans {scope name : Sql}
    (clause : idClause ⟨d, .standard⟩ idColumn id items = .ok scope)
    (named : nameSql table = .ok name) :
    Scans d .clear .loose (spaced [[.text "DELETE FROM"], name, scope])
      (Command.ofDelete table idColumn id items).lexemes := by
  have verb : Scans d .clear .loose [.text "DELETE FROM"] [.word "DELETE", .word "FROM"] :=
    .text rfl rfl fun _ => by cases d <;> rfl
  have scans := verb.spaced (by simp)
    (.cons (nameSql_shows named) (.cons (idClause_shows clause) .nil))
  simpa [Command.ofDelete, Command.lexemes] using scans

theorem delete_writes (compiled : delete ⟨d, .standard⟩ table idColumn id items = .ok s) :
    s.Writes d (.ofDelete table idColumn id items) := by
  obtain ⟨scope, name, clause, named, rfl⟩ := delete_eq_ok compiled
  exact ⟨trivial, _, rfl, rfl, delete_scans clause named⟩

theorem insert_scans (d : Dialect) (asked : Value) {data : Dict} {columns : List Sql} {name : Sql}
    (nonempty : data ≠ []) (columnsNamed : data.mapM (fun entry => nameSql entry.1) = .ok columns)
    (named : nameSql table = .ok name) :
    Scans d .clear .loose
      (spaced
        [[.text "INSERT INTO"], name, .text "(" :: joined ", " columns ++ [.text ")"],
          [.text "VALUES"], Test.valueTuple (data.map (·.2)),
          if (returningOf d asked).isGiven then [.text "RETURNING *"] else []])
      (Command.ofInsert d table data asked).lexemes := by
  obtain ⟨entry, rest, rfl⟩ := List.exists_cons_of_ne_nil nonempty
  have verb : Scans d .clear .loose [.text "INSERT INTO"] [.word "INSERT", .word "INTO"] :=
    .text rfl rfl fun _ => by cases d <;> rfl
  have given : Scans d .clear .loose [.text "VALUES"] [.word "VALUES"] :=
    .text rfl rfl fun _ => by cases d <;> rfl
  have names := Scans.joinedEach (.comma d)
    (fun entry : Value × Value => [.name entry.1.segments])
    (fun entry part named => nameSql_scans d named) columnsNamed (by simp)
  have listed := (((Scans.opening d).append names).append (.closing d)).toLoose
  have values := (Test.valueTuple_scans d entry.2 (rest.map (·.2))).toLoose
  have returned : Shows d
      (if (returningOf d asked).isGiven then [.text "RETURNING *"] else [])
      (ofReturned (returningOf d asked).isGiven) := by
    cases (returningOf d asked).isGiven with
    | false => exact .inl ⟨rfl, rfl⟩
    | true =>
      have row : Scans d .clear .loose [.text "RETURNING *"] [.word "RETURNING", .symbol "*"] :=
        .text rfl rfl fun _ => by cases d <;> rfl
      exact row.shows (by simp)
  have scans := verb.spaced (by simp)
    (.cons (nameSql_shows named) (.cons (listed.shows (by simp))
      (.cons (given.shows (by simp)) (.cons (values.shows (by simp)) (.cons returned .nil)))))
  simpa [Command.ofInsert, Command.lexemes, Command.rowOf, nameList, Function.comp_def]
    using scans

theorem insert_writes {data : Dict} {asked : Value}
    (compiled : insert ⟨d, .standard⟩ table data asked = .ok s) :
    s.Writes d (.ofInsert d table data asked) := by
  obtain ⟨nonempty, columns, name, columnsNamed, named, rfl⟩ := insert_eq_ok compiled
  exact ⟨by simpa [Command.ofInsert, Command.HasColumns, Command.rowOf] using nonempty, _, rfl, rfl,
    insert_scans d asked nonempty columnsNamed named⟩

theorem idClause_ne_nil {a : Assembler} {idColumn id : Value} {items : List FilterItem}
    {clause : Sql} (compiled : a.idClause idColumn id items = .ok clause) : clause ≠ [] := by
  obtain ⟨first, parts, _, _, rfl⟩ := idClause_eq_ok compiled
  exact List.cons_ne_nil _ _

-- The changes alone are an update of all rows.
theorem changes_scan {data : Dict} {name : Sql} (named : nameSql table = .ok name) {sets : List Sql}
    (assigned : data.mapM assignment = .ok sets) (nonempty : data ≠ []) (d : Dialect) :
    Scans d .clear .loose (spaced [[.text "UPDATE"], name, [.text "SET"], joined ", " sets])
      (Command.update table.segments (Command.rowOf data) none).lexemes := by
  have verb : Scans d .clear .loose [.text "UPDATE"] [.word "UPDATE"] :=
    .text rfl rfl fun _ => by cases d <;> rfl
  have set : Scans d .clear .loose [.text "SET"] [.word "SET"] :=
    .text rfl rfl fun _ => by cases d <;> rfl
  have changes := Scans.joinedEach (.comma d)
    (fun entry : Value × Value => ofAssignment (entry.1.segments, entry.2))
    (fun _ _ => assignment_scans d) assigned nonempty
  obtain ⟨entry, rest, rfl⟩ := List.exists_cons_of_ne_nil nonempty
  have scans := verb.spaced (by simp) (.cons (nameSql_shows named)
    (.cons (set.shows (by simp)) (.cons (changes.shows (by simp [ofAssignment])) .nil)))
  simpa [Command.lexemes, Command.rowOf, Function.comp_def, Scope.lexemes] using scans

theorem update_scans {data : Dict} {sets : List Sql} {scope name : Sql} (nonempty : data ≠ [])
    (assigned : data.mapM assignment = .ok sets)
    (clause : idClause ⟨d, .standard⟩ idColumn id items = .ok scope)
    (named : nameSql table = .ok name) :
    Scans d .clear .loose
      (spaced ([.text "UPDATE"] :: ([name, [.text "SET"], joined ", " sets] ++ [scope])))
      (Command.ofUpdate table idColumn id data items).lexemes := by
  have scans := (changes_scan named assigned nonempty d).append
    ((Scans.space d).append (idClause_shows clause).scans)
  rw [spaced_concat (by simp) (idClause_ne_nil clause)]
  simpa [Command.ofUpdate, Command.lexemes, Scope.lexemes] using scans

theorem update_writes {data : Dict}
    (compiled : update ⟨d, .standard⟩ table idColumn id data items = .ok s) :
    s.Writes d (.ofUpdate table idColumn id data items) := by
  obtain ⟨nonempty, sets, scope, name, assigned, clause, named, rfl⟩ := update_eq_ok compiled
  exact ⟨by simpa [Command.ofUpdate, Command.HasColumns, Command.rowOf] using nonempty, _, rfl, rfl,
    update_scans nonempty assigned clause named⟩

end Assembler

namespace Statement.Writes

variable {d : Dialect} {s : Statement} {command : Command Value}

theorem ofText (writes : s.Writes d command) :
    Command.ofText d s.sql s.params = some command := by
  obtain ⟨written, sql, text, params, scans⟩ := writes
  rw [text, params, Command.ofText, scans.ofText, Option.bind_some,
    Command.read_lexemes command written]

theorem params_eq (writes : s.Writes d command) : s.params = operands command.lexemes := by
  obtain ⟨_, sql, _, params, scans⟩ := writes
  rw [params, scans.operands_eq]

end Statement.Writes

end ScopedSql
