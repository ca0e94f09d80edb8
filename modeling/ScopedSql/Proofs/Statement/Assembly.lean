import ScopedSql.Proofs.Outcome
import ScopedSql.Statement.Assembler

/-! What compiled statements are made of: for each part and for each kind of statement, the pieces
that it has once it is compiled, and what those were compiled from.
-/

set_option autoImplicit false

namespace ScopedSql

open Sql

def Options.isShort (options : Options) : Bool :=
  options.limit.all (fun n : Nat => Numeral.isShort n) &&
    options.offset.all fun n : Nat => Numeral.isShort n

namespace Assembler

/-! ## Parts -/

theorem projection_eq_ok {fields : List Value} {sql : Sql}
    (compiled : projection fields = .ok sql) :
    fields = [] ∧ sql = [.text "*"] ∨
      fields ≠ [] ∧ ∃ parts, fields.mapM nameSql = .ok parts ∧ sql = joined ", " parts := by
  cases fields with
  | nil => exact .inl ⟨rfl, (Except.ok.inj compiled).symm⟩
  | cons first rest =>
    simp only [projection, List.isEmpty_cons, Bool.false_eq_true, if_false, Except.bind_eq_ok,
      Except.pure_eq_ok] at compiled
    obtain ⟨parts, compiled, rfl⟩ := compiled
    exact .inr ⟨by simp, parts, compiled, rfl⟩

theorem orderTerm_eq_ok {term : OrderTerm} {sql : Sql} (compiled : orderTerm term = .ok sql) :
    ∃ name, nameSql term.field = .ok name ∧
      sql = name ++ [.text (" " ++ term.direction.word)] := by
  simp only [orderTerm, Except.bind_eq_ok, Except.pure_eq_ok] at compiled
  obtain ⟨name, named, rfl⟩ := compiled
  exact ⟨name, named, rfl⟩

theorem ordering_eq_ok {terms : List OrderTerm} {sql : Sql} (compiled : ordering terms = .ok sql) :
    terms = [] ∧ sql = [] ∨
      terms ≠ [] ∧ ∃ parts, terms.mapM orderTerm = .ok parts ∧
        sql = .text "ORDER BY " :: joined ", " parts := by
  cases terms with
  | nil => exact .inl ⟨rfl, (Except.ok.inj compiled).symm⟩
  | cons first rest =>
    simp only [ordering, List.isEmpty_cons, Bool.false_eq_true, if_false, Except.bind_eq_ok,
      Except.pure_eq_ok] at compiled
    obtain ⟨parts, compiled, rfl⟩ := compiled
    exact .inr ⟨by simp, parts, compiled, rfl⟩

/-- The pieces of a page, however long its numbers are. -/
def pageSql (d : Dialect) (options : Options) : Sql :=
  if options.limit.isNone && options.offset.isNone then []
  else [.text (d.pagingText (options.limit.map Int.ofNat) (options.offset.map Int.ofNat))]

theorem paging_eq (d : Dialect) (options : Options) :
    paging d options =
      if options.isShort then .ok (pageSql d options) else Value.misused .unreadable := by
  obtain ⟨orderBy, limit, offset, fields⟩ := options
  cases limit <;> cases offset
  case none.none => rfl
  all_goals
    simp [paging, pageSql, Dialect.pagingClause, Options.isShort]
    split <;> rfl

theorem paging_eq_ok {d : Dialect} {options : Options} {page : Sql} :
    paging d options = .ok page ↔ options.isShort ∧ page = pageSql d options := by
  rw [paging_eq]
  split
  · next short => simp [short, eq_comm]
  · next long => simp [long, Value.misused]

theorem idPredicate_eq_ok {idColumn id : Value} {sql : Sql}
    (compiled : idPredicate idColumn id = .ok sql) :
    ∃ name, nameSql idColumn = .ok name ∧ sql = name ++ [.text " = ", .bound id] := by
  unfold idPredicate at compiled
  cases given : idColumn.isGiven with
  | false =>
    rw [given] at compiled
    cases compiled
  | true =>
    cases id with
    | null =>
      rw [given] at compiled
      cases compiled
    | _ =>
      simp only [given, Bool.not_true, Bool.false_eq_true, if_false, Except.bind_eq_ok,
        Except.pure_eq_ok] at compiled
      obtain ⟨name, named, rfl⟩ := compiled
      exact ⟨name, named, rfl⟩

theorem assignment_eq_ok {entry : Value × Value} {sql : Sql}
    (compiled : assignment entry = .ok sql) :
    ∃ name, nameSql entry.1 = .ok name ∧ sql = name ++ [.text " = ", .bound entry.2] := by
  simp only [assignment, Except.bind_eq_ok, Except.pure_eq_ok] at compiled
  obtain ⟨name, named, rfl⟩ := compiled
  exact ⟨name, named, rfl⟩

/-! ## Statements -/

variable {a : Assembler} {table idColumn id : Value} {items : List FilterItem} {s : Statement}

theorem idClause_eq_ok {clause : Sql} (compiled : a.idClause idColumn id items = .ok clause) :
    ∃ first parts, idPredicate idColumn id = .ok first ∧
      Where.predicates a.rules items = .ok parts ∧ clause = Where.clause (first :: parts) := by
  simp only [idClause, Except.bind_eq_ok, Except.pure_eq_ok] at compiled
  obtain ⟨first, picked, parts, predicated, rfl⟩ := compiled
  exact ⟨first, parts, picked, predicated, rfl⟩

theorem select_eq_ok {options : Options} (compiled : a.select table items options = .ok s) :
    ∃ clause columns name order, Where.ofItems a.rules items = .ok clause ∧
      projection options.fields = .ok columns ∧ nameSql table = .ok name ∧
      ordering options.orderBy = .ok order ∧
      s = .ofSql a.dialect .select table .null (.bool false)
        (spaced [[.text "SELECT"], columns, [.text "FROM"], name, clause, order,
          pageSql a.dialect options]) := by
  simp only [select, Except.bind_eq_ok, Except.pure_eq_ok, paging_eq_ok] at compiled
  obtain ⟨clause, built, columns, shown, name, named, order, ordered, _, ⟨_, rfl⟩, rfl⟩ := compiled
  exact ⟨clause, columns, name, order, built, shown, named, ordered, rfl⟩

theorem isShort_of_select {options : Options} (compiled : a.select table items options = .ok s) :
    options.isShort := by
  simp only [select, Except.bind_eq_ok, paging_eq_ok] at compiled
  obtain ⟨_, _, _, _, _, _, _, _, _, ⟨short, _⟩, _⟩ := compiled
  exact short

theorem count_eq_ok (compiled : a.count table items = .ok s) :
    ∃ clause name, Where.ofItems a.rules items = .ok clause ∧ nameSql table = .ok name ∧
      s = .ofSql a.dialect .count table .null (.bool false)
        (spaced [[.text "SELECT COUNT(*) as count FROM"], name, clause]) := by
  simp only [count, Except.bind_eq_ok, Except.pure_eq_ok] at compiled
  obtain ⟨clause, built, name, named, rfl⟩ := compiled
  exact ⟨clause, name, built, named, rfl⟩

theorem findById_eq_ok (compiled : a.findById table idColumn id items = .ok s) :
    ∃ clause name, a.idClause idColumn id items = .ok clause ∧ nameSql table = .ok name ∧
      s = .ofSql a.dialect .findById table idColumn (.bool false)
        (spaced [[.text "SELECT * FROM"], name, clause, [.text "LIMIT 1"]]) := by
  simp only [findById, Except.bind_eq_ok, Except.pure_eq_ok] at compiled
  obtain ⟨clause, picked, name, named, rfl⟩ := compiled
  exact ⟨clause, name, picked, named, rfl⟩

theorem insert_eq_ok {data : Dict} {asked : Value} (compiled : a.insert table data asked = .ok s) :
    data ≠ [] ∧ ∃ columns name, data.mapM (fun entry => nameSql entry.1) = .ok columns ∧
      nameSql table = .ok name ∧
      s = .ofSql a.dialect .insert table .null (returningOf a.dialect asked)
        (spaced
          [[.text "INSERT INTO"], name, .text "(" :: joined ", " columns ++ [.text ")"],
            [.text "VALUES"], Test.valueTuple (data.map (·.2)),
            if (returningOf a.dialect asked).isGiven then [.text "RETURNING *"] else []]) := by
  cases data with
  | nil => cases compiled
  | cons entry rest =>
    simp only [insert, List.isEmpty_cons, Bool.false_eq_true, if_false, Except.bind_eq_ok,
      Except.pure_eq_ok] at compiled
    obtain ⟨columns, columnsNamed, name, named, rfl⟩ := compiled
    exact ⟨by simp, columns, name, columnsNamed, named, rfl⟩

theorem update_eq_ok {data : Dict} (compiled : a.update table idColumn id data items = .ok s) :
    data ≠ [] ∧ ∃ sets clause name, data.mapM assignment = .ok sets ∧
      a.idClause idColumn id items = .ok clause ∧ nameSql table = .ok name ∧
      s = .ofSql a.dialect .update table idColumn (.bool false)
        (spaced ([.text "UPDATE"] :: ([name, [.text "SET"], joined ", " sets] ++ [clause]))) := by
  cases data with
  | nil => cases compiled
  | cons entry rest =>
    simp only [update, List.isEmpty_cons, Bool.false_eq_true, if_false, Except.bind_eq_ok,
      Except.pure_eq_ok] at compiled
    obtain ⟨sets, assigned, clause, picked, name, named, rfl⟩ := compiled
    exact ⟨by simp, sets, clause, name, assigned, picked, named, rfl⟩

theorem delete_eq_ok (compiled : a.delete table idColumn id items = .ok s) :
    ∃ clause name, a.idClause idColumn id items = .ok clause ∧ nameSql table = .ok name ∧
      s = .ofSql a.dialect .delete table idColumn (.bool false)
        (spaced [[.text "DELETE FROM"], name, clause]) := by
  simp only [delete, Except.bind_eq_ok, Except.pure_eq_ok] at compiled
  obtain ⟨clause, picked, name, named, rfl⟩ := compiled
  exact ⟨clause, name, picked, named, rfl⟩

end Assembler

end ScopedSql
