import ScopedSql.Proofs.Statement.Parameters
import ScopedSql.Proofs.Traffic.NamedBinds

/-! Orders that all dialects write alike.

But for an offset without a limit and for a row that an insert returns, an order is compiled to one
list of pieces, whatever the dialect. Dialects render it with other quotes and placeholders; once
the placeholders are named, only the quotes are left of that.
-/

set_option autoImplicit false

namespace ScopedSql

open Sql

/-- Whether no dialect puts a limit before the offset or returns the new row. -/
def StatementOrder.isPortable : StatementOrder → Bool
  | select _ _ options => options.limit.isSome || options.offset.isNone
  | insert _ _ .null => false
  | insert _ _ returning => !returning.isGiven
  | count .. | findById .. | update .. | delete .. => true

def Portable (compile : Dialect → Except Fault Statement) : Prop :=
  ∃ kind table idColumn returning body, Apart .clear .loose body ∧
    ∀ d, compile d = .ok (.ofSql d kind table idColumn returning body)

namespace Assembler

variable {d : Dialect} {table idColumn id : Value} {items : List FilterItem} {s : Statement}

theorem pageSql_portable {options : Options}
    (portable : options.limit.isSome || options.offset.isNone) (d d' : Dialect) :
    pageSql d options = pageSql d' options := by
  obtain ⟨orderBy, limit, offset, fields⟩ := options
  match limit, offset with
  | none, none => rfl
  | some limit, none => rfl
  | some limit, some offset => rfl
  | none, some offset => cases portable

theorem select_portable {options : Options}
    (portable : options.limit.isSome || options.offset.isNone)
    (compiled : select ⟨d, .standard⟩ table items options = .ok s) :
    Portable fun d => select ⟨d, .standard⟩ table items options := by
  obtain ⟨scope, columns, name, order, clause, shown, named, ordered, same⟩ := select_eq_ok compiled
  refine ⟨.select, table, .null, .bool false, _, (select_scans d clause shown named ordered).apart,
    fun d' => ?_⟩
  have paged : paging d' options = .ok (pageSql d options) :=
    paging_eq_ok.mpr ⟨isShort_of_select compiled, pageSql_portable portable d d'⟩
  simp only [select, clause, shown, named, ordered, paged]
  rfl

theorem count_portable (compiled : count ⟨d, .standard⟩ table items = .ok s) :
    Portable fun d => count ⟨d, .standard⟩ table items := by
  obtain ⟨scope, name, clause, named, rfl⟩ := count_eq_ok compiled
  refine ⟨.count, table, .null, .bool false, _, (count_scans d clause named).apart, fun d' => ?_⟩
  simp only [count, clause, named]
  rfl

-- The clause of an id has no page or row to return.
theorem idClause_portable {scope : Sql}
    (clause : idClause ⟨d, .standard⟩ idColumn id items = .ok scope) (d' : Dialect) :
    idClause ⟨d', .standard⟩ idColumn id items = .ok scope :=
  clause

theorem findById_portable
    (compiled : findById ⟨d, .standard⟩ table idColumn id items = .ok s) :
    Portable fun d => findById ⟨d, .standard⟩ table idColumn id items := by
  obtain ⟨scope, name, clause, named, rfl⟩ := findById_eq_ok compiled
  refine ⟨.findById, table, idColumn, .bool false, _, (findById_scans clause named).apart,
    fun d' => ?_⟩
  simp only [findById, idClause_portable clause d', named]
  rfl

theorem delete_portable (compiled : delete ⟨d, .standard⟩ table idColumn id items = .ok s) :
    Portable fun d => delete ⟨d, .standard⟩ table idColumn id items := by
  obtain ⟨scope, name, clause, named, rfl⟩ := delete_eq_ok compiled
  refine ⟨.delete, table, idColumn, .bool false, _, (delete_scans clause named).apart,
    fun d' => ?_⟩
  simp only [delete, idClause_portable clause d', named]
  rfl

theorem update_portable {data : Dict}
    (compiled : update ⟨d, .standard⟩ table idColumn id data items = .ok s) :
    Portable fun d => update ⟨d, .standard⟩ table idColumn id data items := by
  obtain ⟨nonempty, sets, scope, name, assigned, clause, named, rfl⟩ := update_eq_ok compiled
  refine ⟨.update, table, idColumn, .bool false, _,
    (update_scans nonempty assigned clause named).apart, fun d' => ?_⟩
  obtain ⟨entry, rest, rfl⟩ := List.exists_cons_of_ne_nil nonempty
  simp only [update, List.isEmpty_cons, Bool.false_eq_true, if_false, assigned,
    idClause_portable clause d', named]
  rfl

theorem returningOf_declined {asked : Value} (declined : asked.isGiven = false)
    (said : asked ≠ .null) (d : Dialect) : returningOf d asked = .bool false := by
  cases d with
  | postgres =>
    have kept : returningOf .postgres asked = if asked.isGiven then asked else .bool false := by
      cases asked with
      | null => exact absurd rfl said
      | _ => rfl
    rw [kept, declined]
    rfl
  | mysql | sqlite => rfl

theorem insert_portable {data : Dict} {asked : Value} (declined : asked.isGiven = false)
    (said : asked ≠ .null) (compiled : insert ⟨d, .standard⟩ table data asked = .ok s) :
    Portable fun d => insert ⟨d, .standard⟩ table data asked := by
  obtain ⟨nonempty, columns, name, columnsNamed, named, rfl⟩ := insert_eq_ok compiled
  have returned := returningOf_declined declined said
  refine ⟨.insert, table, .null, .bool false, _,
    (insert_scans d asked nonempty columnsNamed named).apart, fun d' => ?_⟩
  obtain ⟨entry, rest, rfl⟩ := List.exists_cons_of_ne_nil nonempty
  simp only [insert, List.isEmpty_cons, Bool.false_eq_true, if_false, columnsNamed, named,
    returned]
  rfl

theorem compile_portable {order : StatementOrder} (portable : order.isPortable)
    (compiled : compile ⟨d, .standard⟩ order = .ok s) :
    Portable fun d => compile ⟨d, .standard⟩ order := by
  cases order with
  | select table filters options =>
    simp only [compile, Except.bind_eq_ok] at compiled
    obtain ⟨items, listed, compiled⟩ := compiled
    simp only [compile, listed]
    exact select_portable portable compiled
  | count table filters =>
    simp only [compile, Except.bind_eq_ok] at compiled
    obtain ⟨items, listed, compiled⟩ := compiled
    simp only [compile, listed]
    exact count_portable compiled
  | findById table idColumn id filters =>
    simp only [compile, Except.bind_eq_ok] at compiled
    obtain ⟨items, listed, compiled⟩ := compiled
    simp only [compile, listed]
    exact findById_portable compiled
  | insert table data returning =>
    simp only [compile, Except.bind_eq_ok] at compiled
    obtain ⟨entries, taken, compiled⟩ := compiled
    have declined : returning.isGiven = false ∧ returning ≠ .null := by
      cases returning with
      | null => cases portable
      | _ => exact ⟨by simpa [StatementOrder.isPortable] using portable, by simp⟩
    simp only [compile, taken]
    exact insert_portable declined.1 declined.2 compiled
  | update table idColumn id data filters =>
    simp only [compile, Except.bind_eq_ok] at compiled
    obtain ⟨entries, taken, sets, assigned, items, listed, compiled⟩ := compiled
    simp only [compile, taken, listed, bind, Except.bind, assigned]
    exact update_portable compiled
  | delete table idColumn id filters =>
    simp only [compile, Except.bind_eq_ok] at compiled
    obtain ⟨items, listed, compiled⟩ := compiled
    simp only [compile, listed]
    exact delete_portable compiled

end Assembler

/-- What a dialect makes of a portable order is, with its placeholders named, the same text and the
same values under the same names; only one dialect has other quotes, and only one has numbers to
read, of no more than so many digits. -/
theorem dialects_agree_on_named_binds (order : StatementOrder) (portable : order.isPortable)
    (d : Dialect) (s : Statement) (compiled : Assembler.compile ⟨d, .standard⟩ order = .ok s) :
    ∃ (written : Dialect → Statement) (text quoted : String) (binds : Dict),
      (∀ d, Assembler.compile ⟨d, .standard⟩ order = .ok (written d) ∧
        (written d).params = s.params) ∧
      NamedBinds.ofStatement (written .sqlite).sql s.params = .ok (text, binds) ∧
      NamedBinds.ofStatement (written .postgres).sql s.params =
        (if s.params.length < 10 ^ Numeral.digitLimit then .ok (text, binds)
          else Value.misused .unreadable) ∧
      NamedBinds.ofStatement (written .mysql).sql s.params = .ok (quoted, binds) ∧
      quoted.map NamedBinds.respelled = text ∧
      (∀ isWord : Char → Bool, (∀ c, Identifier.isRest c → isWord c) →
        (∀ c, Scan.isDelimiter c → isWord c = false) →
        NamedBinds.bindNames isWord text.toList =
          (List.range s.params.length).map fun k : Nat => NamedBinds.bindName k) ∧
      binds.map (·.1) =
        (List.range s.params.length).map (fun k : Nat => .text (NamedBinds.bindName k)) ∧
      ∀ i : Nat, binds.at? (NamedBinds.bindName i) = s.params[i]? := by
  obtain ⟨kind, table, idColumn, returning, body, apart, everywhere⟩ :=
    Assembler.compile_portable portable compiled
  obtain rfl : .ofSql d kind table idColumn returning body = s :=
    Except.ok.inj ((everywhere d).symm.trans compiled)
  have named := NamedBinds.ofStatement_render apart
  refine ⟨fun d => .ofSql d kind table idColumn returning body,
    String.ofList (NamedBinds.namedOf .sqlite 0 body),
    String.ofList (NamedBinds.namedOf .mysql 0 body), NamedBinds.bindsFrom 0 body.values,
    fun d => ⟨everywhere d, rfl⟩, named .sqlite, ?_, named .mysql, ?_, ?_, ?_, ?_⟩
  · have numbered := named .postgres
    rw [NamedBinds.namedOf_postgres, NamedBinds.readsAll] at numbered
    simp only [decide_eq_true_eq] at numbered
    exact numbered
  · rw [← String.toList_inj, String.toList_map, String.toList_ofList, String.toList_ofList]
    exact NamedBinds.respelled_namedOf apart 0
  · intro isWord letters delimiters
    rw [String.toList_ofList, NamedBinds.bindNames_namedOf letters delimiters apart 0,
      List.range_eq_range']
    rfl
  · rw [NamedBinds.keys_bindsFrom, List.range_eq_range']
    rfl
  · intro i
    have value := NamedBinds.at?_bindsFrom body.values 0 i
    rw [Nat.zero_add] at value
    exact value

theorem update_of_members_is_named_alike :
    NamedBinds.ofStatement "UPDATE \"t\" SET \"a\" = $1 WHERE \"id\" = $2 AND \"b\" IN ($3, $4)"
        [.text "x", .int 7, .int 3, .int 5] =
      NamedBinds.ofStatement "UPDATE \"t\" SET \"a\" = ? WHERE \"id\" = ? AND \"b\" IN (?, ?)"
        [.text "x", .int 7, .int 3, .int 5] := by
  obtain ⟨written, text, quoted, binds, everywhere, lite, post, _⟩ :=
    dialects_agree_on_named_binds
      (.update (.text "t") (.text "id") (.int 7) (.dict [(.text "a", .text "x")])
        (.list [Filter.toValue ⟨.text "b", .isIn, .list [.int 3, .int 5]⟩]))
      rfl .mysql
      ⟨"UPDATE `t` SET `a` = ? WHERE `id` = ? AND `b` IN (?, ?)",
        [.text "x", .int 7, .int 3, .int 5], .update, .text "t", .text "id", .bool false⟩ (by cbv)
  have numbered : (written .postgres).sql =
      "UPDATE \"t\" SET \"a\" = $1 WHERE \"id\" = $2 AND \"b\" IN ($3, $4)" :=
    congrArg Statement.sql (Except.ok.inj ((everywhere .postgres).1.symm.trans (by cbv)))
  have unnumbered : (written .sqlite).sql =
      "UPDATE \"t\" SET \"a\" = ? WHERE \"id\" = ? AND \"b\" IN (?, ?)" :=
    congrArg Statement.sql (Except.ok.inj ((everywhere .sqlite).1.symm.trans (by cbv)))
  have short : [Value.text "x", .int 7, .int 3, .int 5].length < 10 ^ Numeral.digitLimit :=
    Nat.lt_of_lt_of_le (by decide : 4 < 10 ^ 1) (Nat.pow_le_pow_right (by decide) (by decide))
  rw [numbered, if_pos short] at post
  rw [unnumbered] at lite
  exact post.trans lite.symm

end ScopedSql
