import ScopedSql.Proofs.Statement.Grammar
import ScopedSql.Proofs.Statement.Spacing

/-! Reads are texts of the grammar, and can be read back.

The text of a read is written for the selection that its table, its filters and its options make, so
it is read as that selection and as no other.
-/

set_option autoImplicit false

namespace ScopedSql

open Sql Lexeme

/-! ## Clauses with placeholders -/

namespace Lexeme

variable (d : Dialect)

theorem marked_operandList (x : Value) (xs : List Value) (start : Nat) :
    ∃ mark marks, marked d start (operandList (x :: xs)) = operandList (mark :: marks) := by
  induction xs generalizing x start with
  | nil => exact ⟨_, [], rfl⟩
  | cons second rest ih =>
    obtain ⟨mark, marks, tail⟩ := ih second (start + 1)
    have list : ∀ {α : Type} (x y : α) (zs : List α),
        operandList (x :: y :: zs) = .operand x :: .comma :: operandList (y :: zs) := by
      intro α x y zs
      rw [operandList, List.map_cons, List.map_cons, List.intercalate_cons_cons]
      rfl
    refine ⟨d.placeholder start, mark :: marks, ?_⟩
    rw [list, list, ← tail]
    rfl

end Lexeme

theorem Atom.marked_lexemes (d : Dialect) (a : Atom Value) (start : Nat) :
    ∃ b : Atom String, marked d start a.lexemes = b.lexemes := by
  cases a with
  | compare column comparison x =>
    exact ⟨.compare column comparison (d.placeholder start), by cases comparison <;> rfl⟩
  | isIn column x xs =>
    obtain ⟨mark, marks, list⟩ := marked_operandList d x xs start
    refine ⟨.isIn column mark marks, ?_⟩
    rw [lexemes, lexemes, ← list, marked_append, marked_append]
    rfl
  | notIn column x xs =>
    obtain ⟨mark, marks, list⟩ := marked_operandList d x xs start
    refine ⟨.notIn column mark marks, ?_⟩
    rw [lexemes, lexemes, ← list, marked_append, marked_append]
    rfl
  | isNull column => exact ⟨.isNull column, rfl⟩
  | isNotNull column => exact ⟨.isNotNull column, rfl⟩
  | never => exact ⟨.never, rfl⟩
  | always => exact ⟨.always, rfl⟩

theorem Formula.marked_lexemes (d : Dialect) {k : Strength} (c : Formula Value k) (start : Nat) :
    ∃ b : Formula String k, marked d start c.lexemes = b.lexemes := by
  induction c generalizing start with
  | atom a =>
    obtain ⟨b, same⟩ := a.marked_lexemes d start
    exact ⟨.atom b, same⟩
  | group inner ih =>
    obtain ⟨b, same⟩ := ih start
    refine ⟨.group b, ?_⟩
    show marked d start ([.opening] ++ inner.lexemes ++ [.closing]) = .opening :: b.lexemes ++ _
    rw [← same, marked_append, marked_append]
    rfl
  | factor f ih =>
    obtain ⟨b, same⟩ := ih start
    exact ⟨.factor b, same⟩
  | and f rest ihF ihRest =>
    obtain ⟨b, same⟩ := ihF start
    obtain ⟨more, tail⟩ := ihRest (start + (operands f.lexemes).length)
    refine ⟨.and b more, ?_⟩
    rw [lexemes, lexemes, ← same, ← tail, marked_append]
    rfl
  | conjunction c ih =>
    obtain ⟨b, same⟩ := ih start
    exact ⟨.conjunction b, same⟩
  | or c rest ihC ihRest =>
    obtain ⟨b, same⟩ := ihC start
    obtain ⟨more, tail⟩ := ihRest (start + (operands c.lexemes).length)
    refine ⟨.or b more, ?_⟩
    rw [lexemes, lexemes, ← same, ← tail, marked_append]
    rfl

theorem Where.ofItems_clause (d : Dialect) {items : List FilterItem} {sql : Sql}
    (compiled : ofItems .standard items = .ok sql) :
    ∃ scope, Selection.Clause d (sql.render d 0) scope := by
  obtain ⟨parts, predicated, rfl⟩ := ofItems_eq_ok compiled
  have each := predicates_scans d predicated
  generalize items.filterMap FilterItem.factor? = factors at each
  have scans := (clause_scans each).scans
  cases each with
  | nil => exact ⟨none, .absent⟩
  | @cons part factor parts factors _ _ =>
    obtain ⟨b, marks⟩ :=
      Formula.marked_lexemes d (.conjunction (Formula.ofFactors factor factors)) 0
    have scanned : Lexeme.scan d ((clause (part :: parts)).render d 0) =
        some (.word "WHERE" :: b.lexemes) := by
      rw [scans.scan, ← marks]
      rfl
    have opens := clause_opens (part :: parts)
    have shown := opens.render_ne d 0 (by simp [clause])
    obtain ⟨body, text⟩ := (opens.text d 0).resolve_left shown
    rw [text] at scanned ⊢
    exact ⟨some b, .present scanned⟩

/-! ## Texts of reads -/

def Options.selection (d : Dialect) (table : Value) (options : Options) (clause : String) :
    Selection where
  columns := options.fields.map Value.segments
  table := table.segments
  clause := clause
  order := options.order
  limit := options.shownLimit d
  offset := options.offset.map Int.ofNat

namespace Assembler

variable {d : Dialect} {table : Value} {items : List FilterItem} {s : Statement}

theorem orderTerm_text {term : OrderTerm} {sql : Sql} (compiled : orderTerm term = .ok sql)
    (d : Dialect) (start : Nat) :
    sql.render d start = d.spelled term.field.segments ++ " " ++ term.direction.word := by
  obtain ⟨name, named, rfl⟩ := orderTerm_eq_ok compiled
  obtain ⟨n, rfl, segments⟩ := nameSql_eq_ok named
  rw [List.singleton_append, render, render, render, Dialect.quote_eq, segments,
    String.append_empty, String.append_assoc]

theorem ordering_text {options : Options} {order : Sql}
    (compiled : ordering options.orderBy = .ok order) (d : Dialect) (start : Nat) :
    order.render d start = Selection.orderingText d options.order ∧
      (order ≠ [] → order.render d start ≠ "") := by
  rcases ordering_eq_ok compiled with ⟨unordered, rfl⟩ | ⟨some, parts, built, rfl⟩
  · rw [Options.order, unordered]
    exact ⟨rfl, fun present => absurd rfl present⟩
  · have each : List.Forall₂ (fun (part : Sql) text => ∀ start, part.render d start = text) parts
        (options.orderBy.map fun term =>
          d.spelled term.field.segments ++ " " ++ term.direction.word) := by
      rw [List.forall₂_map_right_iff]
      exact (Except.mapM_eq_ok.mp built).flip.imp fun part term ordered => orderTerm_text ordered d
    rw [render, render_joined d ", " each, Selection.orderingText, Options.order,
      if_neg (by simpa using some)]
    simp [Function.comp_def]

theorem paging_text (d : Dialect) (options : Options) (start : Nat) :
    (behind [pageSql d options]).render d start =
      spacedPart (Selection.countText "LIMIT" (options.shownLimit d)) ++
        spacedPart (Selection.countText "OFFSET" (options.offset.map Int.ofNat)) := by
  obtain ⟨orderBy, limit, offset, fields⟩ := options
  match limit, offset with
  | none, none => rfl
  | some limit, none =>
    simp [pageSql, behind, render, Dialect.pagingText, Options.shownLimit, Selection.countText,
      spacedPart]
  | some limit, some offset =>
    simp [pageSql, behind, render, Dialect.pagingText, Options.shownLimit, Selection.countText,
      spacedPart, String.append_assoc]
  | none, some offset =>
    cases d <;>
      simp [pageSql, behind, render, Dialect.pagingText, Options.shownLimit, Selection.countText,
        spacedPart, Dialect.limitBeforeOffset, String.append_assoc]

theorem named_of_nameSql {x : Value} {sql : Sql} (compiled : nameSql x = .ok sql) :
    Selection.Named x.segments := by
  obtain ⟨n, rfl, segments⟩ := nameSql_eq_ok compiled
  exact ⟨Identifier.segmentsOf_ne_nil _, segments ▸ List.all_eq_true.mp n.wellFormed⟩

-- What every part is built from has the property, if all that a part can be built from have it.
theorem forall_of_mapM {α : Type} {build : α → Except Fault Sql} {p : α → Prop} {xs : List α}
    {parts : List Sql} (built : ∀ x part, build x = .ok part → p x)
    (compiled : xs.mapM build = .ok parts) : ∀ x ∈ xs, p x := by
  have each := (Except.mapM_eq_ok.mp compiled).imp fun x part same =>
    And.intro (built x part same) same
  exact ((List.forall₂_and_left xs parts).mp each).1

theorem projection_named {fields : List Value} {sql : Sql}
    (compiled : projection fields = .ok sql) :
    ∀ x ∈ fields, Selection.Named x.segments := by
  rcases projection_eq_ok compiled with ⟨rfl, _⟩ | ⟨_, parts, built, _⟩
  · simp
  · exact forall_of_mapM (fun x part => named_of_nameSql) built

theorem ordering_named {terms : List OrderTerm} {sql : Sql} (compiled : ordering terms = .ok sql) :
    ∀ term ∈ terms, Selection.Named term.field.segments := by
  rcases ordering_eq_ok compiled with ⟨rfl, _⟩ | ⟨_, parts, built, _⟩
  · simp
  · refine forall_of_mapM (fun term part ordered => ?_) built
    obtain ⟨name, named, _⟩ := orderTerm_eq_ok ordered
    exact named_of_nameSql named

/-! ## Selections that are asked for -/

theorem head_text {options : Options} {columns name : Sql}
    (shown : projection options.fields = .ok columns) (named : nameSql table = .ok name)
    (d : Dialect) (clause : String) :
    ([.text "SELECT"] ++ behind [columns, [.text "FROM"], name] : Sql).render d 0 =
      (options.selection d table clause).headText d := by
  obtain ⟨n, rfl, segments⟩ := nameSql_eq_ok named
  have parts : ([.text "SELECT"] ++ behind [columns, [.text "FROM"], [.name n]] : Sql) =
      ([.text "SELECT"] ++ behind [columns, [.text "FROM"]]) ++ [.text " ", .name n] := by
    rw [List.append_assoc]
    exact congrArg _ (behind_append [columns, [.text "FROM"]] [[.name n]])
  have projected : Selection.projectionText d (options.fields.map Value.segments) =
      options.columns d := by
    cases fields : options.fields <;>
      simp [Selection.projectionText, Options.columns, fields, Function.comp_def]
  rw [parts, render_append, render, render, render, String.append_empty, ← String.append_assoc,
    select_opening shown, Selection.headText, Options.selection, projected, Dialect.quote_eq,
    segments]

theorem tail_text {options : Options} {order : Sql}
    (ordered : ordering options.orderBy = .ok order) (d : Dialect) (clause : String) :
    (behind [order, pageSql d options]).render d 0 =
      (options.selection d table clause).tailText d := by
  obtain ⟨text, shown⟩ := ordering_text ordered d 0
  rw [render_behind_cons d 0 shown, paging_text, text, ← String.append_assoc]
  rfl

theorem select_text {options : Options}
    (compiled : select ⟨d, .standard⟩ table items options = .ok s) :
    ∃ clause, Where.ofItems .standard items = .ok clause ∧
      s.sql = (options.selection d table (clause.render d 0)).text d ∧
      s.params = clause.values ∧
      (options.selection d table (clause.render d 0)).Grammatical d := by
  obtain ⟨clause', built', framed⟩ := select_framed compiled
  obtain ⟨clause, columns, name, order, built, shown, named, ordered, rfl⟩ := select_eq_ok compiled
  obtain rfl : clause = clause' := Except.ok.inj (built.symm.trans built')
  refine ⟨clause, built, ?_, framed.params, ?_⟩
  · have parts : spaced [[.text "SELECT"], columns, [.text "FROM"], name, clause, order,
        pageSql d options] = ([.text "SELECT"] ++ behind [columns, [.text "FROM"], name]) ++
          behind [clause, order, pageSql d options] := by
      rw [spaced_cons (by simp), List.append_assoc, ← behind_append]
      rfl
    have unbound :
        ([.text "SELECT"] ++ behind [columns, [.text "FROM"], name] : Sql).values = [] := by
      rw [values_append, values_behind]
      simp [values, (projection_bare shown).2, (nameSql_bare named).2]
    -- nothing is bound in front of the clause, so its placeholders count from the first value
    rw [Statement.ofSql, parts, render_append, head_text shown named d (clause.render d 0), unbound,
      List.length_nil, Nat.add_zero,
      render_behind_cons d 0 ((Where.ofItems_opens built).render_ne d 0),
      render_of_unbound d (tail_unbound ordered d), tail_text ordered d (clause.render d 0),
      ← String.append_assoc]
    rfl
  · exact ⟨named_of_nameSql named, by simpa [Options.selection] using projection_named shown,
      by simpa [Options.selection, Options.order] using ordering_named ordered,
      Where.ofItems_clause d built⟩

end Assembler

theorem Options.shownLimit_of_some {options : Options} {n : Nat} (limited : options.limit = some n)
    (d : Dialect) : options.shownLimit d = some (Int.ofNat n) := by
  simp [shownLimit, limited]

-- Without a limit of its own, a read has one in front of an offset if its dialect needs it.
theorem Options.shownLimit_of_none {options : Options} (unlimited : options.limit = none)
    (d : Dialect) : options.shownLimit d =
      if options.offset = none then none
      else match d with
        | .postgres => none
        | .mysql => some 18446744073709551615
        | .sqlite => some (-1) := by
  cases offset : options.offset <;> cases d <;>
    simp [shownLimit, unlimited, offset, Dialect.limitBeforeOffset, Dialect.allRows]

theorem Options.shownLimit_ne_none {options : Options} {d : Dialect} (dialect : d ≠ .postgres)
    (paged : options.offset ≠ none) : options.shownLimit d ≠ none := by
  cases limit : options.limit with
  | some n => simp [shownLimit_of_some limit]
  | none =>
    rw [shownLimit_of_none limit, if_neg paged]
    cases d <;> simp at dialect ⊢

/-- The text of a read is read back as the selection that was asked for and belongs to no other one:
its table, its columns, its ordering and its page are those of the order, its clause is the one that
is compiled from the filters alone. An offset without a limit has one in front of it if the dialect
needs that; an absent part leaves neither text nor space. -/
theorem text_of_read_recovers_selection (d : Dialect) (table filters : Value) (options : Options)
    (s : Statement)
    (compiled : Assembler.compile ⟨d, .standard⟩ (.select table filters options) = .ok s) :
    ∃ items clause after, FilterItem.listOf filters = .ok items ∧
      Parameters.whereClause ⟨d, []⟩ .standard items = (.ok clause, after) ∧
      after.values = s.params ∧
      let sel := options.selection d table clause
      sel.Grammatical d ∧ s.sql = sel.text d ∧ Selection.read d s.sql = some sel ∧
        (∀ other : Selection, other.Grammatical d → other.text d = s.sql → other = sel) ∧
        (∀ n, options.limit = some n → sel.limit = some (Int.ofNat n)) ∧
        (options.limit = none → sel.limit =
          if options.offset = none then none
          else match d with
            | .postgres => none
            | .mysql => some 18446744073709551615
            | .sqlite => some (-1)) ∧
        (d ≠ .postgres → sel.offset ≠ none → sel.limit ≠ none) ∧ Tidy s.sql := by
  simp only [Assembler.compile, Except.bind_eq_ok] at compiled
  obtain ⟨items, listed, compiled⟩ := compiled
  obtain ⟨clause, built, text, params, grammatical⟩ := Assembler.select_text compiled
  refine ⟨items, clause.render d 0, ⟨d, clause.values⟩, listed, ?_, params.symm, ?_⟩
  · simp [Parameters.whereClause, Parameters.compile, built, Parameters.write]
  intro sel
  refine ⟨grammatical, text, ?_, fun other is same => ?_, fun n limited => ?_, fun unlimited => ?_,
    fun dialect paged => ?_, Assembler.select_tidy compiled⟩
  · rw [text]
    exact Selection.read_text grammatical
  · exact Selection.text_injective is grammatical (same.trans text)
  · exact Options.shownLimit_of_some limited d
  · exact Options.shownLimit_of_none unlimited d
  · refine Options.shownLimit_ne_none dialect fun none => paged ?_
    simp [sel, Options.selection, none]

theorem page_of_open_orders_is_recovered :
    Selection.read .sqlite ("SELECT \"id\", \"total\" FROM \"shop\".\"orders\" " ++
        "WHERE \"status\" = ? ORDER BY \"total\" DESC LIMIT -1 OFFSET 20") =
      some ⟨[["id"], ["total"]], ["shop", "orders"], "WHERE \"status\" = ?",
        [(["total"], .descending)], some (-1), some 20⟩ := by
  let status : Filter := ⟨.text "status", .eq, .text "open"⟩
  obtain ⟨items, clause, after, listed, clauses, _, _, _, read, _⟩ :=
    text_of_read_recovers_selection .sqlite (.text "shop.orders") (.list [status.toValue])
      ⟨[⟨.text "total", .descending⟩], none, some 20, [.text "id", .text "total"]⟩
      ⟨"SELECT \"id\", \"total\" FROM \"shop\".\"orders\" " ++
        "WHERE \"status\" = ? ORDER BY \"total\" DESC LIMIT -1 OFFSET 20",
        [.text "open"], .select, .text "shop.orders", .null, .bool false⟩ (by cbv)
  obtain rfl : items = [.single status] := Except.ok.inj (listed.symm.trans (by cbv))
  have compiled : Parameters.whereClause ⟨.sqlite, []⟩ .standard [.single status] =
      (.ok "WHERE \"status\" = ?", ⟨.sqlite, [.text "open"]⟩) := by cbv
  obtain rfl : clause = "WHERE \"status\" = ?" :=
    Except.ok.inj (congrArg Prod.fst (clauses.symm.trans compiled))
  rw [read]
  decide +kernel

end ScopedSql
