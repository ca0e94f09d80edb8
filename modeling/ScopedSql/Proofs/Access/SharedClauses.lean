import ScopedSql.Proofs.Access.Calls
import ScopedSql.Proofs.Statement.Framing

/-! Calls that are about the same rows have the same clause.

A count and a selection of one request have one clause, and so have all calls that pick one record.
In an update the values of the row are bound before it, so that its placeholders have higher
numbers; nothing else in it differs. What a call by id finds is therefore what an update changes and
a removal removes.
-/

set_option autoImplicit false

namespace ScopedSql

open Sql

namespace ScopedCall

def target : ScopedCall → Option Value
  | select | count => none
  | findById id | update id _ | delete id => some id

def before : ScopedCall → List Value
  | update _ data => (StatementOrder.entriesOf data).map (·.2)
  | select | count | findById _ | delete _ => []

def tail (r : Request) (d : Dialect) : ScopedCall → String
  | select => r.options.tail d
  | findById _ => " LIMIT 1"
  | count | update .. | delete _ => ""

end ScopedCall

def Access.clause (a : Access) (r : Request) (p : Policy) : Option Value → Except Fault Sql
  | none => Where.ofItems a.assembler.rules (a.scope r r.filters p)
  | some id => a.assembler.idClause r.idColumn id (a.scope r r.filters p)

theorem Access.clause_opens {a : Access} {r : Request} {p : Policy} {target : Option Value}
    {clause : Sql} (compiled : a.clause r p target = .ok clause) : clause.Opens := by
  cases target with
  | none => exact Where.ofItems_opens compiled
  | some id => exact Assembler.idClause_opens compiled

namespace ScopedCall

variable {a : Access} {r : Request} {p : Policy} {call call' : ScopedCall} {s t : Statement}

theorem statement_framed (compiled : call.statement a r p = .ok s) :
    ∃ clause, a.clause r p call.target = .ok clause ∧
      s.Framed a.assembler.dialect call.before clause (call.tail r a.assembler.dialect) := by
  rw [statement_eq, Except.bind_eq_ok] at compiled
  obtain ⟨table, _, compiled⟩ := compiled
  cases call with
  | select => exact Assembler.select_framed compiled
  | count => exact Assembler.count_framed compiled
  | findById id => exact Assembler.findById_framed compiled
  | update id data =>
    rw [assemble, Except.bind_eq_ok] at compiled
    obtain ⟨entries, taken, compiled⟩ := compiled
    cases Payload.forUpdate_eq_ok taken
    exact Assembler.update_framed compiled
  | delete id => exact Assembler.delete_framed compiled

/-- The statement of a call has this clause behind the values that are bound before. -/
structure Carries (a : Access) (r : Request) (call : ScopedCall) (clause : Sql) (s : Statement) :
    Prop where
  params : s.params = call.before ++ clause.values
  text : a.assembler.dialect.clause (call.tail r a.assembler.dialect) s.sql =
    clause.render a.assembler.dialect call.before.length

variable {known : Option Policy}

-- Calls with one target have one clause, since that depends on the policy and the target alone.
theorem share_clause (ran : ((AccessCall.onRows call known).run a r).outcome = .ok s)
    (ran' : ((AccessCall.onRows call' known).run a r).outcome = .ok t)
    (same : call.target = call'.target) :
    ∃ p clause, a.clause r p call.target = .ok clause ∧ call.Carries a r clause s ∧
      call'.Carries a r clause t := by
  obtain ⟨p, policy, compiled⟩ := AccessCall.onRows_eq_ok ran
  obtain ⟨p', policy', compiled'⟩ := AccessCall.onRows_eq_ok ran'
  obtain rfl : p = p' := Except.ok.inj (policy.symm.trans policy')
  obtain ⟨clause, built, framed⟩ := statement_framed compiled
  obtain ⟨clause', built', framed'⟩ := statement_framed compiled'
  rw [← same, built] at built'
  obtain rfl : clause = clause' := Except.ok.inj built'
  have opens := Access.clause_opens built
  exact ⟨p, clause, built, ⟨framed.params, framed.clause_eq opens⟩,
    ⟨framed'.params, framed'.clause_eq opens⟩⟩

-- With the standard rules nothing runs into a placeholder, so its number can be raised in the text.
theorem clause_renumbered (standard : a.assembler.rules = .standard) {target : Option Value}
    {clause : Sql} (compiled : a.clause r p target = .ok clause) (more : Nat) :
    a.assembler.dialect.renumbered more (clause.render a.assembler.dialect 0) =
      clause.render a.assembler.dialect more := by
  obtain ⟨⟨d, rules⟩, tenancy, resolver⟩ := a
  cases standard
  cases target with
  | none => exact (Where.ofItems_shows d compiled).scans.renumbered more
  | some id => exact (Assembler.idClause_shows compiled).scans.renumbered more

theorem factors_of_target (tenancy : Tenancy) (same : call.target = call'.target) :
    call.factors tenancy r p = call'.factors tenancy r p := by
  have guard : call.idGuard r = call'.idGuard r := by
    cases call <;> cases call' <;> cases same <;> rfl
  rw [factors, factors, guard]

theorem share_scope (standard : a.assembler.rules = .standard)
    (ran : ((AccessCall.onRows call known).run a r).outcome = .ok s)
    (ran' : ((AccessCall.onRows call' known).run a r).outcome = .ok t)
    (same : call.target = call'.target) :
    ∃ command command', Command.ofText a.assembler.dialect s.sql s.params = some command ∧
      Command.ofText a.assembler.dialect t.sql t.params = some command' ∧
      command.table = command'.table ∧ command.scope = command'.scope := by
  obtain ⟨⟨d, rules⟩, tenancy, resolver⟩ := a
  cases standard
  obtain ⟨p, policy, compiled⟩ := AccessCall.onRows_eq_ok ran
  obtain ⟨p', policy', compiled'⟩ := AccessCall.onRows_eq_ok ran'
  obtain rfl : p = p' := Except.ok.inj (policy.symm.trans policy')
  obtain ⟨x, command, named, writes, table, scope⟩ := statement_command compiled
  obtain ⟨x', command', named', writes', table', scope'⟩ := statement_command compiled'
  obtain rfl : x = x' := Except.ok.inj (named.symm.trans named')
  refine ⟨command, command', writes.ofText, writes'.ofText, table.trans table'.symm, ?_⟩
  rw [scope, scope', factors_of_target tenancy same]

end ScopedCall

/-- A selection and a count of one request have one clause with the same parameters, and so have a
search by id and a removal. An update binds its row first and has the removal's clause behind it,
with its placeholders raised by the number of columns; so it changes what the search finds. -/
theorem reads_and_writes_share_clauses (a : Access) (r : Request) (known : Option Policy) :
    (∀ s t : Statement,
      ((AccessCall.onRows .select known).run a r).outcome = .ok s →
      ((AccessCall.onRows .count known).run a r).outcome = .ok t →
        s.params = t.params ∧
        a.assembler.dialect.clause (r.options.tail a.assembler.dialect) s.sql =
          a.assembler.dialect.clause "" t.sql) ∧
    (∀ (id : Value) (s t : Statement),
      ((AccessCall.onRows (.findById id) known).run a r).outcome = .ok s →
      ((AccessCall.onRows (.delete id) known).run a r).outcome = .ok t →
        s.params = t.params ∧
        a.assembler.dialect.clause " LIMIT 1" s.sql = a.assembler.dialect.clause "" t.sql) ∧
    (∀ (id data : Value) (s t : Statement),
      ((AccessCall.onRows (.update id data) known).run a r).outcome = .ok s →
      ((AccessCall.onRows (.delete id) known).run a r).outcome = .ok t →
        s.params = (StatementOrder.entriesOf data).map (·.2) ++ t.params ∧
        (∃ clause : Sql, clause.values = t.params ∧
          a.assembler.dialect.clause "" t.sql = clause.render a.assembler.dialect 0 ∧
          a.assembler.dialect.clause "" s.sql =
            clause.render a.assembler.dialect (StatementOrder.entriesOf data).length) ∧
        (a.assembler.rules = .standard → a.assembler.dialect.clause "" s.sql =
          a.assembler.dialect.renumbered (StatementOrder.entriesOf data).length
            (a.assembler.dialect.clause "" t.sql))) ∧
    (a.assembler.rules = .standard → ∀ (call call' : ScopedCall) (s t : Statement),
      call.target = call'.target →
      ((AccessCall.onRows call known).run a r).outcome = .ok s →
      ((AccessCall.onRows call' known).run a r).outcome = .ok t →
        ∃ command command', Command.ofText a.assembler.dialect s.sql s.params = some command ∧
          Command.ofText a.assembler.dialect t.sql t.params = some command' ∧
          command.table = command'.table ∧
          ∀ truth, command.scope.holds truth = command'.scope.holds truth) := by
  refine ⟨?_, ?_, ?_, ?_⟩
  · intro s t ran ran'
    obtain ⟨_, clause, _, selected, counted⟩ := ScopedCall.share_clause ran ran' rfl
    exact ⟨selected.params.trans counted.params.symm, selected.text.trans counted.text.symm⟩
  · intro id s t ran ran'
    obtain ⟨_, clause, _, found, removed⟩ := ScopedCall.share_clause ran ran' rfl
    exact ⟨found.params.trans removed.params.symm, found.text.trans removed.text.symm⟩
  · intro id data s t ran ran'
    obtain ⟨_, clause, built, changed, removed⟩ := ScopedCall.share_clause ran ran' rfl
    have width : (ScopedCall.before (.update id data)).length =
        (StatementOrder.entriesOf data).length := List.length_map _
    have text := changed.text
    rw [width] at text
    refine ⟨?_, ⟨clause, removed.params.symm, removed.text, text⟩, fun standard => ?_⟩
    · rw [changed.params, removed.params]
      rfl
    · have raised := ScopedCall.clause_renumbered standard built
        (StatementOrder.entriesOf data).length
      exact text.trans (raised.symm.trans (congrArg _ removed.text.symm))
  · intro standard call call' s t same ran ran'
    obtain ⟨command, command', reads, reads', table, scope⟩ :=
      ScopedCall.share_scope standard ran ran' same
    exact ⟨command, command', reads, reads', table, fun truth => by rw [scope]⟩

theorem update_of_two_columns_follows_removal :
    [.int 1, .int 2, .int 7, .int 3, .int 4, .text "acme"] =
      [.int 1, .int 2] ++ [.int 7, .int 3, .int 4, Value.text "acme"] ∧
    Dialect.clause .postgres "" ("UPDATE \"t\" SET \"a\" = $1, \"b\" = $2 WHERE \"id\" = $3 AND " ++
        "\"c\" IN ($4, $5) AND \"tenant_id\" = $6") =
      Dialect.renumbered .postgres 2 (Dialect.clause .postgres ""
        "DELETE FROM \"t\" WHERE \"id\" = $1 AND \"c\" IN ($2, $3) AND \"tenant_id\" = $4") := by
  obtain ⟨_, _, writes, _⟩ := reads_and_writes_share_clauses
    (.make .postgres ⟨.column, "tenant_id", "_", "public"⟩ ⟨.empty, none⟩)
    ⟨.text "t", [.single ⟨.text "c", .isIn, .list [.int 3, .int 4]⟩], .empty, .text "acme", .empty,
      [], .text "id"⟩ none
  obtain ⟨params, _, text⟩ := writes (.int 7) (.dict [(.text "a", .int 1), (.text "b", .int 2)])
    ⟨"UPDATE \"t\" SET \"a\" = $1, \"b\" = $2 WHERE \"id\" = $3 AND " ++
        "\"c\" IN ($4, $5) AND \"tenant_id\" = $6",
      [.int 1, .int 2, .int 7, .int 3, .int 4, .text "acme"], .update, .text "t", .text "id",
      .bool false⟩
    ⟨"DELETE FROM \"t\" WHERE \"id\" = $1 AND \"c\" IN ($2, $3) AND \"tenant_id\" = $4",
      [.int 7, .int 3, .int 4, .text "acme"], .delete, .text "t", .text "id", .bool false⟩
    (by cbv) (by cbv)
  exact ⟨params, text rfl⟩

end ScopedSql
