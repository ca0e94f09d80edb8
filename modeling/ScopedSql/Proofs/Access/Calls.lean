import ScopedSql.Proofs.Access.Guards

/-! All calls of scoped access, and the table that their statements name.

A call on rows that are there may carry a policy that was resolved before; a new row has none. Each
statement names the table of its tenant, in the text as in its description.
-/

set_option autoImplicit false

namespace ScopedSql

inductive AccessCall where
  | onRows (call : ScopedCall) (known : Option Policy)
  | insert (data : Value)

def AccessCall.run (a : Access) (r : Request) : AccessCall → Traced Statement
  | .onRows call none => call.run a r
  | .onRows call (some p) => Statement.reported (call.statement a r p)
  | .insert data => Statement.reported (a.insert r data)

def Access.knownPolicy (a : Access) (r : Request) : Option Policy → Except Fault Policy
  | some p => .ok p
  | none => (a.policy r).outcome

theorem AccessCall.onRows_outcome (a : Access) (r : Request) (call : ScopedCall)
    (known : Option Policy) :
    ((AccessCall.onRows call known).run a r).outcome =
      a.knownPolicy r known >>= fun p => call.statement a r p := by
  cases known with
  | none =>
    rw [AccessCall.run, ScopedCall.run, Traced.outcome_bind]
    show (a.policy r).outcome >>= _ = (a.policy r).outcome >>= _
    congr 1
    funext p
    exact Statement.outcome_reported _
  | some p =>
    rw [AccessCall.run, Statement.outcome_reported]
    rfl

theorem AccessCall.onRows_eq_ok {a : Access} {r : Request} {call : ScopedCall}
    {known : Option Policy} {s : Statement}
    (ran : ((AccessCall.onRows call known).run a r).outcome = .ok s) :
    ∃ p, a.knownPolicy r known = .ok p ∧ call.statement a r p = .ok s := by
  rw [onRows_outcome] at ran
  exact Except.bind_eq_ok.mp ran

theorem AccessCall.insert_eq_ok {a : Access} {r : Request} {data : Value} {s : Statement}
    (ran : ((AccessCall.insert data).run a r).outcome = .ok s) : a.insert r data = .ok s := by
  rwa [AccessCall.run, Statement.outcome_reported] at ran

def Command.table {α : Type} : Command α → List String
  | select _ table _ _ _ _ => table
  | insert table _ _ => table
  | update table _ _ => table
  | delete table _ => table

/-! ## Tables -/

-- A tenant that becomes part of a name is a segment, and stands in front.
theorem Tenancy.table_eq_ok {t : Tenancy} (names : t.namesTables) {name id x : Value}
    (named : t.table name id = .ok x) :
    name.isWritable ∧ Identifier.isSegment (t.tenant id) ∧ x = .text
      (t.tenant id ++ (if t.strategy = .schema then "." else t.separator) ++ name.plain) := by
  rw [table, if_pos names] at named
  by_cases valid : Identifier.isSegment (t.tenant id)
  · rw [if_pos valid, Except.map_eq_ok] at named
    obtain ⟨_, written, rfl⟩ := named
    obtain ⟨writable, rfl⟩ := Value.written_eq_ok.mp written
    exact ⟨writable, valid, rfl⟩
  · rw [if_neg valid] at named
    cases named

theorem ScopedCall.table_command (d : Dialect) (r : Request) (items : List FilterItem)
    (call : ScopedCall) (x : Value) : (command d r items call x).table = x.segments := by
  cases call <;> rfl

-- A call is about the tenant's table and within the scope of its factors.
theorem ScopedCall.statement_command {d : Dialect} {tenancy : Tenancy} {resolver : Resolver}
    {call : ScopedCall} {r : Request} {p : Policy} {s : Statement}
    (compiled : call.statement (Access.make d tenancy resolver) r p = .ok s) :
    ∃ x command, tenancy.table r.table r.effectiveTenant = .ok x ∧ s.Writes d command ∧
      command.table = x.segments ∧ command.scope = Scope.ofFactors (call.factors tenancy r p) := by
  rw [statement_eq, Except.bind_eq_ok] at compiled
  obtain ⟨x, named, compiled⟩ := compiled
  exact ⟨x, _, named, assemble_writes compiled, table_command d r _ call x,
    factors_command d tenancy resolver r p call x⟩

theorem AccessCall.run_table {d : Dialect} {tenancy : Tenancy} {resolver : Resolver}
    {call : AccessCall} {r : Request} {s : Statement}
    (ran : (call.run (Access.make d tenancy resolver) r).outcome = .ok s) :
    ∃ x command, tenancy.table r.table r.effectiveTenant = .ok x ∧ s.Writes d command ∧
      command.table = x.segments := by
  cases call with
  | onRows call known =>
    obtain ⟨p, _, compiled⟩ := AccessCall.onRows_eq_ok ran
    obtain ⟨x, command, named, writes, table, _⟩ := ScopedCall.statement_command compiled
    exact ⟨x, command, named, writes, table⟩
  | insert data =>
    have compiled := AccessCall.insert_eq_ok ran
    simp only [Access.insert, Except.bind_eq_ok] at compiled
    obtain ⟨entries, _, x, table, compiled⟩ := compiled
    exact ⟨x, _, table, Assembler.insert_writes compiled, rfl⟩

end ScopedSql
