import ScopedSql.Access
import ScopedSql.Proofs.Statement.Parameters

/-! Scoped statements keep to the rows of their guards.

Whatever filters a caller hands in, the scope of the statement is a conjunction in which the
policy and the tenant have factors of their own, behind those of the caller. No connective of the
caller reaches past its factor, and more filters let fewer rows through.
-/

set_option autoImplicit false

namespace ScopedSql

open Sql

/-- A call of scoped access that reads, changes or removes rows. -/
inductive ScopedCall where
  | select
  | count
  | findById (id : Value)
  | update (id data : Value)
  | delete (id : Value)

namespace ScopedCall

def statement (a : Access) (r : Request) (p : Policy) : ScopedCall → Except Fault Statement
  | select => a.select r p
  | count => a.count r p
  | findById id => a.findById r id p
  | update id data => a.update r id data p
  | delete id => a.delete r id p

def run (a : Access) (r : Request) (call : ScopedCall) : Traced Statement := do
  let p ← a.policy r
  Statement.reported (call.statement a r p)

def idGuard (r : Request) : ScopedCall → List (Formula Value .factor)
  | select | count => []
  | findById id | update id _ | delete id => [.atom (.compare r.idColumn.segments .eq id)]

end ScopedCall

def FilterItem.factors (items : List FilterItem) : List (Formula Value .factor) :=
  items.filterMap FilterItem.factor?

def Tenancy.guard (t : Tenancy) (id : Value) : List (Formula Value .factor) :=
  if t.strategy = .column ∧ t.tenant id ≠ t.defaultTenant then
    [.atom (.compare (Identifier.segmentsOf t.column) .eq (.text (t.tenant id)))]
  else []

-- A report leaves the outcome as it is.
theorem Statement.outcome_reported (outcome : Except Fault Statement) :
    (Statement.reported outcome).outcome = outcome := by
  cases outcome <;> rfl

/-! ## Scopes -/

theorem Tenancy.factors_scope (t : Tenancy) (items : List FilterItem) (id : Value) :
    FilterItem.factors (t.scope items id) = FilterItem.factors items ++ t.guard id := by
  rw [Tenancy.scope, FilterItem.factors, List.filterMap_append, FilterItem.factors,
    Tenancy.guard, Tenancy.filter?, Tenancy.discriminator?]
  split <;> rfl

namespace ScopedCall

/-- The factors that a row has to meet, from the record to the tenant. -/
def factors (tenancy : Tenancy) (r : Request) (p : Policy) (call : ScopedCall) :
    List (Formula Value .factor) :=
  call.idGuard r ++ FilterItem.factors r.filters ++ FilterItem.factors p.filters ++
    tenancy.guard r.effectiveTenant

theorem factors_scope (d : Dialect) (tenancy : Tenancy) (resolver : Resolver) (r : Request)
    (p : Policy) :
    FilterItem.factors ((Access.make d tenancy resolver).scope r r.filters p) =
      FilterItem.factors r.filters ++ FilterItem.factors p.filters ++
        tenancy.guard r.effectiveTenant := by
  rw [Access.scope, Access.make, Tenancy.factors_scope, FilterItem.factors,
    List.filterMap_append]
  rfl

def assemble (a : Assembler) (r : Request) (items : List FilterItem) (call : ScopedCall)
    (table : Value) : Except Fault Statement :=
  match call with
  | select => a.select table items r.options
  | count => a.count table items
  | findById id => a.findById table r.idColumn id items
  | update id data => do a.update table r.idColumn id (← Payload.forUpdate data) items
  | delete id => a.delete table r.idColumn id items

def command (d : Dialect) (r : Request) (items : List FilterItem) (call : ScopedCall)
    (table : Value) : Command Value :=
  match call with
  | select => .ofSelect d table items r.options
  | count => .ofCount table items
  | findById id => .ofFind table r.idColumn id items
  | update id data => .ofUpdate table r.idColumn id (StatementOrder.entriesOf data) items
  | delete id => .ofDelete table r.idColumn id items

theorem statement_eq (a : Access) (r : Request) (p : Policy) (call : ScopedCall) :
    call.statement a r p =
      a.table r >>= assemble a.assembler r (a.scope r r.filters p) call := by
  cases call <;> rfl

theorem assemble_writes {d : Dialect} {r : Request} {items : List FilterItem} {call : ScopedCall}
    {table : Value} {s : Statement}
    (compiled : assemble ⟨d, .standard⟩ r items call table = .ok s) :
    s.Writes d (command d r items call table) := by
  cases call with
  | select => exact Assembler.select_writes compiled
  | count => exact Assembler.count_writes compiled
  | findById id => exact Assembler.findById_writes compiled
  | update id data =>
    rw [assemble, Except.bind_eq_ok] at compiled
    obtain ⟨entries, taken, compiled⟩ := compiled
    cases Payload.forUpdate_eq_ok taken
    exact Assembler.update_writes compiled
  | delete id => exact Assembler.delete_writes compiled

theorem factors_command (d : Dialect) (tenancy : Tenancy) (resolver : Resolver) (r : Request)
    (p : Policy) (call : ScopedCall) (table : Value) :
    (command d r ((Access.make d tenancy resolver).scope r r.filters p) call table).scope =
      Scope.ofFactors (call.factors tenancy r p) := by
  -- a call that picks a record has its predicate in front, the others have the filters alone
  have within : ∀ items, (command d r items call table).scope =
      Scope.ofFactors (call.idGuard r ++ FilterItem.factors items) := by
    intro items
    cases call <;> rfl
  rw [within, factors_scope, factors]
  simp only [List.append_assoc]

-- The scope of a call's command is the conjunction of its factors.
theorem statement_writes {d : Dialect} {tenancy : Tenancy} {resolver : Resolver}
    {call : ScopedCall} {r : Request} {p : Policy} {s : Statement}
    (compiled : call.statement (Access.make d tenancy resolver) r p = .ok s) :
    ∃ command, s.Writes d command ∧
      command.scope = Scope.ofFactors (call.factors tenancy r p) := by
  rw [statement_eq, Except.bind_eq_ok] at compiled
  obtain ⟨table, _, compiled⟩ := compiled
  exact ⟨_, assemble_writes compiled, factors_command d tenancy resolver r p call table⟩

theorem run_eq_ok {a : Access} {r : Request} {call : ScopedCall} {s : Statement}
    (ran : (call.run a r).outcome = .ok s) :
    ∃ p, (a.policy r).outcome = .ok p ∧ call.statement a r p = .ok s := by
  rw [run, Traced.outcome_bind] at ran
  obtain ⟨p, resolved, reported⟩ := Except.bind_eq_ok.mp ran
  rw [Statement.outcome_reported] at reported
  exact ⟨p, resolved, reported⟩

theorem factors_sublist {tenancy : Tenancy} {r : Request} {p : Policy} {more : List FilterItem}
    (longer : r.filters.Sublist more) (call : ScopedCall) :
    (call.factors tenancy r p).Sublist (call.factors tenancy { r with filters := more } p) := by
  have guard : call.idGuard { r with filters := more } = call.idGuard r := by cases call <;> rfl
  rw [factors, factors, guard]
  exact (((List.Sublist.refl _).append (longer.filterMap _)).append (.refl _)).append (.refl _)

end ScopedCall

/-- The scope of a scoped statement is the conjunction of the record's predicate, the caller's
filters, those of the policy and that of the tenant: it lets no row through that the policy or the
tenant does not, and more filters of the caller let no more rows through. -/
theorem scoped_statement_keeps_guards (d : Dialect) (tenancy : Tenancy) (resolver : Resolver)
    (r : Request) (call : ScopedCall) {s : Statement}
    (ran : (call.run (Access.make d tenancy resolver) r).outcome = .ok s) :
    ∃ (p : Policy) (command : Command Value),
      (resolver.resolve r.context (.dict r.inputs)).outcome = .ok p ∧
      Command.ofText d s.sql s.params = some command ∧
      command.scope.conjuncts = call.idGuard r ++ FilterItem.factors r.filters ++
        FilterItem.factors p.filters ++ tenancy.guard r.effectiveTenant ∧
      (command.scope = none → call.idGuard r = [] ∧ FilterItem.factors r.filters = [] ∧
        FilterItem.factors p.filters = [] ∧ tenancy.guard r.effectiveTenant = []) ∧
      (∀ truth, command.scope.holds truth →
        (∀ item ∈ p.filters, item.holds truth) ∧
        (∀ factor ∈ tenancy.guard r.effectiveTenant, factor.holds truth)) ∧
      (∀ (more : List FilterItem) (t : Statement), r.filters.Sublist more →
        (call.run (Access.make d tenancy resolver) { r with filters := more }).outcome = .ok t →
        ∃ narrower, Command.ofText d t.sql t.params = some narrower ∧
          ∀ truth, narrower.scope.holds truth → command.scope.holds truth) := by
  obtain ⟨p, resolved, compiled⟩ := ScopedCall.run_eq_ok ran
  obtain ⟨command, writes, scope⟩ := ScopedCall.statement_writes compiled
  have conjuncts : command.scope.conjuncts = call.factors tenancy r p := by
    rw [scope, Scope.conjuncts_ofFactors]
  refine ⟨p, command, resolved, writes.ofText, conjuncts, ?_, ?_, ?_⟩
  · intro absent
    rw [absent] at conjuncts
    simpa [Scope.conjuncts, ScopedCall.factors] using conjuncts.symm
  · intro truth holds
    rw [scope, Scope.holds_ofFactors, List.all_eq_true] at holds
    have policy : (FilterItem.factors p.filters).all (·.holds truth) := by
      rw [List.all_eq_true]
      exact fun factor member => holds factor (by simp [ScopedCall.factors, member])
    rw [FilterItem.factors, FilterItem.all_holds, List.all_eq_true] at policy
    exact ⟨policy, fun factor member => holds factor (by simp [ScopedCall.factors, member])⟩
  · intro more t longer ran'
    obtain ⟨p', resolved', compiled'⟩ := ScopedCall.run_eq_ok ran'
    -- the policy is resolved from the context and the inputs, which are the same
    have same : p' = p := Except.ok.inj (resolved'.symm.trans resolved)
    subst same
    obtain ⟨narrower, writes', scope'⟩ := ScopedCall.statement_writes compiled'
    refine ⟨narrower, writes'.ofText, fun truth holds => ?_⟩
    rw [scope', Scope.holds_ofFactors, List.all_eq_true] at holds
    rw [scope, Scope.holds_ofFactors, List.all_eq_true]
    exact fun factor member => holds factor ((call.factors_sublist longer).subset member)

/-- A removal by a user whose role sees rows of its own, with a group of the caller's in between. -/
theorem removal_by_staff_keeps_tenant :
    ∃ command, Command.ofText .postgres
        ("DELETE FROM \"t\" WHERE \"id\" = $1 AND (\"a\" = $2 OR \"b\" = $3) AND " ++
          "\"owner\" = $4 AND \"tenant_id\" = $5")
        [.int 5, .int 1, .int 2, .int 7, .text "acme"] = some command ∧
      ∀ truth : Atom Value → Bool, command.scope.holds truth →
        truth (.compare ["tenant_id"] .eq (.text "acme")) := by
  have kept := scoped_statement_keeps_guards .postgres ⟨.column, "tenant_id", "_", "public"⟩
    ⟨⟨[("staff", [⟨[⟨"owner", .eq, .text "currentUser.id", false, none⟩], .and⟩])]⟩, none⟩
    ⟨.text "t", [.group ⟨[⟨.text "a", .eq, .int 1⟩, ⟨.text "b", .eq, .int 2⟩], .or⟩], Options.empty,
      .text "acme", ⟨some ⟨.int 7, ["staff"], .null, []⟩, none⟩, [], .text "id"⟩
    (.delete (.int 5))
    (s := ⟨"DELETE FROM \"t\" WHERE \"id\" = $1 AND (\"a\" = $2 OR \"b\" = $3) AND " ++
        "\"owner\" = $4 AND \"tenant_id\" = $5",
      [.int 5, .int 1, .int 2, .int 7, .text "acme"], .delete, .text "t", .text "id", .bool false⟩)
    (by cbv)
  obtain ⟨p, command, _, reads, _, _, guarded, _⟩ := kept
  refine ⟨command, reads, fun truth holds => ?_⟩
  have guard : Tenancy.guard ⟨.column, "tenant_id", "_", "public"⟩ (.text "acme") =
      [.atom (.compare ["tenant_id"] .eq (.text "acme"))] := by cbv
  exact (guarded truth holds).2 (.atom (.compare ["tenant_id"] .eq (.text "acme")))
    (guard ▸ List.mem_singleton_self _)

end ScopedSql
