import ScopedSql.Proofs.Access.Calls

/-! Requests that nothing tells apart.

Two ids are alike if they name one tenant or if tenants are not told apart at all. A request is
compiled by way of its tenant only, so requests that differ in alike ids give the same statements,
the same faults and the same notices. The policy does not depend on the tenant at all.
-/

set_option autoImplicit false

namespace ScopedSql

/-! ## Ids -/

namespace Tenancy

variable {t : Tenancy}

/-- Two ids of which nothing shows which one a request has. -/
def Alike (t : Tenancy) (id id' : Value) : Prop :=
  t.strategy = .none ∨ t.tenant id = t.tenant id'

theorem Alike.table {id id' : Value} (alike : t.Alike id id') (name : Value) :
    t.table name id = t.table name id' := by
  rcases alike with untold | same
  · simp [Tenancy.table, namesTables, untold]
  · simp only [Tenancy.table, same]

theorem Alike.discriminator? {id id' : Value} (alike : t.Alike id id') :
    t.discriminator? id = t.discriminator? id' := by
  rcases alike with untold | same
  · simp [Tenancy.discriminator?, untold]
  · simp only [Tenancy.discriminator?, same]

theorem Alike.scope {id id' : Value} (alike : t.Alike id id') (items : List FilterItem) :
    t.scope items id = t.scope items id' := by
  rw [Tenancy.scope, Tenancy.scope, filter?, filter?, alike.discriminator?]

theorem Alike.stamp {id id' : Value} (alike : t.Alike id id') (data : Dict) :
    t.stamp data id = t.stamp data id' := by
  rw [Tenancy.stamp, Tenancy.stamp, alike.discriminator?]

end Tenancy

/-! ## Calls for alike tenants -/

-- A policy is made for the user of a context, whatever the tenant.
theorem Resolver.resolve_tenant (resolver : Resolver) (user : Option User)
    (tenant tenant' : Option String) (inputs : Value) :
    resolver.resolve ⟨user, tenant⟩ inputs = resolver.resolve ⟨user, tenant'⟩ inputs := rfl

structure Request.AlikeFor (t : Tenancy) (r r' : Request) : Prop where
  table : r.table = r'.table
  filters : r.filters = r'.filters
  options : r.options = r'.options
  user : r.context.user = r'.context.user
  inputs : r.inputs = r'.inputs
  idColumn : r.idColumn = r'.idColumn
  tenant : t.Alike r.effectiveTenant r'.effectiveTenant

namespace Request.AlikeFor

variable {a : Access} {r r' : Request}

theorem policy (alike : AlikeFor a.tenancy r r') : a.policy r = a.policy r' := by
  obtain ⟨table, filters, options, id, ⟨user, tenant⟩, inputs, idColumn⟩ := r
  obtain ⟨table', filters', options', id', ⟨user', tenant'⟩, inputs', idColumn'⟩ := r'
  obtain rfl : user = user' := alike.user
  obtain rfl : inputs = inputs' := alike.inputs
  exact Resolver.resolve_tenant a.resolver user tenant tenant' (.dict inputs)

theorem accessTable (alike : AlikeFor a.tenancy r r') : a.table r = a.table r' := by
  rw [Access.table, Access.table, alike.table, alike.tenant.table]

theorem scope (alike : AlikeFor a.tenancy r r') (base : List FilterItem) (p : Policy) :
    a.scope r base p = a.scope r' base p := by
  rw [Access.scope, Access.scope, alike.tenant.scope]

theorem statement (alike : AlikeFor a.tenancy r r') (p : Policy) (call : ScopedCall) :
    call.statement a r p = call.statement a r' p := by
  have assembled : ∀ items table, ScopedCall.assemble a.assembler r items call table =
      ScopedCall.assemble a.assembler r' items call table := by
    intro items table
    cases call <;> simp only [ScopedCall.assemble, alike.options, alike.idColumn]
  rw [ScopedCall.statement_eq, ScopedCall.statement_eq, alike.accessTable, alike.filters,
    alike.scope]
  exact bind_congr (assembled _)

theorem run (alike : AlikeFor a.tenancy r r') (call : AccessCall) :
    call.run a r = call.run a r' := by
  cases call with
  | insert data =>
    simp only [AccessCall.run, Access.insert, alike.accessTable, alike.tenant.stamp]
  | onRows call known =>
    cases known with
    | some p => simp only [AccessCall.run, alike.statement]
    | none => simp only [AccessCall.run, ScopedCall.run, alike.policy, alike.statement]

end Request.AlikeFor

end ScopedSql
