import ScopedSql.Policy.Resolver
import ScopedSql.Statement.Order
import ScopedSql.Tenancy

/-!
Scoped access: one request in, one statement out that keeps to the caller's rows. The filters of
the request come first, then those of the policy, then the tenant's; an update or a removal
carries the same filters as a read, and a new row carries the tenant's column.
-/

set_option autoImplicit false

namespace ScopedSql

variable [Check]

structure Request where
  table : Value
  filters : List FilterItem
  options : Options
  tenantId : Value
  context : Context
  inputs : Dict
  idColumn : Value

namespace Request

def standardIdColumn : Value := .text "id"

def readOptions (x : Value) : Except Fault Options :=
  match Options.ofRecord? x with
  | some options => .ok options
  | none => Options.ofDescription x

def readInputs (x : Value) : Except Fault Dict :=
  if x.isGiven then Dict.ofValue x else .ok []

def make (table filters options tenantId context inputs idColumn : Value) :
    Except Fault Request := do
  let filters ← FilterItem.listOf filters
  let options ← readOptions options
  let context ← Context.ofValue context
  let inputs ← readInputs inputs
  return ⟨table, filters, options, tenantId, context, inputs, idColumn⟩

def ofParts (parts : Parts) : Except Fault Request := do
  parts.only ["table", "filters", "options", "tenant_id", "context", "caller_inputs",
    "id_column"]
  make (← parts.need "table") (parts.getD "filters" .null) (parts.getD "options" .null)
    (parts.getD "tenant_id" .null) (parts.getD "context" .null)
    (parts.getD "caller_inputs" .null) (parts.getD "id_column" standardIdColumn)

/-- The tenant that a request is for: its own, or else the context's. -/
def effectiveTenant (r : Request) : Value :=
  match r.tenantId with
  | .null => .ofText? r.context.tenant
  | id => id

end Request

structure Access where
  assembler : Assembler
  tenancy : Tenancy
  resolver : Resolver

namespace Access

def make (d : Dialect) (tenancy : Tenancy) (resolver : Resolver) : Access :=
  ⟨⟨d, .standard⟩, tenancy, resolver⟩

def policy (a : Access) (r : Request) : Traced Policy :=
  a.resolver.resolve r.context (.dict r.inputs)

def table (a : Access) (r : Request) : Except Fault Value :=
  a.tenancy.table r.table r.effectiveTenant

def scope (a : Access) (r : Request) (base : List FilterItem) (p : Policy) : List FilterItem :=
  a.tenancy.scope (base ++ p.filters) r.effectiveTenant

def select (a : Access) (r : Request) (p : Policy) : Except Fault Statement := do
  a.assembler.select (← a.table r) (a.scope r r.filters p) r.options

def count (a : Access) (r : Request) (p : Policy) : Except Fault Statement := do
  a.assembler.count (← a.table r) (a.scope r r.filters p)

def findById (a : Access) (r : Request) (id : Value) (p : Policy) : Except Fault Statement := do
  a.assembler.findById (← a.table r) r.idColumn id (a.scope r r.filters p)

def insert (a : Access) (r : Request) (data : Value) : Except Fault Statement := do
  let payload := a.tenancy.stamp (← Dict.ofValue data) r.effectiveTenant
  a.assembler.insert (← a.table r) payload .null

def update (a : Access) (r : Request) (id data : Value) (p : Policy) : Except Fault Statement := do
  let table ← a.table r
  a.assembler.update table r.idColumn id (← Payload.forUpdate data) (a.scope r r.filters p)

def delete (a : Access) (r : Request) (id : Value) (p : Policy) : Except Fault Statement := do
  a.assembler.delete (← a.table r) r.idColumn id (a.scope r r.filters p)

end Access

end ScopedSql
