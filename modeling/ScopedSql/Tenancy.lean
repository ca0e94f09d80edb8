import ScopedSql.Filter
import ScopedSql.Identifier
import ScopedSql.Model.Check

/-!
Tenancy: how the rows of tenants are kept apart. A tenant has a schema of its own, or a prefix in
the names of its tables, or a value in a column. The default tenant has no value in the column:
its rows are not told apart. A missing or blank tenant id stands for the default tenant.
-/

set_option autoImplicit false

namespace ScopedSql

variable [Check]

structure Tenancy where
  strategy : TenancyStrategy
  column : String
  separator : String
  defaultTenant : String

namespace Tenancy

def standardTenant : String := "public"

def none : Tenancy := ⟨.none, "tenant_id", "_", standardTenant⟩

def toValue (t : Tenancy) : Value :=
  .record .tenancy [("strategy", .member (.strategy t.strategy)), ("column_name", .text t.column),
    ("separator", .text t.separator), ("default_tenant", .text t.defaultTenant)]

def ofRecord? : Value → Option Tenancy
  | .record .tenancy [(_, .member (.strategy strategy)), (_, .text column),
      (_, .text separator), (_, .text defaultTenant)] =>
    some ⟨strategy, column, separator, defaultTenant⟩
  | _ => Option.none

/-- A strategy's word in any letter case, with blanks around it and underscores for hyphens. -/
def normalizeStrategy (x : Value) : Value :=
  match x.asText? with
  | some s =>
    let word := Text.small (Text.trim s)
    .text (String.ofList (word.toList.map fun c => if c = '_' then '-' else c))
  | Option.none => x

def checkColumn (x : Value) : Checked String :=
  (Check.text x).andThen fun s =>
    match Identifier.ofText s with
    | .ok _ => .valid s
    | .error fault => .issue (.rejected fault.message)

def ofSettings (es : Dict) : Checked Tenancy :=
  Tenancy.mk
    <$> Check.optional es "strategy" none.strategy (fun x => Check.member (normalizeStrategy x))
    <*> Check.optional es "column_name" none.column checkColumn
    <*> Check.optional es "separator" none.separator Check.text
    <*> Check.optional es "default_tenant" none.defaultTenant Check.text

def check (x : Value) : Checked Tenancy :=
  Check.model ofRecord? ofSettings x

/-- The tenant that an id names: trimmed, or the default if nothing is left. Ids are declared to be
texts; of any other value the plain text counts. -/
def resolveId (id : Value) (default : Value) : Value :=
  match id with
  | .null => default
  | id =>
    let name := Text.trim id.plain
    if name = "" then default else .text name

def tenant (t : Tenancy) (id : Value) : String :=
  (resolveId id (.text t.defaultTenant)).plain

def namesTables (t : Tenancy) : Bool :=
  t.strategy = .schema || t.strategy = .tablePrefix

/-- The table of a tenant. A tenant that becomes part of a name has to be a single segment. -/
def table (t : Tenancy) (name id : Value) : Except Fault Value :=
  if t.namesTables then
    let tenant := t.tenant id
    if Identifier.isSegment tenant then
      name.written.map fun name =>
        .text (tenant ++ (if t.strategy = .schema then "." else t.separator) ++ name)
    else .error (.invalidIdentifier (.text tenant) (.text tenant))
  else .ok name

/-- The tenant whose rows are told apart by the column, if they are. -/
def discriminator? (t : Tenancy) (id : Value) : Option String :=
  if t.strategy = .column ∧ t.tenant id ≠ t.defaultTenant then some (t.tenant id) else Option.none

def filter? (t : Tenancy) (id : Value) : Option Filter :=
  (t.discriminator? id).map fun tenant => ⟨.text t.column, .eq, .text tenant⟩

def scope (t : Tenancy) (items : List FilterItem) (id : Value) : List FilterItem :=
  items ++ ((t.filter? id).map FilterItem.single).toList

def stamp (t : Tenancy) (data : Dict) (id : Value) : Dict :=
  match t.discriminator? id with
  | some tenant => Dict.put (.text t.column) (.text tenant) data
  | Option.none => data

def filtersFor (t : Tenancy) (filters id : Value) : Except Fault (List FilterItem) := do
  return t.scope (← FilterItem.listOf filters) id

def entriesFor (t : Tenancy) (data id : Value) : Except Fault Dict := do
  return t.stamp (← Dict.ofValue data) id

end Tenancy

end ScopedSql
