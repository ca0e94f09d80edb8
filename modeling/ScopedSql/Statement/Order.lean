import ScopedSql.Statement.Assembler

/-!
Statements asked for with untyped parts: a filter list, a payload and an id as callers hand them
in. A part is read when its turn comes in the text, so that the first bad part gives the fault.
-/

set_option autoImplicit false

namespace ScopedSql

namespace Payload

def forUpdate (data : Value) : Except Fault Dict :=
  if !data.isGiven then .error (.invalid .emptyUpdate)
  else match data with
    | .dict entries => .ok entries
    | _ => data.lacking "items"

/-- The entries that a row is made of. The columns of anything but a dictionary are checked before
it is refused. -/
def forInsert (data : Value) : Except Fault Dict := do
  if !data.isGiven then throw (.invalid .emptyInsert)
  match data with
  | .dict entries => return entries
  | _ =>
    let _ ← (← data.elements).mapM Identifier.ofValue
    data.lacking "values"

end Payload

inductive StatementOrder where
  | select (table filters : Value) (options : Options)
  | count (table filters : Value)
  | findById (table idColumn id filters : Value)
  | insert (table data : Value) (returning : Value)
  | update (table idColumn id data filters : Value)
  | delete (table idColumn id filters : Value)

namespace StatementOrder

/-- The order of a kind from its named parts. The options are read before the names are checked. -/
def ofParts (kind : String) (parts : Parts) : Except Fault StatementOrder := do
  let options ← Options.ofDescription (parts.getD "options" .null)
  let table := parts.need "table"
  let idColumn := parts.need "id_column"
  let id := parts.need "record_id"
  let filters := parts.getD "filters" .null
  match kind with
  | "select" =>
    parts.only ["table", "filters", "options"]
    return .select (← table) filters options
  | "count" =>
    parts.only ["table", "filters"]
    return .count (← table) filters
  | "find_by_id" =>
    parts.only ["table", "id_column", "record_id", "filters"]
    return .findById (← table) (← idColumn) (← id) filters
  | "insert" =>
    parts.only ["table", "data", "returning"]
    return .insert (← table) (← parts.need "data") (parts.getD "returning" .null)
  | "update" =>
    parts.only ["table", "id_column", "record_id", "data", "filters"]
    return .update (← table) (← idColumn) (← id) (← parts.need "data") filters
  | "delete" =>
    parts.only ["table", "id_column", "record_id", "filters"]
    return .delete (← table) (← idColumn) (← id) filters
  | _ => Value.misused .noSuchMember

end StatementOrder

namespace Assembler

/-- The filters of a statement that picks a record, read after its id. -/
def filtersAfterId (idColumn id filters : Value) : Except Fault (List FilterItem) := do
  let _ ← idPredicate idColumn id
  FilterItem.listOf filters

def compile (a : Assembler) : StatementOrder → Except Fault Statement
  | .select table filters options => do a.select table (← FilterItem.listOf filters) options
  | .count table filters => do a.count table (← FilterItem.listOf filters)
  | .findById table idColumn id filters => do
    a.findById table idColumn id (← filtersAfterId idColumn id filters)
  | .insert table data returning => do
    a.insert table (← Payload.forInsert data) returning
  | .update table idColumn id data filters => do
    let entries ← Payload.forUpdate data
    let _ ← entries.mapM assignment
    a.update table idColumn id entries (← filtersAfterId idColumn id filters)
  | .delete table idColumn id filters => do
    a.delete table idColumn id (← filtersAfterId idColumn id filters)

end Assembler

end ScopedSql
