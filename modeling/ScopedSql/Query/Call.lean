import ScopedSql.Query
import ScopedSql.Value.Parts

/-!
Calls on queries, by name. A building call gives a new query; a question takes no parts and leaves
the query as it is. The fields of a query can be named, but not called.
-/

set_option autoImplicit false

namespace ScopedSql.Query

variable [Check]

/-- The query at a position; positions below zero count back from the last one. -/
def nth (queries : Array Query) (position : Int) : Except Fault Query :=
  let place := if position < 0 then position + queries.size else position
  match if place < 0 then none else queries[place.toNat]? with
  | some q => .ok q
  | none => Value.misused .noSuchPosition

def build? (q : Query) (c : Call) : Except Fault (Option Query) := do
  match c.name with
  | "select" =>
    c.named.only []
    return some (← q.select c.placed)
  | "from_" =>
    let parts ← c.parts ["table"]
    return some (q.fromTable (← parts.need "table"))
  | "where" =>
    let parts ← c.parts ["field_name", "operator", "value"]
    let field ← parts.need "field_name"
    return some (← q.restrict field (parts.lookup "operator") (parts.lookup "value"))
  | "where_group" =>
    c.named.only ["combinator"]
    return some (← q.restrictGroup c.placed
      (c.named.getD "combinator" (.member (.combinator .or))))
  | "order_by" =>
    let parts ← c.parts ["field_name", "direction"]
    return some (← q.orderBy (← parts.need "field_name") (parts.getD "direction" .null))
  | "limit" =>
    let parts ← c.parts ["limit"]
    return some (← q.limit (← parts.need "limit"))
  | "offset" =>
    let parts ← c.parts ["offset"]
    return some (← q.offset (← parts.need "offset"))
  | "with_tenant" =>
    let parts ← c.parts ["tenant_id"]
    return some (q.forTenant (← parts.need "tenant_id"))
  | "with_context" =>
    let parts ← c.parts ["context", "caller_inputs"]
    let context ← parts.need "context"
    return some (← q.inContext context (parts.getD "caller_inputs" .null))
  | _ => return none

inductive Question where
  | statement | countStatement | request | rows | first | count
  deriving DecidableEq, Repr

def Question.ofName? (name : String) : Option Question :=
  [("to_statement", Question.statement), ("to_count_statement", .countStatement),
    ("to_request", .request), ("get", .rows), ("first", .first), ("count", .count)].lookup name

def fieldNames : List String :=
  ["scope", "table_name", "filters", "options", "context", "caller_inputs", "id_column"]

def question (c : Call) : Except Fault Question :=
  match Question.ofName? c.name with
  | some question => do
    let _ ← c.parts []
    return question
  | none =>
    Value.misused (if fieldNames.contains c.name then .wrongType else .noSuchMember)

end ScopedSql.Query
