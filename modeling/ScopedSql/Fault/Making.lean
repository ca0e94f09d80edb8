import ScopedSql.Value.Convert

/-!
Faults that a host makes by itself: named by their class, from arguments of any type. The
arguments are kept as they are; only names that a message lists have to be texts or members, and
what a message shows has to be writable.
-/

set_option autoImplicit false

namespace ScopedSql.Fault

def lineage : Fault → List String
  | general _ => ["RowGuardError"]
  | notFound _ => ["NotFoundError", "RowGuardError"]
  | invalidIdentifier .. => ["InvalidIdentifierError", "RowGuardError", "ValueError"]
  | recordNotFound .. => ["RecordNotFoundError", "NotFoundError", "RowGuardError"]
  | fault => [fault.title, "RowGuardError"]

def readNames (x : Value) : Except Fault (List Value) := do
  let names ← x.elements
  if names.all fun name => name.asText?.isSome then return names
  else Value.misused .wrongType

/-- The errors of an invalid request, from the only argument: a text is one error of the whole. -/
def readErrors (x : Value) : Value :=
  match x with
  | .null => .dict []
  | x => if x.asText?.isSome then .dict [(.text "__root__", .list [x])] else x

def ofArguments (title : String) (args : List Value) : Except Fault Fault :=
  match title, args with
  | "RowGuardError", args => .ok (.general args)
  | "NotFoundError", args => .ok (.notFound args)
  | "InvalidIdentifierError", [given] => .ok (.invalidIdentifier given .null)
  | "InvalidIdentifierError", [given, segment] => .ok (.invalidIdentifier given segment)
  | "UnsupportedOperatorError", [given, valid] =>
    (readNames valid).map (.unsupportedOperator given)
  | "UnsupportedDialectError", [given, available] =>
    (readNames available).map (.unsupportedDialect given)
  | "ValidationError", [] => .ok (.invalid (.reported (.dict [])))
  | "ValidationError", [errors] => .ok (.invalid (.reported (readErrors errors)))
  | "PolicyMismatchError", [roles] => .ok (.policyMismatch roles)
  | "RecordNotFoundError", [table, id] => .ok (.recordNotFound table id)
  | "ExecutionError", [operation, sql, cause] =>
    cause.written.map (.executionFailed operation sql)
  | _, _ => Value.misused .wrongType

def make (title : String) (args : List Value) : Except Fault Fault := do
  let fault ← ofArguments title args
  if fault.isWritable then return fault else Value.misused .unreadable

end ScopedSql.Fault
