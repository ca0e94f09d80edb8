import ScopedSql.Notice
import ScopedSql.Sql

/-!
Compiled statements: a text, its bound values in order, and what a gateway needs to know to run
it. A statement is always rendered from one piece list, so its placeholders and values agree.
-/

set_option autoImplicit false

namespace ScopedSql

inductive StatementKind where
  | select | count | findById | insert | update | delete | definition
  deriving DecidableEq, Repr

namespace StatementKind

def word : StatementKind → String
  | select => "select" | count => "count" | findById => "find_by_id" | insert => "insert"
  | update => "update" | delete => "delete" | definition => "ddl"

def returnsRows : StatementKind → Bool
  | select | count | findById => true
  | insert | update | delete | definition => false

end StatementKind

/-- A statement that is ready to run. What asked for its row to be returned is kept as it was
given. -/
structure Statement where
  sql : String
  params : List Value
  kind : StatementKind
  table : Value
  idColumn : Value
  returning : Value

namespace Statement

def ofSql (d : Dialect) (kind : StatementKind) (table idColumn returning : Value) (body : Sql) :
    Statement :=
  ⟨body.render d 0, body.values, kind, table, idColumn, returning⟩

def returnsRow (s : Statement) : Bool :=
  s.returning.isGiven

def notice (s : Statement) : Notice :=
  .compiled s.kind.word s.table s.params.length s.sql

def reported (outcome : Except Fault Statement) : Traced Statement := do
  let s ← outcome
  Traced.report s.notice
  return s

end Statement

end ScopedSql
