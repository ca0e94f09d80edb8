import ScopedSql.Notice
import ScopedSql.Value.Dict

/-!
An executor that records what it is sent and answers from two queues: rows for queries, results
for writes. Each query takes the next queued rows and each write the next queued result; an empty
queue gives no rows, or one changed row.
-/

set_option autoImplicit false

namespace ScopedSql

inductive Channel where
  | query | execute
  deriving DecidableEq, Repr

def Channel.word : Channel → String
  | query => "query"
  | execute => "execute"

structure Sent where
  channel : Channel
  sql : Value
  params : List Value

structure WriteResult where
  changes : Value
  lastInsertId : Value

structure Recorder where
  sent : List Sent
  rows : List (List Dict)
  results : List WriteResult

namespace Recorder

def empty : Recorder := ⟨[], [], []⟩

def standardResult : WriteResult := ⟨.int 1, .null⟩

def queueRows (r : Recorder) (rows : Value) : Except Fault Recorder := do
  let rows ← (← rows.elements).mapM Dict.ofValue
  return { r with rows := r.rows ++ [rows] }

def queueResult (r : Recorder) (result : WriteResult) : Recorder :=
  { r with results := r.results ++ [result] }

def query (r : Recorder) (sql : Value) (params : List Value) : List Dict × Recorder :=
  (r.rows.headD [],
    { r with sent := r.sent ++ [⟨.query, sql, params⟩], rows := r.rows.tail })

def execute (r : Recorder) (sql : Value) (params : List Value) : WriteResult × Recorder :=
  (r.results.headD standardResult,
    { r with sent := r.sent ++ [⟨.execute, sql, params⟩], results := r.results.tail })

def last (r : Recorder) : Except Fault Sent :=
  match r.sent.getLast? with
  | some sent => .ok sent
  | none => Value.misused .nothingRecorded

def clear (_ : Recorder) : Recorder := empty

end Recorder

/-- An operation that may send statements: what it leaves behind, and its outcome. -/
structure Ran (α : Type) where
  recorder : Recorder
  notices : List Notice
  outcome : Except Fault α

namespace Ran

variable {α β : Type}

/-- Compiles without sending anything; with a result, goes on to send. -/
def afterCompiling (compiled : Traced α) (r : Recorder) (send : α → Recorder → Ran β) :
    Ran β :=
  match compiled.outcome with
  | .ok a =>
    let ran := send a r
    { ran with notices := compiled.notices ++ ran.notices }
  | .error fault => ⟨r, compiled.notices, .error fault⟩

def sendQuery (sql : Value) (params : List Value) (shape : List Dict → Traced α)
    (r : Recorder) : Ran α :=
  let (rows, r) := r.query sql params
  ⟨r, (shape rows).notices, (shape rows).outcome⟩

def sendWrite (sql : Value) (params : List Value) (shape : WriteResult → Traced α)
    (r : Recorder) : Ran α :=
  let (result, r) := r.execute sql params
  ⟨r, (shape result).notices, (shape result).outcome⟩

end Ran

end ScopedSql
