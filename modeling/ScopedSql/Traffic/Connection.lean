import ScopedSql.Traffic.NamedBinds
import ScopedSql.Traffic.Recorder

/-!
Programs over a database connection: statements and transaction blocks. A block is opened before
its body and closed after it, by a commit if the body ended well and by a rollback otherwise. An
engine opens a block, on a connection of its own, around every statement; on a connection that is in
a transaction, a block is a savepoint. Failures of the database surface as faults that name the
statement; everything else passes through.
-/

set_option autoImplicit false

namespace ScopedSql.Connection

inductive Opening where
  | begin | savepoint
  deriving DecidableEq, Repr

def Opening.word : Opening → String
  | begin => "begin"
  | savepoint => "savepoint"

inductive Event where
  | opened (opening : Opening)
  | committed (opening : Opening)
  | rolledBack (opening : Opening)
  | ran (sql : String) (binds : Dict)

/-- What the database answers to a statement. Rows, counts and ids are values of any type until the
answer is read. It fails with a message of its own, or something else stops it. -/
inductive Reply where
  | rows (rows : Value)
  | written (count lastId : Value)
  | failed (message : String)
  | stopped (fault : Fault)

/-- A program: statements with the answers that the database will give, faults of its own, and
blocks. A guarded part catches its fault. -/
inductive Program where
  | query (sql params : Value) (reply : Reply)
  | execute (sql params : Value) (reply : Reply)
  | raised (fault : Fault)
  | transaction (steps : List Program)
  | guarded (steps : List Program)

inductive Answer where
  | rows (rows : List Dict)
  | written (result : WriteResult)
  | all (answers : List Answer)
  | caught (fault : Fault)

structure Run (α : Type) where
  events : List Event
  notices : List Notice
  outcome : Except Fault α

/-- What a program runs on: an engine, or a connection with what it has seen. `inTransaction` is the
connection's own account of whether it is in a transaction after that; blocks are not all that may
open one. -/
structure Executor where
  isEngine : Bool
  dialectName : String
  inTransaction : List Event → Bool
  seen : List Event

def Run.closing {α : Type} (opening : Opening) (body : Run α) : Event :=
  match body.outcome with
  | .ok _ => .committed opening
  | .error _ => .rolledBack opening

def Run.inBlock {α : Type} (opening : Opening) (body : Run α) : Run α :=
  { body with events := .opened opening :: body.events ++ [body.closing opening] }

namespace Executor

/-- The name under which a database reports generated ids by returned rows alone. -/
def returningDialect : String := "postgresql"

/-- The result of a write: counts below zero are zero, and ids that are not given are none. -/
def writeResult (x : Executor) (count lastId : Value) : Except Fault WriteResult :=
  let lastId := if x.dialectName ≠ returningDialect ∧ lastId.isGiven then lastId else .null
  match count.isBelow? (.int 0) with
  | some unknown => .ok ⟨if unknown then .int 0 else count, lastId⟩
  | none => Value.misused .wrongType

def nextOpening (x : Executor) : Opening :=
  if !x.isEngine && x.inTransaction x.seen then .savepoint else .begin

/-- The connection inside a block; for an engine it is a new one. -/
def entered (x : Executor) : Executor :=
  { x with
    isEngine := false
    seen := (if x.isEngine then [] else x.seen) ++ [.opened x.nextOpening] }

/-- The connection after some events; an engine keeps none. -/
def after (x : Executor) (events : List Event) : Executor :=
  if x.isEngine then x else { x with seen := x.seen ++ events }

def answer (x : Executor) (operation : String) (sql : Value) : Reply → Except Fault Answer
  | .rows rows => do return .rows (← (← rows.elements).mapM Dict.ofValue)
  | .written count lastId => (x.writeResult count lastId).map .written
  | .failed message => .error (.executionFailed (.text operation) sql message)
  | .stopped fault => .error fault

def noticesOf (report : Value → Notice) (sql : Value) : Reply → List Notice
  | .failed _ => [report sql]
  | _ => []

def sendOn (x : Executor) (operation : String) (report : Value → Notice) (sql params : Value)
    (reply : Reply) : Run Answer :=
  match NamedBinds.ofValues sql params with
  | .error fault => ⟨[], [], .error fault⟩
  | .ok (text, binds) =>
    ⟨[.ran text binds], noticesOf report sql reply, x.answer operation sql reply⟩

/-- A statement; an engine opens a block around it. -/
def send (x : Executor) (operation : String) (report : Value → Notice) (sql params : Value)
    (reply : Reply) : Run Answer :=
  let body := x.sendOn operation report sql params reply
  if x.isEngine then body.inBlock .begin else body

def gathered (body : Run (List Answer)) : Run Answer :=
  { body with outcome := body.outcome.map .all }

mutual

def run (x : Executor) : Program → Run Answer
  | .query sql params reply => x.send "query" .queryFailed sql params reply
  | .execute sql params reply => x.send "execute" .statementFailed sql params reply
  | .raised fault => ⟨[], [], .error fault⟩
  | .transaction steps => (gathered (runAll x.entered steps)).inBlock x.nextOpening
  | .guarded steps =>
    let body := runAll x steps
    { body with
      outcome := match body.outcome with
        | .ok answers => .ok (.all answers)
        | .error fault => .ok (.caught fault) }

/-- Runs programs one after the other, up to the first fault. -/
def runAll (x : Executor) : List Program → Run (List Answer)
  | [] => ⟨[], [], .ok []⟩
  | step :: rest =>
    let first := run x step
    match first.outcome with
    | .error fault => ⟨first.events, first.notices, .error fault⟩
    | .ok a =>
      let others := runAll (x.after first.events) rest
      ⟨first.events ++ others.events, first.notices ++ others.notices,
        others.outcome.map (a :: ·)⟩

end

end Executor

end ScopedSql.Connection
