import ScopedSql.Query
import ScopedSql.Traffic.Recorder

/-!
The gateway of entities: compiles a scoped statement, sends it, and shapes the answer. An update or
a removal that changes no row finds no record, so a row out of the caller's scope cannot be told
from a missing one. A gateway may deny callers none of whose roles is configured.
-/

set_option autoImplicit false

namespace ScopedSql

structure Gateway where
  access : Access
  deniesUnmatched : Bool

namespace Gateway

def policy (g : Gateway) (r : Request) : Traced Policy := do
  let p ← g.access.policy r
  if g.deniesUnmatched && !p.isMatched && !g.access.resolver.table.entries.isEmpty then
    Traced.report (.denied r.table r.context.roles)
    throw (.policyMismatch (.list (r.context.roles.map .text)))
  return p

def compiled (g : Gateway) (r : Request) (compile : Policy → Except Fault Statement) :
    Traced Statement := do
  let p ← g.policy r
  Statement.reported (compile p)

/-- The count of a row of counts; no rows count as zero. -/
def countOf (rows : List Dict) : Except Fault Int :=
  match rows with
  | [] => .ok 0
  | row :: _ =>
    match row.at? "count" with
    | some x => x.toInt
    | none => Value.misused .missingKey

def requireChange (r : Request) (id : Value) (result : WriteResult) : Except Fault Unit :=
  if result.changes.equal (.int 0) then .error (Fault.recordNotFound r.table id).raised else .ok ()

def find (g : Gateway) (r : Request) : Recorder → Ran (List Dict) := fun recorder =>
  Ran.afterCompiling (g.compiled r (g.access.select r)) recorder fun s =>
    Ran.sendQuery (.text s.sql) s.params fun rows => pure rows

def findById (g : Gateway) (r : Request) (id : Value) : Recorder → Ran (Option Dict) :=
  fun recorder =>
    Ran.afterCompiling (g.compiled r (g.access.findById r id)) recorder fun s =>
      Ran.sendQuery (.text s.sql) s.params fun rows => pure rows.head?

def count (g : Gateway) (r : Request) : Recorder → Ran Int := fun recorder =>
  Ran.afterCompiling (g.compiled r (g.access.count r)) recorder fun s =>
    Ran.sendQuery (.text s.sql) s.params fun rows => Traced.ofExcept (countOf rows)

/-- The record of a new row: the payload, and the generated id if it has none. -/
def insertedRecord (r : Request) (data : Dict) (result : WriteResult) : Except Fault Dict :=
  match result.lastInsertId with
  | .null => .ok data
  | id =>
    if !r.idColumn.isKey then Value.misused .wrongType
    else if data.has r.idColumn then .ok data
    else .ok (Dict.put r.idColumn id data)

/-- A new row; the answer is the row that the statement returns, or else the payload. -/
def insert (g : Gateway) (r : Request) (data : Value) : Recorder → Ran Dict := fun recorder =>
  Ran.afterCompiling (g.compiled r fun _ => g.access.insert r data) recorder fun s =>
    if s.returnsRow then
      Ran.sendQuery (.text s.sql) s.params fun rows =>
        match rows with
        | row :: _ => pure row
        | [] => Traced.ofExcept (Dict.ofValue data)
    else
      Ran.sendWrite (.text s.sql) s.params fun result =>
        Traced.ofExcept do insertedRecord r (← Dict.ofValue data) result

/-- New values for the record of an id; the answer is the id with the payload. -/
def update (g : Gateway) (r : Request) (id data : Value) : Recorder → Ran Dict :=
  fun recorder =>
    Ran.afterCompiling (g.compiled r (g.access.update r id data)) recorder fun s =>
      Ran.sendWrite (.text s.sql) s.params fun result => Traced.ofExcept do
        requireChange r id result
        let data ← Dict.ofValue data
        return data.foldl (fun record entry => Dict.put entry.1 entry.2 record)
          [(r.idColumn, id)]

def delete (g : Gateway) (r : Request) (id : Value) : Recorder → Ran Unit := fun recorder =>
  Ran.afterCompiling (g.compiled r (g.access.delete r id)) recorder fun s =>
    Ran.sendWrite (.text s.sql) s.params fun result => do
      requireChange r id result
      Traced.report (.deleted r.table id)

def withResolver (g : Gateway) (resolver : Resolver) : Gateway :=
  { g with access := { g.access with resolver } }

end Gateway

namespace Query

/-- A compiled statement that can be sent, if there is an executor to send it to. -/
def sendable (recorder : Option Recorder) (compiled : Traced Statement) :
    Traced (Statement × Recorder) := do
  let s ← compiled
  match recorder with
  | some r => return (s, r)
  | none => throw (.invalid .noExecutor)

def run {α : Type} (recorder : Option Recorder) (compiled : Traced Statement)
    (shape : List Dict → Traced α) : Ran α :=
  Ran.afterCompiling (sendable recorder compiled) (recorder.getD .empty) fun (s, _) =>
    Ran.sendQuery (.text s.sql) s.params shape

def get (a : Access) (q : Query) (recorder : Option Recorder) : Ran (List Dict) :=
  run recorder (q.toStatement a) fun rows => pure rows

def first (a : Access) (q : Query) (recorder : Option Recorder) : Ran (Option Dict) :=
  run recorder (toStatement a { q with options := { q.options with limit := some 1 } })
    fun rows => pure rows.head?

def count (a : Access) (q : Query) (recorder : Option Recorder) : Ran Int :=
  run recorder (q.toCountStatement a) fun rows => Traced.ofExcept (Gateway.countOf rows)

end Query

end ScopedSql
