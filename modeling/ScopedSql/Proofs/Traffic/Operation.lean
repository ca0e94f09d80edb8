import ScopedSql.Proofs.Access.Calls
import ScopedSql.Traffic.Gateway

/-! Operations over one recorder: calls of gateways, and questions to queries.

An operation is compiled before anything is sent. If that fails the recorder stays as it is;
otherwise it takes the one statement that was compiled, and gives the rows or the result for the
answer.
-/

set_option autoImplicit false

namespace ScopedSql

/-! ## Calls -/

inductive GatewayCall where
  | find
  | findById (id : Value)
  | count
  | insert (data : Value)
  | update (id data : Value)
  | delete (id : Value)

inductive QueryCall where
  | get
  | first
  | count

inductive Answer where
  | rows (rows : List Dict)
  | record (found : Option Dict)
  | number (n : Int)
  | done

def Ran.map {α β : Type} (f : α → β) (ran : Ran α) : Ran β :=
  ⟨ran.recorder, ran.notices, ran.outcome.map f⟩

namespace GatewayCall

def run (g : Gateway) (r : Request) (recorder : Recorder) : GatewayCall → Ran Answer
  | find => (g.find r recorder).map .rows
  | findById id => (g.findById r id recorder).map .record
  | count => (g.count r recorder).map .number
  | insert data => (g.insert r data recorder).map fun record => .record (some record)
  | update id data => (g.update r id data recorder).map fun record => .record (some record)
  | delete id => (g.delete r id recorder).map fun _ => .done

def accessCall : GatewayCall → AccessCall
  | find => .onRows .select none
  | findById id => .onRows (.findById id) none
  | count => .onRows .count none
  | insert data => .insert data
  | update id data => .onRows (.update id data) none
  | delete id => .onRows (.delete id) none

/-- How the statement is sent: a new row that is returned comes as the rows of a query. -/
def channel (s : Statement) : GatewayCall → Channel
  | find | findById _ | count => .query
  | insert _ => if s.returnsRow then .query else .execute
  | update .. | delete _ => .execute

def insertedRow (r : Request) (s : Statement) (data : Value) (rows : List Dict)
    (result : WriteResult) : Except Fault Dict :=
  if s.returnsRow then
    match rows with
    | row :: _ => .ok row
    | [] => Dict.ofValue data
  else do Gateway.insertedRecord r (← Dict.ofValue data) result

def updatedRow (r : Request) (id data : Value) (result : WriteResult) : Except Fault Dict := do
  Gateway.requireChange r id result
  let data ← Dict.ofValue data
  return data.foldl (fun record entry => Dict.put entry.1 entry.2 record) [(r.idColumn, id)]

def answer (r : Request) (s : Statement) (rows : List Dict) (result : WriteResult) :
    GatewayCall → Except Fault Answer
  | find => .ok (.rows rows)
  | findById _ => .ok (.record rows.head?)
  | count => (Gateway.countOf rows).map .number
  | insert data => (insertedRow r s data rows result).map fun record => .record (some record)
  | update id data => (updatedRow r id data result).map fun record => .record (some record)
  | delete id => (Gateway.requireChange r id result).map fun _ => .done

end GatewayCall

namespace QueryCall

def run (a : Access) (q : Query) (recorder : Recorder) : QueryCall → Ran Answer
  | get => (q.get a (some recorder)).map .rows
  | first => (q.first a (some recorder)).map .record
  | count => (q.count a (some recorder)).map .number

def accessCall : QueryCall → AccessCall
  | get | first => .onRows .select none
  | count => .onRows .count none

/-- The request that the question is compiled for: the first row is asked for with a limit. -/
def request (q : Query) : QueryCall → Except Fault Request
  | get | count => q.toRequest
  | first => { q with options := { q.options with limit := some 1 } }.toRequest

def answer (rows : List Dict) : QueryCall → Except Fault Answer
  | get => .ok (.rows rows)
  | first => .ok (.record rows.head?)
  | count => (Gateway.countOf rows).map .number

end QueryCall

/-! ## Operations -/

inductive Operation where
  | onGateway (g : Gateway) (r : Request) (call : GatewayCall)
  | onQuery (a : Access) (q : Query) (call : QueryCall)

def Recorder.taking (recorder : Recorder) (sent : Sent) : Recorder :=
  match sent.channel with
  | .query => { recorder with sent := recorder.sent ++ [sent], rows := recorder.rows.tail }
  | .execute => { recorder with sent := recorder.sent ++ [sent], results := recorder.results.tail }

namespace Operation

def run (recorder : Recorder) : Operation → Ran Answer
  | onGateway g r call => call.run g r recorder
  | onQuery a q call => call.run a q recorder

/-- What scoped access compiles for the operation; a gateway asks for the policy first. -/
def compiled : Operation → Except Fault Statement
  | onGateway g r call => do
    let _ ← (g.policy r).outcome
    (call.accessCall.run g.access r).outcome
  | onQuery a q call => do (call.accessCall.run a (← call.request q)).outcome

def sending (s : Statement) : Operation → Sent
  | onGateway _ _ call => ⟨call.channel s, .text s.sql, s.params⟩
  | onQuery .. => ⟨.query, .text s.sql, s.params⟩

def answer (s : Statement) (rows : List Dict) (result : WriteResult) :
    Operation → Except Fault Answer
  | onGateway _ r call => call.answer r s rows result
  | onQuery _ _ call => call.answer rows

end Operation

/-! ## One operation -/

namespace Ran

variable {α β γ : Type} {compiled : Traced α} {recorder : Recorder}
  {send : α → Recorder → Ran β} {f : β → γ}

theorem outcome_sendQuery (sql : Value) (params : List Value) (shape : List Dict → Traced β)
    (recorder : Recorder) :
    (sendQuery sql params shape recorder).outcome = (shape (recorder.rows.headD [])).outcome := rfl

theorem outcome_sendWrite (sql : Value) (params : List Value) (shape : WriteResult → Traced β)
    (recorder : Recorder) :
    (sendWrite sql params shape recorder).outcome =
      (shape (recorder.results.headD Recorder.standardResult)).outcome := rfl

theorem map_afterCompiling_ok {a : α} (compiles : compiled.outcome = .ok a) :
    ((afterCompiling compiled recorder send).map f).recorder = (send a recorder).recorder ∧
      ((afterCompiling compiled recorder send).map f).outcome =
        (send a recorder).outcome.map f := by
  rw [afterCompiling, compiles]
  exact ⟨rfl, rfl⟩

theorem map_afterCompiling_error {fault : Fault} (fails : compiled.outcome = .error fault) :
    ((afterCompiling compiled recorder send).map f).recorder = recorder ∧
      ((afterCompiling compiled recorder send).map f).outcome = .error fault := by
  rw [afterCompiling, fails]
  exact ⟨rfl, rfl⟩

end Ran

namespace Gateway

theorem policy_outcome (g : Gateway) (r : Request) :
    (g.policy r).outcome = (g.access.policy r).outcome >>= fun p =>
      if g.deniesUnmatched && !p.isMatched && !g.access.resolver.table.entries.isEmpty then
        .error (.policyMismatch (.list (r.context.roles.map .text)))
      else .ok p := by
  rw [policy, Traced.outcome_bind]
  show (g.access.policy r).outcome >>= _ = _
  congr 1
  funext p
  dsimp only
  split
  · rfl
  · rfl

theorem policy_eq_ok {g : Gateway} {r : Request} {p : Policy}
    (known : (g.policy r).outcome = .ok p) : (g.access.policy r).outcome = .ok p := by
  rw [policy_outcome, Except.bind_eq_ok] at known
  obtain ⟨p', resolved, kept⟩ := known
  split at kept
  · cases kept
  · cases kept
    exact resolved

-- A call whose policy the gateway accepts is compiled under that policy.
theorem compiled_outcome (g : Gateway) (r : Request) (call : ScopedCall) :
    (g.compiled r (call.statement g.access r ·)).outcome =
      (g.policy r).outcome >>= fun _ => (call.run g.access r).outcome := by
  rw [compiled, Traced.outcome_bind]
  cases known : (g.policy r).outcome with
  | error fault => rfl
  | ok p =>
    show (Statement.reported (call.statement g.access r p)).outcome = (call.run g.access r).outcome
    rw [ScopedCall.run, Traced.outcome_bind, policy_eq_ok known]
    rfl

theorem compiled_insert_outcome (g : Gateway) (r : Request) (data : Value) :
    (g.compiled r fun _ => g.access.insert r data).outcome =
      (g.policy r).outcome >>= fun _ => ((AccessCall.insert data).run g.access r).outcome := by
  rw [compiled, Traced.outcome_bind]
  rfl

end Gateway

namespace GatewayCall

variable {g : Gateway} {r : Request} {call : GatewayCall}

theorem run_ok {s : Statement} (compiles : (Operation.onGateway g r call).compiled = .ok s)
    (recorder : Recorder) :
    (call.run g r recorder).recorder =
        recorder.taking ⟨call.channel s, .text s.sql, s.params⟩ ∧
      (call.run g r recorder).outcome =
        call.answer r s (recorder.rows.headD [])
          (recorder.results.headD Recorder.standardResult) := by
  cases call with
  | find => exact Ran.map_afterCompiling_ok ((g.compiled_outcome r .select).trans compiles)
  | findById id =>
    exact Ran.map_afterCompiling_ok ((g.compiled_outcome r (.findById id)).trans compiles)
  | count => exact Ran.map_afterCompiling_ok ((g.compiled_outcome r .count).trans compiles)
  | insert data =>
    obtain ⟨taken, answered⟩ :=
      Ran.map_afterCompiling_ok ((g.compiled_insert_outcome r data).trans compiles)
    refine ⟨taken.trans ?_, answered.trans ?_⟩
    · rw [channel]
      split
      · rfl
      · rfl
    · rw [answer]
      unfold insertedRow
      split
      · rw [Ran.outcome_sendQuery]
        cases recorder.rows.headD [] <;> rfl
      · rfl
  | update id data =>
    exact Ran.map_afterCompiling_ok ((g.compiled_outcome r (.update id data)).trans compiles)
  | delete id =>
    obtain ⟨taken, answered⟩ :=
      Ran.map_afterCompiling_ok ((g.compiled_outcome r (.delete id)).trans compiles)
    refine ⟨taken, answered.trans ?_⟩
    rw [answer, Ran.outcome_sendWrite, Traced.outcome_bind]
    show Except.map _ (Except.bind (Gateway.requireChange r id _) _) = _
    cases Gateway.requireChange r id (recorder.results.headD Recorder.standardResult) <;> rfl

theorem run_error {fault : Fault}
    (fails : (Operation.onGateway g r call).compiled = .error fault) (recorder : Recorder) :
    (call.run g r recorder).recorder = recorder ∧
      (call.run g r recorder).outcome = .error fault := by
  cases call with
  | find => exact Ran.map_afterCompiling_error ((g.compiled_outcome r .select).trans fails)
  | findById id =>
    exact Ran.map_afterCompiling_error ((g.compiled_outcome r (.findById id)).trans fails)
  | count => exact Ran.map_afterCompiling_error ((g.compiled_outcome r .count).trans fails)
  | insert data =>
    exact Ran.map_afterCompiling_error ((g.compiled_insert_outcome r data).trans fails)
  | update id data =>
    exact Ran.map_afterCompiling_error ((g.compiled_outcome r (.update id data)).trans fails)
  | delete id =>
    exact Ran.map_afterCompiling_error ((g.compiled_outcome r (.delete id)).trans fails)

end GatewayCall

/-! ## One question to a query -/

namespace Query

theorem toStatement_outcome (a : Access) (q : Query) :
    (q.toStatement a).outcome = q.toRequest >>= fun r => (ScopedCall.select.run a r).outcome := by
  rw [toStatement, Traced.outcome_bind]
  rfl

theorem toCountStatement_outcome (a : Access) (q : Query) :
    (q.toCountStatement a).outcome =
      q.toRequest >>= fun r => (ScopedCall.count.run a r).outcome := by
  rw [toCountStatement, Traced.outcome_bind]
  rfl

variable {compiled : Traced Statement} {recorder : Recorder}

theorem sendable_ok {s : Statement} (compiles : compiled.outcome = .ok s) :
    (sendable (some recorder) compiled).outcome = .ok (s, recorder) := by
  rw [sendable, Traced.outcome_bind, compiles]
  rfl

theorem sendable_error {fault : Fault} (fails : compiled.outcome = .error fault) :
    (sendable (some recorder) compiled).outcome = .error fault := by
  rw [sendable, Traced.outcome_bind, fails]
  rfl

end Query

namespace QueryCall

variable {a : Access} {q : Query} {call : QueryCall}

theorem run_ok {s : Statement} (compiles : (Operation.onQuery a q call).compiled = .ok s)
    (recorder : Recorder) :
    (call.run a q recorder).recorder = recorder.taking ⟨.query, .text s.sql, s.params⟩ ∧
      (call.run a q recorder).outcome = call.answer (recorder.rows.headD []) := by
  cases call with
  | get =>
    exact Ran.map_afterCompiling_ok
      (Query.sendable_ok ((Query.toStatement_outcome a q).trans compiles))
  | first =>
    exact Ran.map_afterCompiling_ok
      (Query.sendable_ok ((Query.toStatement_outcome a _).trans compiles))
  | count =>
    exact Ran.map_afterCompiling_ok
      (Query.sendable_ok ((Query.toCountStatement_outcome a q).trans compiles))

theorem run_error {fault : Fault} (fails : (Operation.onQuery a q call).compiled = .error fault)
    (recorder : Recorder) :
    (call.run a q recorder).recorder = recorder ∧
      (call.run a q recorder).outcome = .error fault := by
  cases call with
  | get =>
    exact Ran.map_afterCompiling_error
      (Query.sendable_error ((Query.toStatement_outcome a q).trans fails))
  | first =>
    exact Ran.map_afterCompiling_error
      (Query.sendable_error ((Query.toStatement_outcome a _).trans fails))
  | count =>
    exact Ran.map_afterCompiling_error
      (Query.sendable_error ((Query.toCountStatement_outcome a q).trans fails))

end QueryCall

namespace Operation

variable {op : Operation}

/-- An operation that is compiled sends its statement once and answers from the next rows or the
next result. -/
theorem run_ok {s : Statement} (compiles : op.compiled = .ok s) (recorder : Recorder) :
    (op.run recorder).recorder = recorder.taking (op.sending s) ∧
      (op.run recorder).outcome =
        op.answer s (recorder.rows.headD []) (recorder.results.headD Recorder.standardResult) := by
  cases op with
  | onGateway g r call => exact GatewayCall.run_ok compiles recorder
  | onQuery a q call => exact QueryCall.run_ok compiles recorder

theorem run_error {fault : Fault} (fails : op.compiled = .error fault) (recorder : Recorder) :
    (op.run recorder).recorder = recorder ∧ (op.run recorder).outcome = .error fault := by
  cases op with
  | onGateway g r call => exact GatewayCall.run_error fails recorder
  | onQuery a q call => exact QueryCall.run_error fails recorder

end Operation

end ScopedSql
