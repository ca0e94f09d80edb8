import ScopedSql.Proofs.Number.Display
import ScopedSql.Proofs.Verdict

/-! What a run of operations sends, and what it is given in return.

A recorder takes a statement at a time, and each takes one answer off its own queue. So after any
run the statements are those that its operations were compiled to, in order, and an operation has
the first answer that those before it have left.
-/

set_option autoImplicit false

namespace ScopedSql

namespace Recorder

def countOn (channel : Channel) (sent : List Sent) : Nat :=
  sent.countP fun statement => statement.channel = channel

/-- Statements stay in order, and each takes one answer of its queue. -/
theorem foldl_taking (recorder : Recorder) (sent : List Sent) :
    sent.foldl taking recorder =
      ⟨recorder.sent ++ sent, recorder.rows.drop (countOn .query sent),
        recorder.results.drop (countOn .execute sent)⟩ := by
  induction sent generalizing recorder with
  | nil => simp [countOn]
  | cons statement sent ih =>
    obtain ⟨channel, sql, params⟩ := statement
    rw [List.foldl_cons, ih]
    cases channel with
    | query => simp [taking, countOn, List.drop_tail]
    | execute => simp [taking, countOn, List.drop_tail]

end Recorder

namespace Operation

def sent? (op : Operation) : Option Sent :=
  op.compiled.toOption.map fun s => op.sending s

def after (recorder : Recorder) (ops : List Operation) : Recorder :=
  ops.foldl (fun recorder op => (op.run recorder).recorder) recorder

def sentBy (ops : List Operation) : List Sent :=
  ops.filterMap sent?

theorem sent?_ok {op : Operation} {s : Statement} (compiles : op.compiled = .ok s) :
    op.sent? = some (op.sending s) := by
  rw [sent?, compiles]
  rfl

theorem sent?_error {op : Operation} {fault : Fault} (fails : op.compiled = .error fault) :
    op.sent? = none := by
  rw [sent?, fails]
  rfl

theorem recorder_run (op : Operation) (recorder : Recorder) :
    (op.run recorder).recorder = op.sent?.toList.foldl Recorder.taking recorder := by
  cases compiles : op.compiled with
  | error fault =>
    rw [sent?_error compiles]
    exact (run_error compiles recorder).1
  | ok s =>
    rw [sent?_ok compiles]
    exact (run_ok compiles recorder).1

/-- A run leaves its recorder as if it had only taken the statements that were compiled. -/
theorem after_eq (recorder : Recorder) (ops : List Operation) :
    after recorder ops = (sentBy ops).foldl Recorder.taking recorder := by
  induction ops generalizing recorder with
  | nil => rfl
  | cons op ops ih =>
    have first : op.sent?.toList ++ sentBy ops = sentBy (op :: ops) := by
      cases sent : op.sent? <;> simp [sentBy, sent]
    rw [← first, List.foldl_append, ← recorder_run, ← ih]
    rfl

end Operation

/-! ## Records that are not found -/

-- A table is written under its tenant or as its own name.
theorem Access.isWritable_table {a : Access} {r : Request} {x : Value} {name : Sql}
    (table : a.table r = .ok x) (named : Assembler.nameSql x = .ok name) :
    r.table.isWritable := by
  by_cases names : a.tenancy.namesTables
  · exact (Tenancy.table_eq_ok names table).1
  · rw [Access.table, Tenancy.table, if_neg names] at table
    cases table
    obtain ⟨_, checked, _⟩ := Except.bind_eq_ok.mp named
    exact (Identifier.ofValue_eq_ok.mp checked).1

theorem ScopedCall.isWritable_table {a : Access} {r : Request} {p : Policy} {call : ScopedCall}
    {s : Statement} (compiled : call.statement a r p = .ok s) : r.table.isWritable := by
  rw [statement_eq] at compiled
  obtain ⟨x, table, compiled⟩ := Except.bind_eq_ok.mp compiled
  cases call with
  | select =>
    obtain ⟨_, _, name, _, _, _, named, _⟩ := Assembler.select_eq_ok compiled
    exact Access.isWritable_table table named
  | count =>
    obtain ⟨_, name, _, named, _⟩ := Assembler.count_eq_ok compiled
    exact Access.isWritable_table table named
  | findById id =>
    obtain ⟨_, name, _, named, _⟩ := Assembler.findById_eq_ok compiled
    exact Access.isWritable_table table named
  | update id data =>
    obtain ⟨_, _, compiled⟩ := Except.bind_eq_ok.mp compiled
    obtain ⟨_, _, _, name, _, _, named, _⟩ := Assembler.update_eq_ok compiled
    exact Access.isWritable_table table named
  | delete id =>
    obtain ⟨_, name, _, named, _⟩ := Assembler.delete_eq_ok compiled
    exact Access.isWritable_table table named

/-- Once a change is compiled, only its id can keep the missing record from being told of. -/
theorem Operation.isWritable_recordNotFound {g : Gateway} {r : Request} {call : GatewayCall}
    {id : Value} {s : Statement} (changes : call.changed? = some id)
    (compiles : (onGateway g r call).compiled = .ok s) :
    (Fault.recordNotFound r.table id).isWritable = id.isWritable := by
  have table : r.table.isWritable := by
    obtain ⟨_, _, ran⟩ := Except.bind_eq_ok.mp compiles
    cases call with
    | update id data =>
      obtain ⟨_, _, compiled⟩ := AccessCall.onRows_eq_ok ran
      exact ScopedCall.isWritable_table compiled
    | delete id =>
      obtain ⟨_, _, compiled⟩ := AccessCall.onRows_eq_ok ran
      exact ScopedCall.isWritable_table compiled
    | find | findById | count | insert => cases changes
  simp [Fault.isWritable, Fault.shown, table]

/-- At any point of any run an operation that fails before it sends leaves the recorder as it is;
one that is compiled sends that statement alone, and is answered from the first rows or the first
result that the queries and writes before it have left. A change or removal tells of no record just
if the result that it is given counts none and the id can be written; with an id that is too long
for that, it fails without a verdict. -/
theorem operations_take_answers_in_turn (start : Recorder) (before : List Operation)
    (op : Operation) :
    Operation.after start before =
        ⟨start.sent ++ Operation.sentBy before,
          start.rows.drop (Recorder.countOn .query (Operation.sentBy before)),
          start.results.drop (Recorder.countOn .execute (Operation.sentBy before))⟩ ∧
      (∀ fault, op.compiled = .error fault →
        (op.run (Operation.after start before)).recorder = Operation.after start before ∧
          (op.run (Operation.after start before)).outcome = .error fault) ∧
      (∀ s, op.compiled = .ok s →
        (op.run (Operation.after start before)).recorder =
            (Operation.after start before).taking (op.sending s) ∧
          (op.run (Operation.after start before)).outcome = op.answer s
            (start.rows.getD (Recorder.countOn .query (Operation.sentBy before)) [])
            (start.results.getD (Recorder.countOn .execute (Operation.sentBy before))
              Recorder.standardResult)) ∧
      ∀ g r call id, op = .onGateway g r call → call.changed? = some id →
        g.access.assembler.rules.Quiet →
          (∀ table missing,
            (op.run (Operation.after start before)).outcome =
                .error (.recordNotFound table missing) ↔
              table = r.table ∧ missing = id ∧ (∃ s, op.compiled = .ok s) ∧
                (start.results.getD (Recorder.countOn .execute (Operation.sentBy before))
                  Recorder.standardResult).changes.equal (.int 0) ∧
                id.isWritable) ∧
          ((∃ s, op.compiled = .ok s) →
            (start.results.getD (Recorder.countOn .execute (Operation.sentBy before))
              Recorder.standardResult).changes.equal (.int 0) →
            id.isWritable = false →
              (op.run (Operation.after start before)).outcome = .error (.misuse .unreadable)) := by
  have left := (Operation.after_eq start before).trans (Recorder.foldl_taking start _)
  have answered : ∀ s, op.compiled = .ok s →
      (op.run (Operation.after start before)).outcome = op.answer s
        (start.rows.getD (Recorder.countOn .query (Operation.sentBy before)) [])
        (start.results.getD (Recorder.countOn .execute (Operation.sentBy before))
          Recorder.standardResult) := by
    intro s compiles
    have next := (Operation.run_ok compiles (Operation.after start before)).2
    rw [left] at next ⊢
    simpa [List.headD_eq_head?_getD, List.getD_eq_getElem?_getD] using next
  refine ⟨left, fun fault fails => Operation.run_error fails _, fun s compiles =>
    ⟨(Operation.run_ok compiles _).1, answered s compiles⟩, ?_⟩
  rintro g r call id rfl changes quiet
  refine ⟨fun table missing => ?_, ?_⟩
  · have verdict : (Fault.recordNotFound table missing).isVerdict := rfl
    cases compiles : (Operation.onGateway g r call).compiled with
    | error fault =>
      rw [(Operation.run_error compiles _).2]
      constructor
      · intro same
        cases same
        -- before a statement is sent, a denial is the only verdict
        cases ((Operation.compiled_verdict quiet r call verdict).mp compiles).2
      · rintro ⟨_, _, ⟨s, other⟩, _⟩
        cases other
    | ok s =>
      have shown := Operation.isWritable_recordNotFound changes compiles
      rw [answered s compiles, Operation.answer, GatewayCall.answer_verdict verdict, changes]
      constructor
      · rintro ⟨_, same, zero, writable, fault⟩
        cases same
        cases fault
        exact ⟨rfl, rfl, ⟨s, rfl⟩, zero, shown ▸ writable⟩
      · rintro ⟨rfl, rfl, _, zero, writable⟩
        exact ⟨_, rfl, zero, shown.trans writable, rfl⟩
  · rintro ⟨s, compiles⟩ zero long
    have shown := Operation.isWritable_recordNotFound changes compiles
    rw [answered s compiles, Operation.answer]
    exact GatewayCall.answer_of_unwritable changes zero (shown.trans long)

/-- The count before it takes rows, so the update has the first result, which counts none. -/
theorem update_behind_count_finds_no_record :
    ((Operation.onGateway ⟨.make .sqlite .none ⟨.empty, none⟩, false⟩
          ⟨.text "t", [], .empty, .null, .empty, [], .text "id"⟩
          (.update (.int 7) (.dict [(.text "a", .int 1)]))).run
        (Operation.after ⟨[], [[[(.text "count", .int 3)]]], [⟨.int 0, .null⟩, ⟨.int 1, .null⟩]⟩
          [.onGateway ⟨.make .sqlite .none ⟨.empty, none⟩, false⟩
            ⟨.text "t", [], .empty, .null, .empty, [], .text "id"⟩ .count])).outcome =
      .error (.recordNotFound (.text "t") (.int 7)) := by
  obtain ⟨_, _, _, finds⟩ := operations_take_answers_in_turn
    ⟨[], [[[(.text "count", .int 3)]]], [⟨.int 0, .null⟩, ⟨.int 1, .null⟩]⟩
    [.onGateway ⟨.make .sqlite .none ⟨.empty, none⟩, false⟩
      ⟨.text "t", [], .empty, .null, .empty, [], .text "id"⟩ .count]
    (.onGateway ⟨.make .sqlite .none ⟨.empty, none⟩, false⟩
      ⟨.text "t", [], .empty, .null, .empty, [], .text "id"⟩
      (.update (.int 7) (.dict [(.text "a", .int 1)])))
  have compiles : (Operation.onGateway ⟨.make .sqlite .none ⟨.empty, none⟩, false⟩
      ⟨.text "t", [], .empty, .null, .empty, [], .text "id"⟩
      (.update (.int 7) (.dict [(.text "a", .int 1)]))).compiled =
        .ok ⟨"UPDATE \"t\" SET \"a\" = ? WHERE \"id\" = ?", [.int 1, .int 7], .update, .text "t",
          .text "id", .bool false⟩ := by
    cbv
  exact ((finds _ _ _ _ rfl rfl RuleTable.standard_quiet).1 (.text "t") (.int 7)).mpr
    ⟨rfl, rfl, ⟨_, compiles⟩, by cbv, by decide⟩

/-- A removal that changes nothing, of an id with one digit more than can be written: the statement
is sent, and no record is told of. -/
theorem removal_of_long_id_tells_of_no_record :
    (Operation.onGateway ⟨.make .sqlite .none ⟨.empty, none⟩, false⟩
        ⟨.text "t", [], .empty, .null, .empty, [], .text "id"⟩
        (.delete (.int (10 ^ Numeral.digitLimit)))).compiled =
      .ok ⟨"DELETE FROM \"t\" WHERE \"id\" = ?", [.int (10 ^ Numeral.digitLimit)], .delete,
        .text "t", .text "id", .bool false⟩ ∧
    ((Operation.onGateway ⟨.make .sqlite .none ⟨.empty, none⟩, false⟩
        ⟨.text "t", [], .empty, .null, .empty, [], .text "id"⟩
        (.delete (.int (10 ^ Numeral.digitLimit)))).run ⟨[], [], [⟨.int 0, .null⟩]⟩).outcome =
      .error (.misuse .unreadable) := by
  have long : (Value.int (10 ^ Numeral.digitLimit)).isWritable = false :=
    Numeral.isShort_limit
  generalize Value.int (10 ^ Numeral.digitLimit) = id at long
  have present : id ≠ .null := by
    rintro rfl
    cases long
  have compiles : (Operation.onGateway ⟨.make .sqlite .none ⟨.empty, none⟩, false⟩
      ⟨.text "t", [], .empty, .null, .empty, [], .text "id"⟩ (.delete id)).compiled =
        .ok ⟨"DELETE FROM \"t\" WHERE \"id\" = ?", [id], .delete, .text "t", .text "id",
          .bool false⟩ := by
    cases id <;> first | exact absurd rfl present | cbv
  have changes : (GatewayCall.delete id).changed? = some id := rfl
  have zero : (WriteResult.mk (.int 0) .null).changes.equal (.int 0) := by cbv
  refine ⟨compiles, ?_⟩
  rw [(Operation.run_ok compiles _).2, Operation.answer, List.headD_cons]
  exact GatewayCall.answer_of_unwritable changes zero
    ((Operation.isWritable_recordNotFound changes compiles).trans long)

end ScopedSql
