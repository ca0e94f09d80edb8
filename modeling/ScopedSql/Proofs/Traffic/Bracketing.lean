import ScopedSql.Proofs.Outcome
import ScopedSql.Traffic.Connection

/-! Blocks of programs over a connection.

The events of a run open and close blocks like brackets. The run is followed with the blocks that
are open, innermost first: each program leaves them as it found them, since what it opens it also
closes. A connection with an open block is in a transaction, so a block inside another one is a
savepoint.
-/

set_option autoImplicit false

namespace ScopedSql.Connection

/-! ## Open blocks -/

/-- The blocks that are open after an event, innermost first. A transaction begins only where no
block is open, and only the innermost block is closed. -/
def blocksAfter? (blocks : List Opening) : Event → Option (List Opening)
  | .opened .begin => if blocks.isEmpty then some [.begin] else none
  | .opened .savepoint => some (.savepoint :: blocks)
  | .committed opening | .rolledBack opening =>
    match blocks with
    | innermost :: outer => if innermost = opening then some outer else none
    | [] => none
  | .ran .. => some blocks

def openAfter? (blocks : List Opening) (events : List Event) : Option (List Opening) :=
  events.foldlM blocksAfter? blocks

theorem openAfter?_nil (blocks : List Opening) : openAfter? blocks [] = some blocks := rfl

theorem openAfter?_cons (blocks : List Opening) (event : Event) (events : List Event) :
    openAfter? blocks (event :: events) =
      (blocksAfter? blocks event).bind fun next => openAfter? next events := rfl

theorem openAfter?_append (blocks : List Opening) (events more : List Event) :
    openAfter? blocks (events ++ more) =
      (openAfter? blocks events).bind fun next => openAfter? next more := by
  unfold openAfter?
  rw [List.foldlM_append]
  rfl

theorem openAfter?_closing {α : Type} (blocks : List Opening) (opening : Opening)
    (body : Run α) : openAfter? (opening :: blocks) [body.closing opening] = some blocks := by
  unfold Run.closing
  cases body.outcome <;> simp [openAfter?, blocksAfter?]

/-- A block leaves the open ones as they were if its body does. -/
theorem openAfter?_inBlock {α : Type} {blocks : List Opening} {opening : Opening} {body : Run α}
    (opened : blocksAfter? blocks (.opened opening) = some (opening :: blocks))
    (kept : openAfter? (opening :: blocks) body.events = some (opening :: blocks)) :
    openAfter? blocks (body.inBlock opening).events = some blocks := by
  change openAfter? blocks (.opened opening :: (body.events ++ [body.closing opening])) = _
  rw [openAfter?_cons, opened, Option.bind_some, openAfter?_append, kept, Option.bind_some,
    openAfter?_closing]

theorem Run.closing_eq {α : Type} (body : Run α) (opening : Opening) :
    body.closing opening =
      if body.outcome.isOk then .committed opening else .rolledBack opening := by
  unfold Run.closing
  cases body.outcome <;> rfl

theorem Run.closing_ne_opened {α : Type} (body : Run α) (outer opening : Opening) :
    body.closing outer ≠ .opened opening := by
  unfold Run.closing
  cases body.outcome <;> simp

theorem Run.opened_inBlock {α : Type} {body : Run α} {outer opening : Opening}
    {before rest : List Event}
    (same : (body.inBlock outer).events = before ++ .opened opening :: rest) :
    (before = [] ∧ outer = opening) ∨ ∃ within behind,
      before = .opened outer :: within ∧ body.events = within ++ .opened opening :: behind := by
  change .opened outer :: (body.events ++ [body.closing outer]) = _ at same
  cases before with
  | nil =>
    obtain ⟨opened, _⟩ := List.cons.inj same
    exact .inl ⟨rfl, Event.opened.inj opened⟩
  | cons event within =>
    obtain ⟨head, tail⟩ := List.cons.inj same
    right
    rcases List.eq_nil_or_concat rest with rfl | ⟨behind, last, rfl⟩
    · obtain ⟨_, closed⟩ := List.append_inj' tail rfl
      exact absurd (List.singleton_inj.mp closed) (body.closing_ne_opened outer opening)
    · have split : body.events ++ [body.closing outer] =
          (within ++ .opened opening :: behind) ++ [last] := by
        simpa using tail
      exact ⟨within, behind, by rw [head], (List.append_inj' split rfl).1⟩

namespace Executor

/-- A connection that has an open block says that it is in a transaction. -/
def TellsOpen (x : Executor) : Prop :=
  ∀ seen innermost outer, openAfter? [] seen = some (innermost :: outer) → x.inTransaction seen

/-- These blocks are open on the executor's connection; an engine has none of its own. -/
def StandsIn (x : Executor) (blocks : List Opening) : Prop :=
  if x.isEngine then blocks = [] else openAfter? [] x.seen = some blocks

variable {x : Executor} {blocks : List Opening}

theorem TellsOpen.entered (tells : x.TellsOpen) : x.entered.TellsOpen := tells

theorem TellsOpen.after (tells : x.TellsOpen) (events : List Event) :
    (x.after events).TellsOpen := by
  unfold Executor.after
  split
  · exact tells
  · exact tells

theorem nextOpening_eq_savepoint_iff :
    x.nextOpening = .savepoint ↔ ¬ x.isEngine ∧ x.inTransaction x.seen := by
  unfold nextOpening
  cases x.isEngine <;> cases x.inTransaction x.seen <;> simp

theorem nextOpening_of_open (tells : x.TellsOpen) (stands : x.StandsIn blocks)
    (within : blocks ≠ []) : x.nextOpening = .savepoint := by
  unfold StandsIn at stands
  split at stands
  · exact absurd stands within
  · next connection =>
    obtain ⟨innermost, outer, rfl⟩ := List.exists_cons_of_ne_nil within
    exact nextOpening_eq_savepoint_iff.mpr ⟨connection, tells _ _ _ stands⟩

theorem blocksAfter?_nextOpening (tells : x.TellsOpen) (stands : x.StandsIn blocks) :
    blocksAfter? blocks (.opened x.nextOpening) = some (x.nextOpening :: blocks) := by
  by_cases none : blocks = []
  · subst none
    cases x.nextOpening <;> rfl
  · rw [nextOpening_of_open tells stands none]
    rfl

theorem StandsIn.entered (tells : x.TellsOpen) (stands : x.StandsIn blocks) :
    x.entered.StandsIn (x.nextOpening :: blocks) := by
  have opened := blocksAfter?_nextOpening tells stands
  unfold StandsIn at stands
  change openAfter? [] ((if x.isEngine then [] else x.seen) ++ [.opened x.nextOpening]) = _
  rw [openAfter?_append]
  split at stands
  · next engine =>
    subst stands
    rw [if_pos engine, openAfter?_nil, Option.bind_some, openAfter?_cons, opened]
    rfl
  · next connection =>
    rw [if_neg connection, stands, Option.bind_some, openAfter?_cons, opened]
    rfl

theorem StandsIn.after (stands : x.StandsIn blocks) {events : List Event}
    (kept : openAfter? blocks events = some blocks) : (x.after events).StandsIn blocks := by
  unfold Executor.after StandsIn at *
  split at stands
  · next engine => rwa [if_pos engine, if_pos engine]
  · next connection =>
    rw [if_neg connection, if_neg connection, openAfter?_append, stands, Option.bind_some, kept]

/-! ## What is open after a run -/

theorem sendOn_kept (x : Executor) (blocks : List Opening) (operation : String)
    (report : Value → Notice) (sql params : Value) (reply : Reply) :
    openAfter? blocks (x.sendOn operation report sql params reply).events = some blocks := by
  unfold sendOn
  split <;> rfl

theorem send_kept (stands : x.StandsIn blocks) (operation : String) (report : Value → Notice)
    (sql params : Value) (reply : Reply) :
    openAfter? blocks (x.send operation report sql params reply).events = some blocks := by
  unfold send
  unfold StandsIn at stands
  split at stands
  · next engine =>
    subst stands
    rw [if_pos engine]
    exact openAfter?_inBlock rfl (x.sendOn_kept ..)
  · next connection =>
    rw [if_neg connection]
    exact x.sendOn_kept ..

theorem transaction_kept (tells : x.TellsOpen) (stands : x.StandsIn blocks)
    {steps : List Program}
    (kept : openAfter? (x.nextOpening :: blocks) (x.entered.runAll steps).events =
      some (x.nextOpening :: blocks)) :
    openAfter? blocks (x.run (.transaction steps)).events = some blocks := by
  rw [run]
  exact openAfter?_inBlock (blocksAfter?_nextOpening tells stands) kept

theorem runAll_cons_ok {step : Program} {a : Answer} (ran : (x.run step).outcome = .ok a)
    (rest : List Program) :
    (x.runAll (step :: rest)).events =
        (x.run step).events ++ ((x.after (x.run step).events).runAll rest).events ∧
      (x.runAll (step :: rest)).outcome =
        ((x.after (x.run step).events).runAll rest).outcome.map (a :: ·) := by
  simp only [runAll, ran, and_self]

theorem runAll_cons_error {step : Program} {fault : Fault}
    (fails : (x.run step).outcome = .error fault) (rest : List Program) :
    (x.runAll (step :: rest)).events = (x.run step).events ∧
      (x.runAll (step :: rest)).outcome = .error fault := by
  simp only [runAll, fails, and_self]

-- By the structure of programs. The invariant is `StandsIn`: it goes into a block with the block on
-- top, and from one program to the next as it is.
mutual

/-- A program leaves the blocks that are open as it finds them. -/
theorem run_kept : ∀ (p : Program) {x : Executor} {blocks : List Opening}, x.TellsOpen →
    x.StandsIn blocks → openAfter? blocks (x.run p).events = some blocks
  | .query sql params reply, _, _, _, stands => by
    rw [run]
    exact send_kept stands ..
  | .execute sql params reply, _, _, _, stands => by
    rw [run]
    exact send_kept stands ..
  | .raised fault, _, _, _, _ => by
    rw [run]
    rfl
  | .transaction steps, _, _, tells, stands =>
    transaction_kept tells stands (runAll_kept steps tells.entered (stands.entered tells))
  | .guarded steps, _, _, tells, stands => by
    rw [run]
    exact runAll_kept steps tells stands

theorem runAll_kept : ∀ (steps : List Program) {x : Executor} {blocks : List Opening},
    x.TellsOpen → x.StandsIn blocks → openAfter? blocks (x.runAll steps).events = some blocks
  | [], _, _, _, _ => by
    rw [runAll]
    rfl
  | step :: rest, x, blocks, tells, stands => by
    have first := run_kept step tells stands
    cases ran : (x.run step).outcome with
    | error fault => rw [(runAll_cons_error ran rest).1, first]
    | ok a =>
      rw [(runAll_cons_ok ran rest).1, openAfter?_append, first, Option.bind_some]
      exact runAll_kept rest (tells.after _) (stands.after first)

end

/-! ## The programs that a run comes to -/

/-- Running some steps on an executor comes to a program on another one, behind some events. -/
inductive Reaches : Executor → List Program → List Event → Executor → Program → Prop where
  | first (x : Executor) (step : Program) (rest : List Program) :
      Reaches x (step :: rest) [] x step
  | later {x y : Executor} {step p : Program} {rest : List Program} {before : List Event}
      {a : Answer} (ran : (x.run step).outcome = .ok a)
      (reached : Reaches (x.after (x.run step).events) rest before y p) :
      Reaches x (step :: rest) ((x.run step).events ++ before) y p
  | inBlock {x y : Executor} {steps : List Program} {p : Program} {before : List Event}
      (reached : Reaches x.entered steps before y p) (rest : List Program) :
      Reaches x (.transaction steps :: rest) (.opened x.nextOpening :: before) y p
  | guarded {x y : Executor} {steps : List Program} {p : Program} {before : List Event}
      (reached : Reaches x steps before y p) (rest : List Program) :
      Reaches x (.guarded steps :: rest) before y p

/-- A program opens a block around a body: a transaction does, and a statement on an engine. -/
inductive Opens (x : Executor) : Program → Opening → Run Answer → Prop where
  | transaction (steps : List Program) :
      Opens x (.transaction steps) x.nextOpening (gathered (x.entered.runAll steps))
  | query (engine : x.isEngine) (sql params : Value) (reply : Reply) :
      Opens x (.query sql params reply) .begin (x.sendOn "query" .queryFailed sql params reply)
  | execute (engine : x.isEngine) (sql params : Value) (reply : Reply) :
      Opens x (.execute sql params reply) .begin
        (x.sendOn "execute" .statementFailed sql params reply)

theorem runAll_cons_events (x : Executor) (step : Program) (rest : List Program) :
    ∃ others, (x.runAll (step :: rest)).events = (x.run step).events ++ others := by
  cases ran : (x.run step).outcome with
  | error fault => exact ⟨[], by rw [(runAll_cons_error ran rest).1, List.append_nil]⟩
  | ok a => exact ⟨_, (runAll_cons_ok ran rest).1⟩

theorem Reaches.events {y : Executor} {steps : List Program} {before : List Event} {p : Program}
    (reached : x.Reaches steps before y p) :
    ∃ others, (x.runAll steps).events = before ++ (y.run p).events ++ others := by
  induction reached with
  | first x step rest => exact x.runAll_cons_events step rest
  | later ran _ ih =>
    obtain ⟨others, events⟩ := ih
    refine ⟨others, ?_⟩
    rw [(runAll_cons_ok ran _).1, events]
    simp only [List.append_assoc]
  | @inBlock x y steps p before _ rest ih =>
    obtain ⟨others, inner⟩ := ih
    obtain ⟨behind, events⟩ := x.runAll_cons_events (.transaction steps) rest
    have block : (x.run (.transaction steps)).events = .opened x.nextOpening ::
        (x.entered.runAll steps).events ++
          [(gathered (x.entered.runAll steps)).closing x.nextOpening] := by
      rw [run]
      rfl
    refine ⟨others ++ [(gathered (x.entered.runAll steps)).closing x.nextOpening] ++ behind, ?_⟩
    rw [events, block, inner]
    simp only [List.cons_append, List.append_assoc]
  | @guarded x y steps p before _ rest ih =>
    obtain ⟨others, inner⟩ := ih
    obtain ⟨behind, events⟩ := x.runAll_cons_events (.guarded steps) rest
    have body : (x.run (.guarded steps)).events = (x.runAll steps).events := by rw [run]
    rw [events, body, inner]
    exact ⟨_, List.append_assoc ..⟩

theorem Reaches.standsIn {y : Executor} {steps : List Program} {before : List Event}
    {p : Program} (reached : x.Reaches steps before y p) (tells : x.TellsOpen)
    (stands : x.StandsIn blocks) :
    ∃ inner, openAfter? blocks before = some inner ∧ y.StandsIn inner ∧ y.TellsOpen := by
  induction reached generalizing blocks with
  | first x step rest => exact ⟨blocks, rfl, stands, tells⟩
  | @later x y step p rest before a ran _ ih =>
    have first := run_kept step tells stands
    obtain ⟨inner, followed, found⟩ := ih (tells.after _) (stands.after first)
    exact ⟨inner, by rw [openAfter?_append, first, Option.bind_some, followed], found⟩
  | inBlock _ rest ih =>
    obtain ⟨inner, followed, found⟩ := ih tells.entered (stands.entered tells)
    refine ⟨inner, ?_, found⟩
    rw [openAfter?_cons, blocksAfter?_nextOpening tells stands, Option.bind_some, followed]
  | guarded _ rest ih => exact ih tells stands

variable {p : Program} {opening : Opening} {body : Run Answer}

theorem Opens.eq_nextOpening (opens : x.Opens p opening body) : opening = x.nextOpening := by
  cases opens with
  | transaction steps => rfl
  | query engine | execute engine => simp [nextOpening, engine]

theorem Opens.run_eq (opens : x.Opens p opening body) : x.run p = body.inBlock opening := by
  cases opens with
  | transaction steps => rw [run]
  | query engine | execute engine => rw [run, send, if_pos engine]

theorem Opens.body_kept (opens : x.Opens p opening body) (tells : x.TellsOpen)
    (stands : x.StandsIn blocks) :
    openAfter? (opening :: blocks) body.events = some (opening :: blocks) := by
  cases opens with
  | transaction steps => exact runAll_kept steps tells.entered (stands.entered tells)
  | query | execute => exact x.sendOn_kept ..

/-! ## Where blocks are opened -/

theorem sendOn_opens_nothing (x : Executor) {operation : String} {report : Value → Notice}
    {sql params : Value} {reply : Reply} {before rest : List Event} :
    (x.sendOn operation report sql params reply).events ≠ before ++ .opened opening :: rest := by
  unfold sendOn
  intro same
  split at same
  · simp at same
  · simp [List.singleton_eq_append_iff] at same

theorem Reaches.behind {y : Executor} {step p : Program} {before : List Event}
    (reached : x.Reaches [step] before y p) (rest : List Program) :
    x.Reaches (step :: rest) before y p := by
  cases reached with
  | first => exact .first x step rest
  | later ran reached => cases reached
  | inBlock reached => exact .inBlock reached rest
  | guarded reached => exact .guarded reached rest

theorem send_opened {operation : String} {report : Value → Notice}
    {sql params : Value} {reply : Reply} {before rest : List Event} {opening : Opening}
    (found : (x.send operation report sql params reply).events =
      before ++ .opened opening :: rest) :
    before = [] ∧ opening = .begin ∧ x.isEngine := by
  unfold send at found
  split at found
  · next engine =>
    rcases Run.opened_inBlock found with ⟨none, rfl⟩ | ⟨_, _, _, within⟩
    · exact ⟨none, rfl, engine⟩
    · exact absurd within x.sendOn_opens_nothing
  · exact absurd found x.sendOn_opens_nothing

mutual

/-- Whatever a program opens is the block of a program that it comes to. -/
theorem run_opened : ∀ (p : Program) {x : Executor} {before rest : List Event}
    {opening : Opening}, (x.run p).events = before ++ .opened opening :: rest →
      ∃ y q body, x.Reaches [p] before y q ∧ y.Opens q opening body
  | .query sql params reply, x, _, _, _, found => by
    rw [run] at found
    obtain ⟨rfl, rfl, engine⟩ := send_opened found
    exact ⟨x, _, _, .first x _ [], .query engine sql params reply⟩
  | .execute sql params reply, x, _, _, _, found => by
    rw [run] at found
    obtain ⟨rfl, rfl, engine⟩ := send_opened found
    exact ⟨x, _, _, .first x _ [], .execute engine sql params reply⟩
  | .raised fault, _, _, _, _, found => by
    rw [run] at found
    simp at found
  | .transaction steps, x, _, _, _, found => by
    rw [run] at found
    rcases Run.opened_inBlock found with ⟨rfl, rfl⟩ | ⟨within, behind, rfl, inner⟩
    · exact ⟨x, _, _, .first x _ [], .transaction steps⟩
    · obtain ⟨y, q, body, reached, opens⟩ := runAll_opened steps inner
      exact ⟨y, q, body, .inBlock reached [], opens⟩
  | .guarded steps, _, _, _, _, found => by
    rw [run] at found
    obtain ⟨y, q, body, reached, opens⟩ := runAll_opened steps found
    exact ⟨y, q, body, .guarded reached [], opens⟩

theorem runAll_opened : ∀ (steps : List Program) {x : Executor} {before rest : List Event}
    {opening : Opening}, (x.runAll steps).events = before ++ .opened opening :: rest →
      ∃ y q body, x.Reaches steps before y q ∧ y.Opens q opening body
  | [], _, _, _, _, found => by
    rw [runAll] at found
    simp at found
  | step :: steps, x, before, rest, opening, found => by
    cases ran : (x.run step).outcome with
    | error fault =>
      rw [(runAll_cons_error ran steps).1] at found
      obtain ⟨y, q, body, reached, opens⟩ := run_opened step found
      exact ⟨y, q, body, reached.behind steps, opens⟩
    | ok a =>
      rw [(runAll_cons_ok ran steps).1] at found
      rcases List.append_eq_append_iff.mp found with ⟨within, rfl, others⟩ | ⟨more, first, others⟩
      · obtain ⟨y, q, body, reached, opens⟩ := runAll_opened steps others
        exact ⟨y, q, body, .later ran reached, opens⟩
      · cases more with
        -- The first program ends where the block is opened.
        | nil =>
          have opened : ((x.after (x.run step).events).runAll steps).events =
              [] ++ .opened opening :: rest := others.symm
          obtain ⟨y, q, body, reached, opens⟩ := runAll_opened steps opened
          rw [List.append_nil] at first
          refine ⟨y, q, body, ?_, opens⟩
          have later := Reaches.later ran reached
          rwa [List.append_nil, first] at later
        | cons event more =>
          obtain ⟨rfl, _⟩ := List.cons.inj others
          obtain ⟨y, q, body, reached, opens⟩ := run_opened step first
          exact ⟨y, q, body, reached.behind steps, opens⟩

end

/-! ## Faults -/

end Executor

def Program.isSingle : Program → Bool
  | query .. | execute .. | raised _ => true
  | transaction _ | guarded _ => false

namespace Executor

mutual

/-- The fault of a program is the fault of a single one that it comes to. -/
theorem run_fault : ∀ (p : Program) {x : Executor} {fault : Fault},
    (x.run p).outcome = .error fault →
      ∃ before y q, x.Reaches [p] before y q ∧ q.isSingle ∧ (y.run q).outcome = .error fault
  | .query sql params reply, x, _, fails => ⟨[], x, _, .first x _ [], rfl, fails⟩
  | .execute sql params reply, x, _, fails => ⟨[], x, _, .first x _ [], rfl, fails⟩
  | .raised fault, x, _, fails => ⟨[], x, _, .first x _ [], rfl, fails⟩
  | .transaction steps, x, fault, fails => by
    rw [run] at fails
    have inner : (x.entered.runAll steps).outcome = .error fault := Except.map_eq_error.mp fails
    obtain ⟨before, y, q, reached, single, found⟩ := runAll_fault steps inner
    exact ⟨_, y, q, .inBlock reached [], single, found⟩
  | .guarded steps, x, fault, fails => by
    rw [run] at fails
    simp only at fails
    split at fails <;> cases fails

theorem runAll_fault : ∀ (steps : List Program) {x : Executor} {fault : Fault},
    (x.runAll steps).outcome = .error fault →
      ∃ before y q, x.Reaches steps before y q ∧ q.isSingle ∧ (y.run q).outcome = .error fault
  | [], x, _, fails => by
    rw [runAll] at fails
    cases fails
  | step :: steps, x, fault, fails => by
    cases ran : (x.run step).outcome with
    | error other =>
      rw [(runAll_cons_error ran steps).2] at fails
      obtain rfl := Except.error.inj fails
      obtain ⟨before, y, q, reached, single, found⟩ := run_fault step ran
      exact ⟨before, y, q, reached.behind steps, single, found⟩
    | ok a =>
      rw [(runAll_cons_ok ran steps).2, Except.map_eq_error] at fails
      obtain ⟨before, y, q, reached, single, found⟩ := runAll_fault steps fails
      exact ⟨_, y, q, .later ran reached, single, found⟩

end

/-- How a failure of a statement surfaces: one of the database as a fault that names the operation
and the statement, anything else as it is. -/
structure Surfaces (operation : String) (sql params : Value) (reply : Reply)
    (outcome : Except Fault Answer) : Prop where
  failed : ∀ bound message, NamedBinds.ofValues sql params = .ok bound →
    reply = .failed message → outcome = .error (.executionFailed (.text operation) sql message)
  stopped : ∀ bound fault, NamedBinds.ofValues sql params = .ok bound →
    reply = .stopped fault → outcome = .error fault
  unbound : ∀ fault, NamedBinds.ofValues sql params = .error fault → outcome = .error fault

theorem outcome_send (x : Executor) (operation : String) (report : Value → Notice)
    (sql params : Value) (reply : Reply) :
    (x.send operation report sql params reply).outcome =
      (x.sendOn operation report sql params reply).outcome := by
  unfold send
  split <;> rfl

theorem send_surfaces (x : Executor) (operation : String) (report : Value → Notice)
    (sql params : Value) (reply : Reply) :
    Surfaces operation sql params reply (x.send operation report sql params reply).outcome := by
  rw [outcome_send]
  unfold sendOn
  constructor
  · rintro bound message binds rfl
    rw [binds]
    rfl
  · rintro bound fault binds rfl
    rw [binds]
    rfl
  · intro fault binds
    rw [binds]

end Executor

/-! ## Whole runs -/

structure WellBracketed (x : Executor) (steps : List Program) : Prop where
  /-- Every block is closed, innermost first, and none begins a transaction inside another. -/
  nested : openAfter? [] (x.runAll steps).events = some []
  /-- Whatever is opened is the block of a program that the run comes to. -/
  opened : ∀ before opening rest, (x.runAll steps).events = before ++ .opened opening :: rest →
    ∃ y p body, x.Reaches steps before y p ∧ y.Opens p opening body
  /-- A block is closed right behind its body, by a commit just if the body has no fault, and the
  outcome of the body is its own. -/
  closed : ∀ before y p opening body, x.Reaches steps before y p → y.Opens p opening body →
    (∃ rest, (x.runAll steps).events = before ++ .opened opening :: body.events ++
      (if body.outcome.isOk then .committed opening else .rolledBack opening) :: rest) ∧
    (y.run p).outcome = body.outcome
  /-- A block is a savepoint just if its connection is in a transaction, as it is wherever a block
  is open on it; the body of the block leaves the open blocks as they are. -/
  within : ∀ before y p opening body, x.Reaches steps before y p → y.Opens p opening body →
    (opening = .savepoint ↔ ¬ y.isEngine ∧ y.inTransaction y.seen) ∧
    ∃ blocks, openAfter? [] before = some blocks ∧ y.StandsIn blocks ∧
      (blocks ≠ [] → opening = .savepoint) ∧
      openAfter? (opening :: blocks) body.events = some (opening :: blocks)
  /-- The failure of a statement names its operation and its text if it comes from the database. -/
  surfaces : ∀ before y sql params reply,
    (x.Reaches steps before y (.query sql params reply) →
      Executor.Surfaces "query" sql params reply (y.run (.query sql params reply)).outcome) ∧
    (x.Reaches steps before y (.execute sql params reply) →
      Executor.Surfaces "execute" sql params reply (y.run (.execute sql params reply)).outcome)
  /-- The fault of the run is that of a single program, whatever blocks are around it. -/
  raised : ∀ fault, (x.runAll steps).outcome = .error fault →
    ∃ before y p, x.Reaches steps before y p ∧ p.isSingle ∧ (y.run p).outcome = .error fault

/-- Runs on an engine, and on a connection that says where a transaction is open, are well
bracketed. -/
theorem transactions_are_well_bracketed (x : Executor) (fresh : x.seen = [])
    (tells : x.TellsOpen) (steps : List Program) : WellBracketed x steps := by
  have stands : x.StandsIn [] := by
    unfold Executor.StandsIn
    rw [fresh]
    split <;> rfl
  constructor
  · exact Executor.runAll_kept steps tells stands
  · intro before opening rest found
    exact Executor.runAll_opened steps found
  · intro before y p opening body reached opens
    obtain ⟨rest, events⟩ := reached.events
    rw [opens.run_eq] at events ⊢
    refine ⟨⟨rest, ?_⟩, rfl⟩
    rw [events, ← body.closing_eq opening]
    simp [Run.inBlock]
  · intro before y p opening body reached opens
    obtain ⟨blocks, followed, within, told⟩ := reached.standsIn tells stands
    rw [opens.eq_nextOpening]
    refine ⟨Executor.nextOpening_eq_savepoint_iff, blocks, followed, within,
      Executor.nextOpening_of_open told within, ?_⟩
    rw [← opens.eq_nextOpening]
    exact opens.body_kept told within
  · intro before y sql params reply
    rw [Executor.run, Executor.run]
    exact ⟨fun _ => y.send_surfaces .., fun _ => y.send_surfaces ..⟩
  · intro fault fails
    exact Executor.runAll_fault steps fails

/-- A block whose statement fails is rolled back by itself where its fault is caught. -/
theorem inner_block_is_rolled_back_alone :
    let x : Executor := ⟨false, "sqlite", fun seen => !((openAfter? [] seen).getD []).isEmpty, []⟩
    let lost := Program.execute (.text "DELETE FROM t") (.list []) (.failed "locked")
    let kept := Program.execute (.text "DELETE FROM s") (.list []) (.written (.int 1) .null)
    let steps := [.transaction [.guarded [.transaction [lost]], kept]]
    x.seen = [] ∧ x.TellsOpen ∧
      (x.runAll steps).events = [.opened .begin, .opened .savepoint, .ran "DELETE FROM t" [],
        .rolledBack .savepoint, .ran "DELETE FROM s" [], .committed .begin] ∧
      openAfter? [] (x.runAll steps).events = some [] := by
  intro x lost kept steps
  have tells : x.TellsOpen := by
    intro seen innermost outer stack
    change (!((openAfter? [] seen).getD []).isEmpty) = true
    rw [stack]
    rfl
  exact ⟨rfl, tells, rfl, (transactions_are_well_bracketed x rfl tells steps).nested⟩

end ScopedSql.Connection
