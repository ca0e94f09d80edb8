import ScopedSql.Model.Coercion
import ScopedSql.Proofs.Verdict

/-! A denying gateway whose role table is set between its calls.

A table that can be read replaces the one before it, and any other leaves it in force. So at each
call the denial, the policy and the statement go by one table: the last one that could be read.
-/

set_option autoImplicit false

namespace ScopedSql

/-! ## The table in force -/

inductive Gateway.Step where
  | restrict (restrictions : Value)
  | call (r : Request) (call : GatewayCall)

section

variable [Check]

def Resolver.inForce (r : Resolver) (steps : List Gateway.Step) : Resolver :=
  steps.foldl
    (fun r step =>
      match step with
      | .restrict restrictions =>
        { r with table := (RoleTable.ofValue restrictions).toOption.getD r.table }
      | .call .. => r) r

namespace Gateway

def denying (d : Dialect) (tenancy : Tenancy) (resolver : Resolver) : Gateway :=
  ⟨.make d tenancy resolver, true⟩

def step (now : Gateway × Recorder) : Step → Gateway × Recorder
  | .restrict restrictions =>
    match (now.1.access.resolver.replaceTable restrictions).outcome with
    | .ok resolver => (now.1.withResolver resolver, now.2)
    | .error _ => now
  | .call r call => (now.1, (call.run now.1 r now.2).recorder)

def after (start : Gateway × Recorder) (steps : List Step) : Gateway × Recorder :=
  steps.foldl step start

variable (d : Dialect) (tenancy : Tenancy) (resolver : Resolver) (recorder : Recorder)

theorem step_denying (next : Step) :
    ∃ left, step (denying d tenancy resolver, recorder) next =
      (denying d tenancy (resolver.inForce [next]), left) := by
  cases next with
  | restrict restrictions =>
    refine ⟨recorder, ?_⟩
    simp only [step, Resolver.replaceTable_outcome, Resolver.inForce, List.foldl_cons,
      List.foldl_nil]
    show (match (RoleTable.ofValue restrictions).map fun table => { resolver with table } with
      | .ok resolver => _
      | .error _ => _) = _
    cases RoleTable.ofValue restrictions <;> rfl
  | call r call => exact ⟨_, rfl⟩

/-- Only the table of a gateway changes, and it is the one in force. -/
theorem after_denying (steps : List Step) :
    ∃ left, after (denying d tenancy resolver, recorder) steps =
      (denying d tenancy (resolver.inForce steps), left) := by
  induction steps generalizing resolver recorder with
  | nil => exact ⟨recorder, rfl⟩
  | cons next steps ih =>
    obtain ⟨between, first⟩ := step_denying d tenancy resolver recorder next
    obtain ⟨left, rest⟩ := ih (resolver.inForce [next]) between
    refine ⟨left, ?_⟩
    rw [after, List.foldl_cons, first]
    exact rest

end Gateway

end

/-! ## Guards of a restriction -/

/-- What a restriction asks of a row by its filters: each of them, or one of them. -/
def Restriction.guards (restriction : Restriction) (filters : List Filter) :
    List (Formula Value .factor) :=
  match restriction.combinator, filters with
  | .and, filters => filters.map fun f => .atom f.atom
  | .or, [] => []
  | .or, [f] => [.atom f.atom]
  | .or, f :: g :: rest =>
    [.group (.anyOf (.atom f.atom) ((g :: rest).map fun f => .atom f.atom))]

theorem Policy.factors_filtersOf {context : Context} {inputs : Value} {restriction : Restriction}
    {items : List FilterItem} (resolved : filtersOf context inputs restriction = .ok items) :
    ∃ filters, restriction.conditions.mapM (conditionFilter context inputs) = .ok filters ∧
      FilterItem.factors items = restriction.guards filters := by
  rw [filtersOf_eq, Except.map_eq_ok] at resolved
  obtain ⟨filters, each, rfl⟩ := resolved
  refine ⟨filters, each, ?_⟩
  obtain ⟨conditions, join⟩ := restriction
  cases join with
  | and =>
    show (filters.map FilterItem.single).filterMap FilterItem.factor? =
      filters.map fun f => .atom f.atom
    rw [List.filterMap_map, ← List.filterMap_eq_map]
    rfl
  | or =>
    match filters with
    | [] | [f] | f :: g :: rest => rfl

/-! ## Calls -/

section

variable {d : Dialect} {tenancy : Tenancy} {resolver : Resolver} {r : Request}
  {call : GatewayCall}

/-- A caller who is denied gets the denial, whatever the call, and nothing is sent. -/
theorem Gateway.run_denied {g : Gateway} (quiet : g.access.assembler.rules.Quiet)
    (denies : g.Denies r) (recorder : Recorder) :
    (call.run g r recorder).recorder = recorder ∧
      (call.run g r recorder).outcome = .error (denial r) :=
  GatewayCall.run_error ((Operation.compiled_verdict quiet r call rfl).mpr ⟨denies, rfl⟩) recorder

theorem Gateway.denies_of_outcome {g : Gateway} (quiet : g.access.assembler.rules.Quiet)
    {recorder : Recorder} {roles : Value}
    (fails : (call.run g r recorder).outcome = .error (.policyMismatch roles)) :
    g.Denies r ∧ roles = .list (r.context.roles.map .text) := by
  have verdict : (Fault.policyMismatch roles).isVerdict := rfl
  cases compiles : (Operation.onGateway g r call).compiled with
  | error fault =>
    rw [(GatewayCall.run_error compiles recorder).2] at fails
    cases fails
    obtain ⟨denies, same⟩ := (Operation.compiled_verdict quiet r call verdict).mp compiles
    exact ⟨denies, Fault.policyMismatch.inj same⟩
  | ok s =>
    -- an answer is no denial: its one verdict is that a record is not found
    rw [(GatewayCall.run_ok compiles recorder).2, GatewayCall.answer_verdict verdict] at fails
    obtain ⟨_, _, _, _, other⟩ := fails
    cases other

theorem GatewayCall.compiled_of_sent {g : Gateway} {recorder : Recorder} {sent : Sent}
    (sends : (call.run g r recorder).recorder.sent = recorder.sent ++ [sent]) :
    ∃ s, (Operation.onGateway g r call).compiled = .ok s ∧
      sent = ⟨call.channel s, .text s.sql, s.params⟩ := by
  cases compiles : (Operation.onGateway g r call).compiled with
  | error fault =>
    rw [(GatewayCall.run_error compiles recorder).1] at sends
    simp at sends
  | ok s =>
    have taken : (recorder.taking ⟨call.channel s, .text s.sql, s.params⟩).sent =
        recorder.sent ++ [⟨call.channel s, .text s.sql, s.params⟩] := by
      unfold Recorder.taking
      split <;> rfl
    rw [(GatewayCall.run_ok compiles recorder).1, taken] at sends
    obtain rfl := List.singleton_inj.mp (List.append_cancel_left sends)
    exact ⟨s, rfl, rfl⟩

theorem Gateway.role_of_compiled {s : Statement} (configured : resolver.table.entries ≠ [])
    (compiles : (Operation.onGateway (.denying d tenancy resolver) r call).compiled = .ok s) :
    ∃ role p, resolver.role? r.context = .ok (some role) ∧
      (resolver.resolve r.context (.dict r.inputs)).outcome = .ok p ∧
      resolver.policyOf r.context (.dict r.inputs) role = .ok p := by
  rw [Operation.compiled, Except.bind_eq_ok] at compiles
  obtain ⟨p, known, _⟩ := compiles
  have resolved : (resolver.resolve r.context (.dict r.inputs)).outcome = .ok p :=
    policy_eq_ok known
  rcases Resolver.resolve_eq_ok resolved with ⟨_, none⟩ | ⟨role, wins, policy⟩
  · -- without a role of the table the caller would have been denied
    have denies : (denying d tenancy resolver).Denies r :=
      ⟨rfl, ⟨p, resolved⟩, configured, none⟩
    have denied := (policy_verdict rfl).mpr ⟨denies, rfl⟩
    rw [denied] at known
    cases known
  · exact ⟨role, p, wins, resolved, policy⟩

theorem GatewayCall.accessCall_onRows (onRows : ∀ data, call ≠ .insert data) :
    ∃ inner, call.accessCall = .onRows inner none := by
  cases call with
  | insert data => exact absurd rfl (onRows data)
  | _ => exact ⟨_, rfl⟩

/-- A statement on rows that are there has the guards of the role's first restriction. -/
theorem Gateway.guards_of_compiled {s : Statement} (configured : resolver.table.entries ≠ [])
    (onRows : ∀ data, call ≠ .insert data)
    (compiles : (Operation.onGateway (.denying d tenancy resolver) r call).compiled = .ok s) :
    ∃ role command, resolver.role? r.context = .ok (some role) ∧
      Command.ofText d s.sql s.params = some command ∧
      ∀ restriction, resolver.restriction? role = some restriction →
        ∃ filters, restriction.conditions.mapM
            (Policy.conditionFilter r.context (.dict r.inputs)) = .ok filters ∧
          restriction.guards filters <:+: command.scope.conjuncts := by
  obtain ⟨role, p, wins, resolved, policy⟩ := role_of_compiled configured compiles
  rw [Operation.compiled, Except.bind_eq_ok] at compiles
  obtain ⟨_, _, compiles⟩ := compiles
  obtain ⟨inner, same⟩ := GatewayCall.accessCall_onRows onRows
  rw [same] at compiles
  obtain ⟨p', known, statement⟩ := AccessCall.onRows_eq_ok compiles
  obtain rfl : p = p' := Except.ok.inj (resolved.symm.trans known)
  obtain ⟨command, writes, scope⟩ := ScopedCall.statement_writes statement
  refine ⟨role, command, wins, writes.ofText, fun restriction first => ?_⟩
  rw [Resolver.policyOf, first] at policy
  obtain ⟨items, filtered, rfl⟩ := Except.map_eq_ok.mp policy
  obtain ⟨filters, each, guards⟩ := Policy.factors_filtersOf filtered
  refine ⟨filters, each, ?_⟩
  rw [scope, Scope.conjuncts_ofFactors, ScopedCall.factors, guards]
  exact List.infix_append _ _ _

end

/-- In any run of a denying gateway, with its table set in between, a call raises a denial just if
its policy can be resolved and the table in force has roles but none of the caller's; nothing is
sent then. A statement on rows that are there, sent while the table has roles, has what the first
restriction of the selected role asks for among its conjuncts. -/
theorem denying_gateway_goes_by_table_in_force [Check] (d : Dialect) (tenancy : Tenancy)
    (resolver : Resolver) (start : Recorder) (before : List Gateway.Step) (r : Request)
    (call : GatewayCall) :
    ∃ (now : Resolver) (left : Recorder) (ran : Ran Answer), now = resolver.inForce before ∧
      Gateway.after (.denying d tenancy resolver, start) before =
        (.denying d tenancy now, left) ∧
      ran = call.run (.denying d tenancy now) r left ∧
      ((∃ roles, ran.outcome = .error (.policyMismatch roles)) ↔
        (∃ p, (now.resolve r.context (.dict r.inputs)).outcome = .ok p) ∧
          now.table.entries ≠ [] ∧ ∀ role ∈ r.context.roles, ¬now.table.has role) ∧
      (∀ roles, ran.outcome = .error (.policyMismatch roles) →
        roles = .list (r.context.roles.map .text) ∧ ran.recorder = left) ∧
      (now.table.entries ≠ [] → (∀ data, call ≠ .insert data) →
        ∀ sent, ran.recorder.sent = left.sent ++ [sent] →
          ∃ role text command, now.role? r.context = .ok (some role) ∧ sent.sql = .text text ∧
            Command.ofText d text sent.params = some command ∧
            ∀ restriction, now.restriction? role = some restriction →
              ∃ filters, restriction.conditions.mapM
                  (Policy.conditionFilter r.context (.dict r.inputs)) = .ok filters ∧
                restriction.guards filters <:+: command.scope.conjuncts) := by
  obtain ⟨left, reached⟩ := Gateway.after_denying d tenancy resolver start before
  have quiet : (Gateway.denying d tenancy (resolver.inForce before)).access.assembler.rules.Quiet :=
    RuleTable.standard_quiet
  refine ⟨_, left, _, rfl, reached, rfl, ?_, ?_, ?_⟩
  · constructor
    · rintro ⟨_, fails⟩
      exact (Gateway.denies_of_outcome quiet fails).1.2
    · intro none
      exact ⟨_, (Gateway.run_denied quiet ⟨rfl, none⟩ left).2⟩
  · intro roles fails
    obtain ⟨denies, named⟩ := Gateway.denies_of_outcome quiet fails
    exact ⟨named, (Gateway.run_denied quiet denies left).1⟩
  · intro configured onRows sent sends
    obtain ⟨s, compiles, rfl⟩ := GatewayCall.compiled_of_sent sends
    obtain ⟨role, command, wins, reads, guards⟩ :=
      Gateway.guards_of_compiled configured onRows compiles
    exact ⟨role, s.sql, command, wins, rfl, reads, guards⟩

/-- A number is no table, so that of `support` stays: a guest is denied, and staff of the support
find rows of their own. -/
theorem support_table_outlasts_number :
    (GatewayCall.count.run (.denying .sqlite .none (Resolver.inForce ⟨.empty, none⟩ [
        .restrict (.dict [(.text "support", .dict [(.text "conditions", .list [
          .dict [(.text "field", .text "owner"), (.text "value", .text "currentUser.id")]])])]),
        .restrict (.int 1)]))
        ⟨.text "t", [], .empty, .null, .empty, [], .text "id"⟩ .empty).outcome =
          .error (.policyMismatch (.list [.text "public"])) ∧
      ∃ command, Command.ofText .sqlite "SELECT * FROM \"t\" WHERE \"owner\" = ?" [Value.int 7] =
          some command ∧
        [.atom (.compare ["owner"] .eq (.int 7))] <:+: command.scope.conjuncts := by
  let steps : List Gateway.Step := [
    .restrict (.dict [(.text "support", .dict [(.text "conditions", .list [
      .dict [(.text "field", .text "owner"), (.text "value", .text "currentUser.id")]])])]),
    .restrict (.int 1)]
  have kept : Resolver.inForce ⟨.empty, none⟩ steps =
      ⟨⟨[("support", [⟨[⟨"owner", .eq, .text "currentUser.id", false, none⟩], .and⟩])]⟩, none⟩ := by
    cbv
  have run := denying_gateway_goes_by_table_in_force .sqlite .none ⟨.empty, none⟩ .empty steps
  constructor
  · obtain ⟨_, left, _, rfl, reached, rfl, denied, named, _⟩ :=
      run ⟨.text "t", [], .empty, .null, .empty, [], .text "id"⟩ .count
    have untouched : left = .empty := (congrArg Prod.snd reached).symm.trans (by cbv)
    rw [kept, untouched] at denied named
    obtain ⟨roles, fails⟩ := denied.mpr ⟨⟨.unmatched, by cbv⟩, List.cons_ne_nil _ _, by decide⟩
    have guest : roles = .list [.text "public"] := (named roles fails).1
    show (GatewayCall.run (.denying .sqlite .none (Resolver.inForce _ steps)) _ _ _).outcome = _
    rw [kept, ← guest]
    exact fails
  · obtain ⟨_, left, _, rfl, reached, rfl, _, _, guarded⟩ :=
      run ⟨.text "t", [], .empty, .null, ⟨some ⟨.int 7, ["support"], .null, []⟩, none⟩, [],
        .text "id"⟩ .find
    have untouched : left = .empty := (congrArg Prod.snd reached).symm.trans (by cbv)
    rw [kept, untouched] at guarded
    have finds : ∀ data, GatewayCall.find ≠ .insert data := by
      intro data same
      cases same
    obtain ⟨role, text, command, wins, same, reads, guards⟩ := guarded (List.cons_ne_nil _ _) finds
      ⟨.query, .text "SELECT * FROM \"t\" WHERE \"owner\" = ?", [.int 7]⟩ (by cbv)
    cases same
    cases wins
    obtain ⟨filters, each, carried⟩ := guards _ rfl
    cases each
    exact ⟨command, reads, carried⟩

end ScopedSql
