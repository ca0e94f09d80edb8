import ScopedSql.Proofs.Policy.Resolution
import ScopedSql.Proofs.Traffic.Operation

/-! Faults that only a gateway gives: a denial, and a record that is not found.

Nothing that resolves a policy, compiles a statement or reads an answer has such a fault, so one of
them always tells of the gateway's own judgement. Rules that a host puts in have to keep to this
too.
-/

set_option autoImplicit false

namespace ScopedSql

/-- A judgement of a gateway, not a complaint about what it was given. -/
def Fault.isVerdict : Fault → Bool
  | policyMismatch _ | recordNotFound .. => true
  | _ => false

theorem Fault.raised_verdict {fault other : Fault} (verdict : other.isVerdict) :
    fault.raised = other ↔ fault.isWritable ∧ fault = other := by
  rw [raised]
  split
  · next writable => simp [writable]
  · next unwritable =>
    simp only [unwritable, Bool.false_eq_true, false_and, iff_false]
    rintro rfl
    cases verdict

def NoVerdict {α : Type} (x : Except Fault α) : Prop :=
  ∀ fault, x = .error fault → fault.isVerdict = false

namespace NoVerdict

variable {α β : Type}

theorem ok (a : α) : NoVerdict (.ok a) := by
  intro fault same
  cases same

theorem error {fault : Fault} (plain : fault.isVerdict = false) :
    NoVerdict (.error fault : Except Fault α) := by
  intro other same
  cases same
  exact plain

theorem ne_error {x : Except Fault α} {fault : Fault} (plain : NoVerdict x)
    (verdict : fault.isVerdict) : x ≠ .error fault := by
  intro same
  rw [plain fault same] at verdict
  cases verdict

theorem misused (kind : Misuse) : NoVerdict (Value.misused kind : Except Fault α) :=
  error rfl

theorem invalid (cause : Invalid) : NoVerdict (.error (.invalid cause) : Except Fault α) :=
  error rfl

theorem raised {fault : Fault} (plain : fault.isVerdict = false) :
    NoVerdict (.error fault.raised : Except Fault α) := by
  rw [Fault.raised]
  split
  · exact error plain
  · exact error rfl

theorem bind {x : Except Fault α} {next : α → Except Fault β} (first : NoVerdict x)
    (rest : ∀ a, NoVerdict (next a)) : NoVerdict (x >>= next) := by
  intro fault same
  cases x with
  | error other =>
    cases same
    exact first fault rfl
  | ok a => exact rest a fault same

theorem map {x : Except Fault α} {f : α → β} (inner : NoVerdict x) : NoVerdict (x.map f) := by
  intro fault same
  cases x with
  | error other =>
    cases same
    exact inner fault rfl
  | ok a => cases same

theorem ite {condition : Prop} [Decidable condition] {x y : Except Fault α} (first : NoVerdict x)
    (second : NoVerdict y) : NoVerdict (if condition then x else y) := by
  split
  · exact first
  · exact second

theorem mapM {xs : List α} {f : α → Except Fault β} (each : ∀ x, NoVerdict (f x)) :
    NoVerdict (xs.mapM f) := by
  induction xs with
  | nil => exact ok []
  | cons x xs ih =>
    rw [List.mapM_cons]
    exact (each x).bind fun y => ih.bind fun ys => ok (y :: ys)

theorem forM {xs : List α} {f : α → Except Fault Unit} (each : ∀ x, NoVerdict (f x)) :
    NoVerdict (xs.forM f) := by
  induction xs with
  | nil => exact ok ()
  | cons x xs ih =>
    exact (each x).bind fun _ => ih

end NoVerdict

/-! ## Readings of values -/

namespace Value

theorem noVerdict_lacking {α : Type} (x : Value) (operation : String) :
    NoVerdict (x.lacking operation : Except Fault α) :=
  .misused _

theorem noVerdict_written (x : Value) : NoVerdict x.written :=
  .ite (.ok _) (.misused _)

theorem noVerdict_arranged (xs : List Value) : NoVerdict (arranged xs) := by
  unfold arranged
  split
  · exact .ok _
  · exact .ite (.ok _) (.misused _)

theorem noVerdict_elements (x : Value) : NoVerdict x.elements := by
  unfold elements
  split
  · exact .ok _
  · exact .misused _

theorem noVerdict_toInt (x : Value) : NoVerdict x.toInt := by
  have numeral : ∀ n : Option Int, NoVerdict (toInt.ofNumeral n) := by
    intro n
    cases n with
    | none => exact .misused _
    | some n => exact .ok n
  unfold toInt
  split
  · exact .ok _
  · exact .ok _
  · split
    · exact .ok _
    · exact .misused _
    · exact .misused _
  · exact numeral _
  · exact numeral _
  · exact .ite (numeral _) (.misused _)
  · exact .misused _

end Value

namespace Dict

theorem noVerdict_entryOf (x : Value) : NoVerdict (entryOf x) := by
  refine x.noVerdict_elements.bind fun items => ?_
  split
  · exact .ite (.ok _) (.misused _)
  · exact .misused _

theorem noVerdict_ofValue (x : Value) : NoVerdict (ofValue x) := by
  unfold ofValue
  split
  · exact .ok _
  · have pairs : NoVerdict (do return ofEntries (← (← x.elements).mapM entryOf)) :=
      x.noVerdict_elements.bind fun items => (NoVerdict.mapM noVerdict_entryOf).bind fun _ => .ok _
    exact .ite (.bind (.misused _) fun _ => pairs) pairs

end Dict

theorem Identifier.noVerdict_ofText (s : String) : NoVerdict (ofText s) := by
  rw [ofText]
  split
  · exact .ok _
  · exact .error rfl

theorem Identifier.noVerdict_ofValue (x : Value) : NoVerdict (ofValue x) :=
  x.noVerdict_written.bind noVerdict_ofText

/-! ## Statements -/

def RuleTable.Quiet (rules : RuleTable) : Prop :=
  ∀ op column value, NoVerdict (rules.apply op column value)

theorem Test.noVerdict_ofOperator (op : Operator) (value : Value) :
    NoVerdict (ofOperator op value) := by
  have list : NoVerdict (valueList value) := by
    unfold valueList
    split
    · exact .ok _
    · exact .invalid _
    · exact Value.noVerdict_arranged _
    · exact Value.noVerdict_arranged _
    all_goals exact .ok _
  have text : NoVerdict (patternText value) := by
    unfold patternText
    split
    · exact .ok _
    · exact value.noVerdict_written
  cases op with
  | isIn | notIn => exact list.map
  | contains | startsWith | endsWith => exact text.bind fun _ => .ok _
  | _ => exact .ok _

theorem RuleTable.standard_quiet : RuleTable.standard.Quiet := by
  intro op column value
  rw [RuleTable.standard_apply]
  exact (Test.noVerdict_ofOperator op value).bind fun test => .ok _

section

variable {rules : RuleTable} (quiet : rules.Quiet)
include quiet

theorem Filter.noVerdict_sql (f : Filter) : NoVerdict (f.sql rules) :=
  (Identifier.noVerdict_ofValue f.field).bind fun name => quiet f.operator [.name name] f.value

theorem FilterItem.noVerdict_sql? (item : FilterItem) : NoVerdict (item.sql? rules) := by
  cases item with
  | single f => exact (Filter.noVerdict_sql quiet f).bind fun _ => .ok _
  | group g => exact (NoVerdict.mapM (Filter.noVerdict_sql quiet)).bind fun _ => .ok _

theorem Where.noVerdict_predicates (items : List FilterItem) :
    NoVerdict (predicates rules items) :=
  (NoVerdict.mapM (FilterItem.noVerdict_sql? quiet)).bind fun _ => .ok _

theorem Where.noVerdict_ofItems (items : List FilterItem) : NoVerdict (ofItems rules items) :=
  (noVerdict_predicates quiet items).bind fun _ => .ok _

end

namespace Assembler

theorem noVerdict_nameSql (x : Value) : NoVerdict (nameSql x) :=
  (Identifier.noVerdict_ofValue x).bind fun _ => .ok _

theorem noVerdict_projection (fields : List Value) : NoVerdict (projection fields) :=
  .ite (.ok _) ((NoVerdict.mapM noVerdict_nameSql).bind fun _ => .ok _)

theorem noVerdict_ordering (terms : List OrderTerm) : NoVerdict (ordering terms) := by
  have term : ∀ term, NoVerdict (orderTerm term) := fun term =>
    (noVerdict_nameSql term.field).bind fun _ => .ok _
  exact .ite (.ok _) ((NoVerdict.mapM term).bind fun _ => .ok _)

theorem noVerdict_paging (d : Dialect) (options : Options) : NoVerdict (paging d options) := by
  rw [paging_eq]
  exact .ite (.ok _) (.misused _)

theorem noVerdict_idPredicate (idColumn id : Value) : NoVerdict (idPredicate idColumn id) := by
  have predicate : NoVerdict (do return (← nameSql idColumn) ++ [.text " = ", .bound id]) :=
    (noVerdict_nameSql idColumn).bind fun _ => .ok _
  unfold idPredicate
  refine .ite (.bind (.invalid _) fun _ => ?_) ?_
  all_goals
    cases id with
    | null => exact .bind (.invalid _) fun _ => predicate
    | _ => exact predicate

theorem noVerdict_assignment (entry : Value × Value) : NoVerdict (assignment entry) :=
  (noVerdict_nameSql entry.1).bind fun _ => .ok _

section

variable {a : Assembler} (quiet : a.rules.Quiet) (table idColumn id : Value)
  (items : List FilterItem)
include quiet

theorem noVerdict_idClause : NoVerdict (a.idClause idColumn id items) :=
  (noVerdict_idPredicate idColumn id).bind fun _ =>
    (Where.noVerdict_predicates quiet items).bind fun _ => .ok _

theorem noVerdict_select (options : Options) : NoVerdict (a.select table items options) :=
  (Where.noVerdict_ofItems quiet items).bind fun _ =>
    (noVerdict_projection options.fields).bind fun _ => (noVerdict_nameSql table).bind fun _ =>
      (noVerdict_ordering options.orderBy).bind fun _ =>
        (noVerdict_paging a.dialect options).bind fun _ => .ok _

theorem noVerdict_count : NoVerdict (a.count table items) :=
  (Where.noVerdict_ofItems quiet items).bind fun _ => (noVerdict_nameSql table).bind fun _ => .ok _

theorem noVerdict_findById : NoVerdict (a.findById table idColumn id items) :=
  (noVerdict_idClause quiet idColumn id items).bind fun _ =>
    (noVerdict_nameSql table).bind fun _ => .ok _

theorem noVerdict_delete : NoVerdict (a.delete table idColumn id items) :=
  (noVerdict_idClause quiet idColumn id items).bind fun _ =>
    (noVerdict_nameSql table).bind fun _ => .ok _

theorem noVerdict_update (data : Dict) : NoVerdict (a.update table idColumn id data items) := by
  cases data with
  | nil => exact .invalid .emptyUpdate
  | cons entry rest =>
    exact (NoVerdict.mapM noVerdict_assignment).bind fun _ =>
      (noVerdict_idClause quiet idColumn id items).bind fun _ =>
        (noVerdict_nameSql table).bind fun _ => .ok _

end

theorem noVerdict_insert (a : Assembler) (table : Value) (data : Dict) (asked : Value) :
    NoVerdict (a.insert table data asked) := by
  cases data with
  | nil => exact .invalid .emptyInsert
  | cons entry rest =>
    have columns : NoVerdict ((entry :: rest).mapM fun entry => nameSql entry.1) :=
      .mapM fun entry => noVerdict_nameSql entry.1
    exact columns.bind fun _ => (noVerdict_nameSql table).bind fun _ => .ok _

end Assembler

theorem Payload.noVerdict_forUpdate (data : Value) : NoVerdict (forUpdate data) := by
  refine .ite (.invalid _) ?_
  split
  · exact .ok _
  · exact data.noVerdict_lacking _

theorem Tenancy.noVerdict_table (t : Tenancy) (name id : Value) : NoVerdict (t.table name id) :=
  .ite (.ite name.noVerdict_written.map (.error rfl)) (.ok _)

theorem ScopedCall.noVerdict_statement {a : Access} (quiet : a.assembler.rules.Quiet) (r : Request)
    (p : Policy) (call : ScopedCall) : NoVerdict (call.statement a r p) := by
  rw [statement_eq]
  refine (a.tenancy.noVerdict_table _ _).bind fun table => ?_
  cases call with
  | select => exact Assembler.noVerdict_select quiet table _ _
  | count => exact Assembler.noVerdict_count quiet table _
  | findById id => exact Assembler.noVerdict_findById quiet table _ id _
  | update id data =>
    exact (Payload.noVerdict_forUpdate data).bind fun entries =>
      Assembler.noVerdict_update quiet table _ id _ entries
  | delete id => exact Assembler.noVerdict_delete quiet table _ id _

theorem Access.noVerdict_insert (a : Access) (r : Request) (data : Value) :
    NoVerdict (a.insert r data) :=
  (Dict.noVerdict_ofValue data).bind fun _ =>
    (a.tenancy.noVerdict_table r.table _).bind fun table => a.assembler.noVerdict_insert table _ _

/-! ## Policies -/

namespace Role

theorem noVerdict_measure (priority : Option Priority) (role : String) :
    NoVerdict (measure priority (.text role)) := by
  cases priority with
  | none => exact .ok _
  | some p =>
    simp only [measure, Priority.rank?]
    split
    · refine .ite ?_ (.misused _)
      split
      · exact .ok _
      · exact .ok _
      · exact .ok _
    · exact Value.noVerdict_lacking _ _

theorem noVerdict_isBelow (x y : Value) : NoVerdict (isBelow x y) := by
  unfold isBelow
  split
  · exact .ok _
  · exact .misused _

theorem noVerdict_bestFrom {measure : String → Except Fault (Option Value)}
    (measures : ∀ role, NoVerdict (measure role)) (roles : List String)
    (best : Option (String × Value)) : NoVerdict (bestFrom measure best roles) := by
  induction roles generalizing best with
  | nil => exact .ok _
  | cons role rest ih =>
    refine (measures role).bind fun measured => ?_
    split
    · exact ih _
    · exact ih _
    · exact (noVerdict_isBelow _ _).bind fun _ => ih _

theorem noVerdict_winner (candidates : List String) (priority : Option Priority) :
    NoVerdict (winner candidates priority) :=
  (noVerdict_bestFrom (noVerdict_measure priority) candidates none).bind fun _ => .ok _

end Role

namespace Input

theorem noVerdict_lookup? (inputs : Value) (field : String) : NoVerdict (lookup? inputs field) := by
  refine .ite (.ok _) ?_
  split
  · exact .ok _
  · exact .ite (.misused _) (.ok _)
  · exact .misused _
  · exact (Value.noVerdict_elements _).bind fun items => .ite (.misused _) (.ok _)

theorem noVerdict_readNumber (field : String) (x : Value) : NoVerdict (readNumber field x) := by
  unfold readNumber
  split
  · exact .ok _
  · exact .ok _
  · exact .invalid _
  · split
    · exact .invalid _
    · split
      · exact .ok _
      · exact .ok _

theorem noVerdict_checkBounds (field : String) (c : Constraint) (x : Number) :
    NoVerdict (checkBounds field c x) := by
  unfold checkBounds
  cases c.min with
  | none =>
    cases c.max with
    | none => exact .ok _
    | some high => exact .ite (.invalid _) (.ok _)
  | some low =>
    cases c.max with
    | none => exact .ite (.bind (.invalid _) fun _ => .ok _) (.ok _)
    | some high =>
      exact .ite (.bind (.invalid _) fun _ => .ite (.invalid _) (.ok _)) (.ite (.invalid _) (.ok _))

theorem noVerdict_check (condition : Condition) (x : Value) : NoVerdict (check condition x) := by
  unfold check
  split
  · exact .ok _
  · next c _ =>
    split
    · exact (NoVerdict.mapM (noVerdict_readNumber _)).bind fun numbers =>
        (NoVerdict.forM (noVerdict_checkBounds _ c)).bind fun _ => .ok _
    · have options : ∀ items x, NoVerdict (checkOption condition.field items x) := fun items x =>
        .ite (.ok _) (.raised rfl)
      exact (NoVerdict.forM (options _)).bind fun _ => .ok _
    · exact .ok _

end Input

namespace Policy

theorem noVerdict_conditionFilter (context : Context) (inputs : Value) (c : Condition) :
    NoVerdict (conditionFilter context inputs c) := by
  have input : ∀ x, NoVerdict (inputFilter c x) := by
    intro x
    refine (Input.noVerdict_check c x).bind fun y => ?_
    split
    · exact .ok _
    · exact .ok _
  refine .ite ((Input.noVerdict_lookup? inputs c.field).bind fun found => ?_) (.ok _)
  cases found with
  | none => exact .ok _
  | some x => exact input x

theorem noVerdict_filtersOf (context : Context) (inputs : Value) (r : Restriction) :
    NoVerdict (filtersOf context inputs r) := by
  refine (NoVerdict.mapM (noVerdict_conditionFilter context inputs)).bind fun filters => ?_
  split
  · exact .ok _
  · exact .ok _

end Policy

theorem Resolver.noVerdict_resolve (r : Resolver) (context : Context) (inputs : Value) :
    NoVerdict (r.resolve context inputs).outcome := by
  rw [resolve_outcome]
  refine (Role.noVerdict_winner _ _).bind fun role => ?_
  cases role with
  | none => exact .ok _
  | some role =>
    dsimp only
    unfold policyOf
    split
    · exact .ok _
    · exact (Policy.noVerdict_filtersOf context inputs _).map

/-! ## Answers -/

namespace Gateway

theorem noVerdict_countOf (rows : List Dict) : NoVerdict (countOf rows) := by
  unfold countOf
  split
  · exact .ok _
  · split
    · exact Value.noVerdict_toInt _
    · exact .misused _

theorem noVerdict_insertedRecord (r : Request) (data : Dict) (result : WriteResult) :
    NoVerdict (insertedRecord r data result) := by
  unfold insertedRecord
  split
  · exact .ok _
  · exact .ite (.misused _) (.ite (.ok _) (.ok _))

end Gateway

/-! ## Verdicts -/

theorem AccessCall.noVerdict_run {a : Access} (quiet : a.assembler.rules.Quiet) (r : Request)
    (call : AccessCall) : NoVerdict (call.run a r).outcome := by
  match call with
  | .onRows call none =>
    rw [run, ScopedCall.run, Traced.outcome_bind]
    refine (a.resolver.noVerdict_resolve _ _).bind fun p => ?_
    rw [Statement.outcome_reported]
    exact ScopedCall.noVerdict_statement quiet r p call
  | .onRows call (some p) =>
    rw [run, Statement.outcome_reported]
    exact ScopedCall.noVerdict_statement quiet r p call
  | .insert data =>
    rw [run, Statement.outcome_reported]
    exact a.noVerdict_insert r data

namespace Gateway

variable {g : Gateway} {r : Request} {fault : Fault}

/-- The policy of the request can be resolved, but the gateway denies callers none of whose roles is
in the table, and this is one. -/
def Denies (g : Gateway) (r : Request) : Prop :=
  g.deniesUnmatched ∧ (∃ p, (g.access.policy r).outcome = .ok p) ∧
    g.access.resolver.table.entries ≠ [] ∧
    ∀ role ∈ r.context.roles, ¬g.access.resolver.table.has role

def denial (r : Request) : Fault :=
  .policyMismatch (.list (r.context.roles.map .text))

theorem policy_verdict (verdict : fault.isVerdict) :
    (g.policy r).outcome = .error fault ↔ g.Denies r ∧ fault = denial r := by
  rw [policy_outcome]
  cases resolved : (g.access.policy r).outcome with
  | error other =>
    have plain := g.access.resolver.noVerdict_resolve r.context (.dict r.inputs)
    constructor
    · intro same
      cases same
      exact absurd resolved (plain.ne_error verdict)
    · rintro ⟨⟨_, ⟨p, known⟩, _⟩, _⟩
      rw [resolved] at known
      cases known
  | ok p =>
    have unmatched : p.isMatched = false ↔
        ∀ role ∈ r.context.roles, ¬g.access.resolver.table.has role := by
      rw [← Bool.not_eq_true, Resolver.isMatched_iff resolved]
      simp only [not_exists, not_and]
    have denies : g.Denies r ↔ (g.deniesUnmatched && !p.isMatched &&
        !g.access.resolver.table.entries.isEmpty) = true := by
      simp only [Denies, resolved, ← unmatched, Bool.and_eq_true, Bool.not_eq_true',
        List.isEmpty_eq_false_iff]
      constructor
      · rintro ⟨denying, _, configured, none⟩
        exact ⟨⟨denying, none⟩, configured⟩
      · rintro ⟨⟨denying, none⟩, configured⟩
        exact ⟨denying, ⟨p, rfl⟩, configured, none⟩
    show (if _ then _ else _) = _ ↔ _
    rw [denies]
    split
    · next denied =>
      rw [denied, Except.error.injEq, denial]
      simp only [true_and, eq_comm]
    · next kept =>
      constructor
      · intro same
        cases same
      · intro denied
        exact absurd denied.1 kept

end Gateway

namespace Operation

variable {fault : Fault}

-- Behind the gateway nothing gives a verdict before a statement is sent.
theorem compiled_verdict {g : Gateway} (quiet : g.access.assembler.rules.Quiet) (r : Request)
    (call : GatewayCall) (verdict : fault.isVerdict) :
    (onGateway g r call).compiled = .error fault ↔ g.Denies r ∧ fault = Gateway.denial r := by
  have plain := AccessCall.noVerdict_run quiet r call.accessCall
  rw [← Gateway.policy_verdict verdict, compiled, Except.bind_eq_error]
  constructor
  · rintro (denied | ⟨p, _, fails⟩)
    · exact denied
    · exact absurd fails (plain.ne_error verdict)
  · exact .inl

end Operation

namespace GatewayCall

def changed? : GatewayCall → Option Value
  | update id _ | delete id => some id
  | find | findById _ | count | insert _ => none

variable {r : Request} {s : Statement} {rows : List Dict} {result : WriteResult} {fault : Fault}

theorem requireChange_verdict {id : Value} (verdict : fault.isVerdict) :
    Gateway.requireChange r id result = .error fault ↔
      result.changes.equal (.int 0) ∧ (Fault.recordNotFound r.table id).isWritable ∧
        fault = .recordNotFound r.table id := by
  rw [Gateway.requireChange]
  split
  · next none =>
    rw [Except.error.injEq, Fault.raised_verdict verdict, eq_comm (a := fault)]
    simp only [none, true_and]
  · next some => simp [some]

/-- The one verdict of an answer is that no record was changed, if it can be worded. -/
theorem answer_verdict {call : GatewayCall} (verdict : fault.isVerdict) :
    call.answer r s rows result = .error fault ↔
      ∃ id, call.changed? = some id ∧ result.changes.equal (.int 0) ∧
        (Fault.recordNotFound r.table id).isWritable ∧ fault = .recordNotFound r.table id := by
  have payload : ∀ data, NoVerdict (Dict.ofValue data) := Dict.noVerdict_ofValue
  cases call with
  | find | findById => simp [answer, changed?]
  | count =>
    have plain := Gateway.noVerdict_countOf rows
    simp [answer, changed?, Except.map_eq_error, plain.ne_error verdict]
  | insert data =>
    have plain : NoVerdict (insertedRow r s data rows result) := by
      refine .ite ?_ ((payload data).bind fun row => Gateway.noVerdict_insertedRecord r row result)
      split
      · exact .ok _
      · exact payload data
    simp [answer, changed?, Except.map_eq_error, plain.ne_error verdict]
  | update id data =>
    have row : NoVerdict (do
        let data ← Dict.ofValue data
        return data.foldl (fun record entry => Dict.put entry.1 entry.2 record)
          [(r.idColumn, id)]) :=
      (payload data).bind fun _ => .ok _
    rw [answer, Except.map_eq_error, updatedRow, Except.bind_eq_error,
      requireChange_verdict verdict]
    constructor
    · rintro (⟨zero, writable, same⟩ | ⟨_, _, fails⟩)
      · exact ⟨id, rfl, zero, writable, same⟩
      · exact absurd fails (row.ne_error verdict)
    · rintro ⟨_, same, zero, writable, rfl⟩
      cases same
      exact .inl ⟨zero, writable, rfl⟩
  | delete id =>
    rw [answer, Except.map_eq_error, requireChange_verdict verdict]
    simp [changed?]

theorem answer_of_unwritable {call : GatewayCall} {id : Value} (changes : call.changed? = some id)
    (zero : result.changes.equal (.int 0))
    (unwritable : (Fault.recordNotFound r.table id).isWritable = false) :
    call.answer r s rows result = .error (.misuse .unreadable) := by
  have required : Gateway.requireChange r id result = .error (.misuse .unreadable) := by
    simp [Gateway.requireChange, zero, Fault.raised, unwritable]
  cases call with
  | update id data =>
    cases changes
    rw [answer, updatedRow, required]
    rfl
  | delete id =>
    cases changes
    rw [answer, required]
    rfl
  | find | findById | count | insert => cases changes

end GatewayCall

end ScopedSql
