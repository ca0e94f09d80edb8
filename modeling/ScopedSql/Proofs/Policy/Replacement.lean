import ScopedSql.Model.Coercion
import ScopedSql.Proofs.Policy.Resolution

/-! A resolver whose role table is set again and again.

A table is read as a whole before it takes the place of the one in force, so one that is refused at
any of its entries leaves no trace. After any such history a resolver answers as one that is made
with the last table that could be read.
-/

set_option autoImplicit false

namespace ScopedSql

section

variable [Check]

/-! ## Tables that are refused -/

namespace RoleTable

def groups (x : Value) : Except Fault (List Value) :=
  if isSingle x then .ok [x] else x.elements

/-- The fault of what a role is given: of what cannot be walked, or of the first group that is no
restriction. -/
inductive GroupsRefused : Value → Fault → Prop where
  | unwalked {x : Value} {fault : Fault} (refused : groups x = .error fault) :
      GroupsRefused x fault
  | group {x group : Value} {earlier later : List Value} {fault : Fault}
      (walked : groups x = .ok (earlier ++ group :: later))
      (before : ∀ other ∈ earlier, ∃ restriction,
        (Restriction.check other).toExcept = .ok restriction)
      (refused : (Restriction.check group).toExcept = .error fault) : GroupsRefused x fault

/-- The fault of an entry: of its groups, or of a role that has too long an integer in it to be
written. -/
inductive EntryRefused : Value × Value → Fault → Prop where
  | groups {role groups : Value} {fault : Fault} (refused : GroupsRefused groups fault) :
      EntryRefused (role, groups) fault
  | role {role groups : Value} {restrictions : List Restriction}
      (read : readRestrictions groups = .ok restrictions) (unwritable : role.isWritable = false) :
      EntryRefused (role, groups) (.misuse .unreadable)

/-- The fault of what is given for a role table: of what has no entries, or of the first entry that
is refused. -/
inductive Refused : Value → Fault → Prop where
  | unmapped {x : Value} {fault : Fault} (given : x.isGiven)
      (entryless : ∀ entries, x ≠ .dict entries)
      (refused : (x.lacking "items" : Except Fault RoleTable) = .error fault) : Refused x fault
  | entry {entry : Value × Value} {earlier later : Dict} {fault : Fault}
      (before : ∀ other ∈ earlier, other.1.isWritable ∧ ∃ restrictions,
        readRestrictions other.2 = .ok restrictions)
      (refused : EntryRefused entry fault) : Refused (.dict (earlier ++ entry :: later)) fault

theorem readRestrictions_eq (x : Value) :
    readRestrictions x = groups x >>= fun found =>
      found.mapM fun group => (Restriction.check group).toExcept := by
  rw [readRestrictions, groups]
  split <;> rfl

theorem readRestrictions_eq_error {x : Value} {fault : Fault} :
    readRestrictions x = .error fault ↔ GroupsRefused x fault := by
  simp only [readRestrictions_eq, Except.bind_eq_error, Except.mapM_eq_error]
  constructor
  · rintro (fails | ⟨_, walked, earlier, group, later, rfl, before, fails⟩)
    · exact .unwalked fails
    · exact .group walked before fails
  · rintro (fails | ⟨walked, before, fails⟩)
    · exact .inl fails
    · exact .inr ⟨_, walked, _, _, _, rfl, before, fails⟩

theorem readEntry_eq_ok {entry : Value × Value} {read : String × List Restriction} :
    readEntry entry = .ok read ↔
      entry.1.written = .ok read.1 ∧ readRestrictions entry.2 = .ok read.2 := by
  simp only [readEntry, Except.bind_eq_ok, Except.pure_eq_ok]
  constructor
  · rintro ⟨restrictions, found, role, written, rfl⟩
    exact ⟨written, found⟩
  · rintro ⟨written, found⟩
    exact ⟨_, found, _, written, rfl⟩

theorem readEntry_passes {entry : Value × Value} :
    (∃ read, readEntry entry = .ok read) ↔
      entry.1.isWritable ∧ ∃ restrictions, readRestrictions entry.2 = .ok restrictions := by
  simp only [readEntry_eq_ok, Value.written_eq_ok, Prod.exists]
  constructor
  · rintro ⟨_, restrictions, ⟨writable, _⟩, found⟩
    exact ⟨writable, restrictions, found⟩
  · rintro ⟨writable, restrictions, found⟩
    exact ⟨_, restrictions, ⟨writable, rfl⟩, found⟩

theorem readEntry_eq_error {entry : Value × Value} {fault : Fault} :
    readEntry entry = .error fault ↔ EntryRefused entry fault := by
  simp only [readEntry, Except.bind_eq_error, readRestrictions_eq_error, Value.written_eq_error]
  constructor
  · rintro (refused | ⟨restrictions, read, ⟨unwritable, rfl⟩ | ⟨_, _, impossible⟩⟩)
    · exact .groups refused
    · exact .role read unwritable
    · cases impossible
  · rintro (refused | ⟨read, unwritable⟩)
    · exact .inl refused
    · exact .inr ⟨_, read, .inl ⟨unwritable, rfl⟩⟩

theorem ofValue_dict_eq_error {entries : Dict} {fault : Fault} :
    ofValue (.dict entries) = .error fault ↔ ∃ earlier entry later,
      entries = earlier ++ entry :: later ∧
        (∀ other ∈ earlier, other.1.isWritable ∧ ∃ restrictions,
          readRestrictions other.2 = .ok restrictions) ∧
        EntryRefused entry fault := by
  have reads : ofValue (.dict entries) =
      (do return ofEntries (← entries.mapM readEntry)) := by
    cases entries <;> rfl
  rw [reads, Except.bind_eq_error]
  simp only [Except.mapM_eq_error, readEntry_eq_error, readEntry_passes]
  constructor
  · rintro (refused | ⟨_, _, impossible⟩)
    · exact refused
    · cases impossible
  · exact .inl

theorem ofValue_eq_error {x : Value} {fault : Fault} :
    ofValue x = .error fault ↔ Refused x fault := by
  constructor
  · intro fails
    by_cases mapped : ∃ entries, x = .dict entries
    · obtain ⟨entries, rfl⟩ := mapped
      obtain ⟨earlier, entry, later, rfl, before, refused⟩ := ofValue_dict_eq_error.mp fails
      exact .entry before refused
    · have entryless : ∀ entries, x ≠ .dict entries := fun entries same => mapped ⟨entries, same⟩
      unfold ofValue at fails
      split at fails
      · next given =>
        split at fails
        · next entries => exact absurd rfl (entryless entries)
        · exact .unmapped given entryless fails
      · cases fails
  · rintro (⟨given, entryless, fails⟩ | ⟨before, refused⟩)
    · unfold ofValue
      rw [if_pos given]
      split
      · next entries => exact absurd rfl (entryless entries)
      · exact fails
    · exact ofValue_dict_eq_error.mpr ⟨_, _, _, rfl, before, refused⟩

end RoleTable

/-! ## Questions and answers -/

/-- What a resolver is asked, with the context and the inputs as a caller gives them. -/
inductive Resolver.Question where
  | role (context : Value)
  | policy (context inputs : Value)
  | exposed (context : Value)

inductive Resolver.Answer where
  | role (found : Option String)
  | policy (p : Policy)
  | exposed (conditions : List Condition)

namespace Resolver

def ask (r : Resolver) : Question → Traced Answer
  | .role context => do
    return .role (← r.role? (← Context.ofValue context))
  | .policy context inputs => do
    return .policy (← r.resolve (← Context.ofValue context) inputs)
  | .exposed context => do
    return .exposed (← r.exposedConditions (← Context.ofValue context))

/-- The resolver after its table was set; a table that is refused leaves it as it was. -/
def set (r : Resolver) (restrictions : Value) : Resolver :=
  match (r.replaceTable restrictions).outcome with
  | .ok replaced => replaced
  | .error _ => r

def afterSets (r : Resolver) (given : List Value) : Resolver :=
  given.foldl set r

variable {r : Resolver} {start priority : Value}

theorem replaceTable_eq_error {restrictions : Value} {fault : Fault} :
    (r.replaceTable restrictions).outcome = .error fault ↔
      RoleTable.Refused restrictions fault := by
  rw [replaceTable_outcome, Except.map_eq_error, RoleTable.ofValue_eq_error]

theorem set_refused {restrictions : Value} {fault : Fault}
    (refused : RoleTable.Refused restrictions fault) : r.set restrictions = r := by
  rw [set, replaceTable_eq_error.mpr refused]

theorem make_eq_ok :
    make start priority = .ok r ↔
      RoleTable.ofValue start = .ok r.table ∧ Priority.ofValue priority = .ok r.priority := by
  simp only [make, Except.bind_eq_ok, Except.pure_eq_ok]
  constructor
  · rintro ⟨table, read, order, ranked, rfl⟩
    exact ⟨read, ranked⟩
  · rintro ⟨read, ranked⟩
    exact ⟨_, read, _, ranked, rfl⟩

/-- A table that is set is refused, or the resolver is then one that is made with it. -/
theorem make_set (made : make start priority = .ok r) (restrictions : Value) :
    (∃ fault, RoleTable.Refused restrictions fault) ∨
      make restrictions priority = .ok (r.set restrictions) := by
  cases read : RoleTable.ofValue restrictions with
  | error fault => exact .inl ⟨fault, RoleTable.ofValue_eq_error.mp read⟩
  | ok table =>
    have replaced : r.set restrictions = { r with table } := by
      rw [set, replaceTable_outcome, read]
      rfl
    rw [replaced]
    exact .inr (make_eq_ok.mpr ⟨read, (make_eq_ok.mp made).2⟩)

/-- After any history the resolver is the one that is made with the last table that was read. -/
theorem make_afterSets (made : make start priority = .ok r) (given : List Value) :
    ∃ earlier last later, start :: given = earlier ++ last :: later ∧
      (∀ restrictions ∈ later, ∃ fault, RoleTable.Refused restrictions fault) ∧
      make last priority = .ok (r.afterSets given) := by
  induction given using List.reverseRecOn with
  | nil => exact ⟨[], start, [], rfl, by simp, made⟩
  | append_singleton given next ih =>
    obtain ⟨earlier, last, later, history, refused, before⟩ := ih
    rw [afterSets, List.foldl_concat]
    rcases make_set before next with ⟨fault, fails⟩ | replaced
    · refine ⟨earlier, last, later ++ [next], ?_, ?_, ?_⟩
      · rw [← List.cons_append, history]
        simp
      · intro restrictions member
        rcases List.mem_append.mp member with among | here
        · exact refused restrictions among
        · exact ⟨fault, List.mem_singleton.mp here ▸ fails⟩
      · show make last priority = .ok (set (r.afterSets given) next)
        rw [set_refused fails]
        exact before
    · exact ⟨start :: given, next, [], by simp, by simp, replaced⟩

theorem afterSets_refused {before after : List Value} {refused : Value} {fault : Fault}
    (fails : RoleTable.Refused refused fault) :
    r.afterSets (before ++ refused :: after) = r.afterSets (before ++ after) := by
  rw [afterSets, List.foldl_append, List.foldl_cons, set_refused fails, ← List.foldl_append]
  rfl

end Resolver

/-- A call that sets a role table fails just if the table is refused, and then every later answer is
as without the call. After any sequence of calls every answer is that of a resolver made with the
last table that was not refused. -/
theorem answers_go_by_last_table_read (start priority : Value) (r : Resolver)
    (made : Resolver.make start priority = .ok r) (given : List Value) :
    (∀ restrictions fault,
      ((r.afterSets given).replaceTable restrictions).outcome = .error fault ↔
        RoleTable.Refused restrictions fault) ∧
    (∀ before refused after fault, given = before ++ refused :: after →
      ((r.afterSets before).replaceTable refused).outcome = .error fault →
        (∀ q, (r.afterSets (before ++ [refused])).ask q = (r.afterSets before).ask q) ∧
        ∀ q, (r.afterSets given).ask q = (r.afterSets (before ++ after)).ask q) ∧
    ∃ earlier last later fresh, start :: given = earlier ++ last :: later ∧
      (∀ restrictions ∈ later, ∃ fault, RoleTable.Refused restrictions fault) ∧
      Resolver.make last priority = .ok fresh ∧
      ∀ q, (r.afterSets given).ask q = fresh.ask q := by
  refine ⟨fun restrictions fault => Resolver.replaceTable_eq_error, ?_, ?_⟩
  · rintro before refused after fault rfl fails
    have turned := Resolver.replaceTable_eq_error.mp fails
    constructor
    · intro q
      rw [Resolver.afterSets_refused turned, List.append_nil]
    · intro q
      rw [Resolver.afterSets_refused turned]
  · obtain ⟨earlier, last, later, history, refused, fresh⟩ := Resolver.make_afterSets made given
    exact ⟨earlier, last, later, _, history, refused, fresh, fun q => rfl⟩

end

/-- A table with an unknown operator, behind groups that are well formed, does not replace the table
of viewers. -/
theorem unknown_operator_leaves_viewers_in_force :
    let viewers : Value := .dict [(.text "viewer", .list [])]
    let broken : Value := .dict [(.text "admin", .list [.dict []]),
      (.text "viewer", .list [.dict [(.text "conditions",
        .list [.dict [(.text "field", .text "id"), (.text "operator", .text "~~")]])]])]
    let r : Resolver := ⟨.empty, none⟩
    Resolver.make .null .null = .ok r ∧
      ((r.afterSets [viewers]).replaceTable broken).outcome =
        .error (.unknownWord "~~" (Vocabulary.words Operator)) ∧
      ∀ q, (r.afterSets [viewers, broken]).ask q = (r.afterSets [viewers]).ask q := by
  intro viewers broken r
  have fails : ((r.afterSets [viewers]).replaceTable broken).outcome =
      .error (.unknownWord "~~" (Vocabulary.words Operator)) := by
    cbv
  obtain ⟨_, skips, _⟩ := answers_go_by_last_table_read .null .null r rfl [viewers, broken]
  exact ⟨rfl, fails, (skips [viewers] broken [] _ rfl fails).2⟩

end ScopedSql
