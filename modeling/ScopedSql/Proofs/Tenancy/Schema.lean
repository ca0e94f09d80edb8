import ScopedSql.Proofs.Access.Naming

/-! Tables of tenants that have schemas of their own.

A tenant's id is one segment, so the first dot of a name marks where the schema ends, whatever dots
the table has. A statement names one table, that of its tenant's schema, and no two tenants and no
two tables of one tenant share one. With an id that is no segment there is no statement at all.
-/

set_option autoImplicit false

namespace ScopedSql

/-- The fault of a call that comes before its table is looked at: that of its policy, or of the data
of a new row. -/
def AccessCall.FailsBefore (a : Access) (r : Request) (fault : Fault) : AccessCall → Prop
  | .onRows _ known => a.knownPolicy r known = .error fault
  | .insert data => Dict.ofValue data = .error fault

-- Without a table there is no statement, whatever the call.
theorem AccessCall.run_tableless {a : Access} {r : Request} {fault : Fault}
    (refused : a.table r = .error fault) (call : AccessCall) :
    ∃ found, (call.run a r).outcome = .error found ∧
      (found = fault ∨ call.FailsBefore a r found) := by
  cases call with
  | onRows call known =>
    have compiled : ∀ p, call.statement a r p = .error fault := by
      intro p
      rw [ScopedCall.statement_eq, refused]
      rfl
    rw [onRows_outcome]
    cases policy : a.knownPolicy r known with
    | error early => exact ⟨early, rfl, .inr policy⟩
    | ok p => exact ⟨fault, compiled p, .inl rfl⟩
  | insert data =>
    rw [run, Statement.outcome_reported, Access.insert]
    cases entries : Dict.ofValue data with
    | error early => exact ⟨early, rfl, .inr entries⟩
    | ok found =>
      refine ⟨fault, ?_, .inl rfl⟩
      rw [refused]
      rfl

namespace Tenancy

variable {t : Tenancy}

def qualified (t : Tenancy) (r : Request) : List String :=
  t.tenant r.effectiveTenant :: Identifier.segmentsOf r.table.plain

theorem table_of_schema (bySchema : t.strategy = .schema) {name id x : Value}
    (named : t.table name id = .ok x) :
    Identifier.isSegment (t.tenant id) ∧ x = .text (t.tenant id ++ "." ++ name.plain) := by
  have names : t.namesTables := by simp [namesTables, bySchema]
  simpa [bySchema] using (table_eq_ok names named).2

theorem table_of_no_segment (bySchema : t.strategy = .schema) {id : Value}
    (invalid : ¬Identifier.isSegment (t.tenant id)) (name : Value) :
    t.table name id = .error (.invalidIdentifier (.text (t.tenant id)) (.text (t.tenant id))) := by
  have names : t.namesTables := by simp [namesTables, bySchema]
  rw [table, if_pos names, if_neg invalid]

theorem segments_of_schema (bySchema : t.strategy = .schema) {r : Request} {x : Value}
    (named : t.table r.table r.effectiveTenant = .ok x) : x.segments = t.qualified r := by
  obtain ⟨valid, rfl⟩ := table_of_schema bySchema named
  exact Identifier.segmentsOf_qualified valid r.table.plain

-- The table of a statement, as the statement reads and as it is spelled.
theorem named_of_run (bySchema : t.strategy = .schema) {d : Dialect} {resolver : Resolver}
    {r : Request} {call : AccessCall} {s : Statement}
    (ran : (call.run (Access.make d t resolver) r).outcome = .ok s) :
    ∃ command, Command.ofText d s.sql s.params = some command ∧ command.table = t.qualified r ∧
      s.Names d (call.opening d r) (t.qualified r) := by
  obtain ⟨x, command, named, writes, about⟩ := AccessCall.run_table ran
  obtain ⟨x', named', names⟩ := AccessCall.run_names ran
  obtain rfl : x = x' := Except.ok.inj (named.symm.trans named')
  have segments := segments_of_schema bySchema named
  exact ⟨command, writes.ofText, about.trans segments, segments ▸ names⟩

theorem qualified_eq_iff {r r' : Request} :
    t.qualified r = t.qualified r' ↔
      t.tenant r.effectiveTenant = t.tenant r'.effectiveTenant ∧
        r.table.plain = r'.table.plain := by
  rw [qualified, qualified, List.cons.injEq]
  constructor
  · rintro ⟨tenant, table⟩
    exact ⟨tenant, Identifier.segmentsOf_injective table⟩
  · rintro ⟨tenant, table⟩
    exact ⟨tenant, congrArg _ table⟩

/-- A statement names one table, of the schema of its tenant and spelled with both parts between
quotes. Two statements name one table just if their tenants and their tables are the same, whatever
the calls and the dialects. With an id that is no segment, such as one with a sign or a blank in it,
no call comes to a statement. -/
theorem schemas_isolate_tenants (bySchema : t.strategy = .schema) :
    (∀ (d : Dialect) (resolver : Resolver) (r : Request) (call : AccessCall) (s : Statement),
      (call.run (Access.make d t resolver) r).outcome = .ok s →
      ∃ command rest, Command.ofText d s.sql s.params = some command ∧
        command.table = t.qualified r ∧
        s.sql = call.opening d r ++ (d.spelled [t.tenant r.effectiveTenant] ++ "." ++
          d.spelled (Identifier.segmentsOf r.table.plain)) ++ rest ∧
        (rest = "" ∨ ∃ more, rest = " " ++ more)) ∧
    (∀ (d d' : Dialect) (resolver resolver' : Resolver) (r r' : Request) (call call' : AccessCall)
      (s s' : Statement), (call.run (Access.make d t resolver) r).outcome = .ok s →
      (call'.run (Access.make d' t resolver') r').outcome = .ok s' →
      ∀ command command', Command.ofText d s.sql s.params = some command →
        Command.ofText d' s'.sql s'.params = some command' →
        (command.table = command'.table ↔
          t.tenant r.effectiveTenant = t.tenant r'.effectiveTenant ∧
            r.table.plain = r'.table.plain) ∧
        (d.spelled command.table = d'.spelled command'.table →
          command.table = command'.table)) ∧
    (∀ (a : Access) (r : Request) (call : AccessCall), a.tenancy = t →
      ¬Identifier.isSegment (t.tenant r.effectiveTenant) →
      ∃ fault, (call.run a r).outcome = .error fault ∧
        (fault = .invalidIdentifier (.text (t.tenant r.effectiveTenant))
            (.text (t.tenant r.effectiveTenant)) ∨ call.FailsBefore a r fault)) ∧
    ∀ id, (t.tenant id = "" ∨ ∃ c ∈ (t.tenant id).toList, ¬Identifier.isRest c) →
      ¬Identifier.isSegment (t.tenant id) := by
  refine ⟨?_, ?_, ?_, ?_⟩
  · intro d resolver r call s ran
    obtain ⟨command, reads, about, names⟩ := named_of_run bySchema ran
    obtain ⟨rest, text, ends⟩ := names.text
    refine ⟨command, rest, reads, about, ?_, ends⟩
    rw [text, qualified, Dialect.spelled_cons _ _ (Identifier.segmentsOf_ne_nil _)]
  · intro d d' resolver resolver' r r' call call' s s' ran ran' command command' reads reads'
    obtain ⟨found, read, about, names⟩ := named_of_run bySchema ran
    obtain ⟨found', read', about', names'⟩ := named_of_run bySchema ran'
    obtain rfl : found = command := Option.some.inj (read.symm.trans reads)
    obtain rfl : found' = command' := Option.some.inj (read'.symm.trans reads')
    rw [about, about']
    refine ⟨qualified_eq_iff, fun same => ?_⟩
    exact Dialect.spelled_injective (by simp [qualified]) (by simp [qualified]) names.valid
      names'.valid same
  · rintro a r call rfl invalid
    exact AccessCall.run_tableless (table_of_no_segment bySchema invalid r.table) call
  · rintro id (empty | ⟨c, member, other⟩) valid
    · rw [empty] at valid
      cases valid
    · exact other (Identifier.isRest_of_mem valid member)

/-- One dotted name is a table of its own for each of two tenants, and an id with a dot, which would
reach into the schema of the first, names none. -/
theorem schemas_of_acme_and_beta_apart :
    let t : Tenancy := ⟨.schema, "tenant_id", "_", "public"⟩
    let r (name tenant : String) : Request :=
      ⟨.text name, [], .empty, .text tenant, .empty, [], .text "id"⟩
    let removal : Statement := ⟨"DELETE FROM \"acme\".\"app\".\"users\" WHERE \"id\" = $1", [.int 5],
      .delete, .text "acme.app.users", .text "id", .bool false⟩
    let count : Statement := ⟨"SELECT COUNT(*) as count FROM \"beta\".\"app\".\"users\"", [],
      .count, .text "beta.app.users", .null, .bool false⟩
    ((AccessCall.onRows (.delete (.int 5)) .none).run (.make .postgres t ⟨.empty, .none⟩)
      (r "app.users" " acme ")).outcome = .ok removal ∧
    ((AccessCall.onRows .count .none).run (.make .sqlite t ⟨.empty, .none⟩)
      (r "app.users" "beta")).outcome = .ok count ∧
    (∀ command command', Command.ofText .postgres removal.sql removal.params = some command →
      Command.ofText .sqlite count.sql count.params = some command' →
      command.table ≠ command'.table) ∧
    ∃ fault, ((AccessCall.insert (.dict [(.text "a", .int 1)])).run
      (.make .mysql t ⟨.empty, .none⟩) (r "users" "acme.app")).outcome = .error fault := by
  intro t r removal count
  obtain ⟨_, apart, refused, _⟩ := schemas_isolate_tenants (t := t) rfl
  have ran : ((AccessCall.onRows (.delete (.int 5)) .none).run (.make .postgres t ⟨.empty, .none⟩)
      (r "app.users" " acme ")).outcome = .ok removal := by cbv
  have ran' : ((AccessCall.onRows .count .none).run (.make .sqlite t ⟨.empty, .none⟩)
      (r "app.users" "beta")).outcome = .ok count := by cbv
  have tenants : t.tenant (r "app.users" " acme ").effectiveTenant ≠
      t.tenant (r "app.users" "beta").effectiveTenant := by decide +kernel
  refine ⟨ran, ran', ?_, ?_⟩
  · intro command command' reads reads' same
    have both := (apart _ _ _ _ _ _ _ _ _ _ ran ran' command command' reads reads').1.mp same
    exact tenants both.1
  · obtain ⟨fault, fails, _⟩ := refused (.make .mysql t ⟨.empty, .none⟩) (r "users" "acme.app")
      (.insert (.dict [(.text "a", .int 1)])) rfl (by decide +kernel)
    exact ⟨fault, fails⟩

end Tenancy

end ScopedSql
