import ScopedSql.Proofs.Access.SharedClauses
import ScopedSql.Proofs.Tenancy.Row

/-! The tenant's column in what is written.

A new row binds the column to the request's own tenant, once, whatever the data has under its name.
An update is not stamped: the column is bound to what the data has, and only the clause behind the
changes keeps to the tenant's rows. So data that names another tenant moves a row there.
-/

set_option autoImplicit false

namespace ScopedSql

/-! ## Calls for a tenant -/

theorem Tenancy.guard_of_told {t : Tenancy} {id : Value} {tenant : String}
    (told : t.discriminator? id = some tenant) :
    t.guard id = [.atom (.compare (Identifier.segmentsOf t.column) .eq (.text tenant))] := by
  unfold discriminator? at told
  split at told
  · next known =>
    cases told
    rw [guard, if_pos known]
  · cases told

namespace Access

variable {a : Access} {r : Request} {s : Statement}

-- The row of a new record has the tenant in one cell under the column.
theorem insert_stamped {entries : Dict} (keyed : entries.Keyed a.tenancy.column) {tenant : String}
    (told : a.tenancy.discriminator? r.effectiveTenant = some tenant)
    (compiled : a.insert r (.dict entries) = .ok s) :
    ∃ table row returned,
      Command.ofText a.assembler.dialect s.sql s.params = some (.insert table row returned) ∧
      Dict.cellsUnder a.tenancy.column row =
        [(Identifier.segmentsOf a.tenancy.column, .text tenant)] := by
  rw [insert_dict, Except.bind_eq_ok] at compiled
  obtain ⟨table, _, compiled⟩ := compiled
  have writes : s.Writes a.assembler.dialect (.ofInsert a.assembler.dialect table
      (a.tenancy.stamp entries r.effectiveTenant) .null) := Assembler.insert_writes compiled
  refine ⟨_, _, _, writes.ofText, ?_⟩
  rw [Tenancy.stamp, told]
  exact Dict.cellsUnder_put keyed (.text tenant)

-- Whatever an update changes, it changes rows of the tenant.
theorem update_guarded (standard : a.assembler.rules = .standard) {id data : Value}
    {known : Option Policy} {tenant : String}
    (told : a.tenancy.discriminator? r.effectiveTenant = some tenant)
    (ran : ((AccessCall.onRows (.update id data) known).run a r).outcome = .ok s) :
    ∃ command, Command.ofText a.assembler.dialect s.sql s.params = some command ∧
      ∀ truth, command.scope.holds truth →
        truth (.compare (Identifier.segmentsOf a.tenancy.column) .eq (.text tenant)) := by
  obtain ⟨⟨d, rules⟩, tenancy, resolver⟩ := a
  cases standard
  obtain ⟨p, _, compiled⟩ := AccessCall.onRows_eq_ok ran
  obtain ⟨_, command, _, writes, _, scope⟩ := ScopedCall.statement_command compiled
  refine ⟨command, writes.ofText, fun truth holds => ?_⟩
  rw [scope, Scope.holds_ofFactors, List.all_eq_true] at holds
  exact holds (.atom (.compare (Identifier.segmentsOf tenancy.column) .eq (.text tenant)))
    (by simp [ScopedCall.factors, Tenancy.guard_of_told told])

end Access

/-- A new row binds the tenant's column once, and to the request's own tenant. An update binds it to
what the data has under its name, if anything, in rows of the tenant. -/
theorem insert_binds_tenant_and_update_binds_data (a : Access)
    (byColumn : a.tenancy.strategy = .column) (r : Request)
    (told : a.tenancy.tenant r.effectiveTenant ≠ a.tenancy.defaultTenant)
    (entries : Dict) (keyed : entries.Keyed a.tenancy.column) :
    (∀ s : Statement, ((AccessCall.insert (.dict entries)).run a r).outcome = .ok s →
      ∃ table row returned,
        Command.ofText a.assembler.dialect s.sql s.params = some (.insert table row returned) ∧
        Dict.cellsUnder a.tenancy.column row = [(Identifier.segmentsOf a.tenancy.column,
          .text (a.tenancy.tenant r.effectiveTenant))]) ∧
    (∀ (id : Value) (known : Option Policy) (s : Statement),
      ((AccessCall.onRows (.update id (.dict entries)) known).run a r).outcome = .ok s →
      (∃ (head : String) (more : List Value) (table : List String)
          (changes : List (List String × Value)),
        s.sql = head ++ " " ++ a.assembler.dialect.clause "" s.sql ∧
        s.params = entries.map (·.2) ++ more ∧
        Command.ofText a.assembler.dialect head (entries.map (·.2)) =
          some (.update table changes none) ∧
        Dict.cellsUnder a.tenancy.column changes = ((entries.at? a.tenancy.column).map
          fun value => (Identifier.segmentsOf a.tenancy.column, value)).toList) ∧
      (a.assembler.rules = .standard → ∃ command,
        Command.ofText a.assembler.dialect s.sql s.params = some command ∧
        ∀ truth, command.scope.holds truth → truth (.compare
          (Identifier.segmentsOf a.tenancy.column) .eq
            (.text (a.tenancy.tenant r.effectiveTenant))))) := by
  have discriminated : a.tenancy.discriminator? r.effectiveTenant =
      some (a.tenancy.tenant r.effectiveTenant) := by
    simp [Tenancy.discriminator?, byColumn, told]
  constructor
  · intro s ran
    exact Access.insert_stamped keyed discriminated (AccessCall.insert_eq_ok ran)
  · intro id known s ran
    constructor
    · obtain ⟨p, _, compiled⟩ := AccessCall.onRows_eq_ok ran
      simp only [ScopedCall.statement, Access.update, Except.bind_eq_ok] at compiled
      obtain ⟨table, _, taken, same, compiled⟩ := compiled
      cases Payload.forUpdate_eq_ok same
      obtain ⟨head, more, text, params, reads⟩ := Assembler.update_opens compiled
      exact ⟨head, more, _, _, text, params, reads, keyed.cellsUnder_eq⟩
    · intro standard
      exact Access.update_guarded standard discriminated ran

theorem insert_overrides_tenant_of_data :
    ∃ table row returned,
      Command.ofText .postgres
          "INSERT INTO \"t\" (\"tenant_id\", \"a\") VALUES ($1, $2) RETURNING *"
          [.text "acme", .int 1] = some (.insert table row returned) ∧
      Dict.cellsUnder "tenant_id" row = [(["tenant_id"], .text "acme")] := by
  have keyed :
      Dict.Keyed [(.text "tenant_id", .text "other"), (.text "a", .int 1)] "tenant_id" := by
    refine Dict.keyed_of_texts ?_ (by simp) "tenant_id"
    decide +kernel
  have tenant : Tenancy.tenant ⟨.column, "tenant_id", "_", "public"⟩ (.text " acme ") = "acme" := by
    decide +kernel
  have segments : Identifier.segmentsOf "tenant_id" = ["tenant_id"] := by decide +kernel
  rw [← tenant, ← segments]
  exact (insert_binds_tenant_and_update_binds_data
    (.make .postgres ⟨.column, "tenant_id", "_", "public"⟩ ⟨.empty, none⟩) rfl
    ⟨.text "t", [], .empty, .text " acme ", .empty, [], .text "id"⟩ (by decide +kernel)
    [(.text "tenant_id", .text "other"), (.text "a", .int 1)] keyed).1
    ⟨"INSERT INTO \"t\" (\"tenant_id\", \"a\") VALUES ($1, $2) RETURNING *", _, .insert,
      .text "t", .null, .bool true⟩ (by cbv)

theorem update_moves_record_to_other_tenant :
    Tenancy.tenant ⟨.column, "tenant_id", "_", "public"⟩ (.text "acme") = "acme" ∧
    ((AccessCall.onRows (.update (.int 3) (.dict [(.text "tenant_id", .text "other")])) none).run
        (.make .postgres ⟨.column, "tenant_id", "_", "public"⟩ ⟨.empty, none⟩)
        ⟨.text "tickets", [], .empty, .text "acme", .empty, [], .text "id"⟩).outcome.map
      (fun s => (s.sql, s.params)) =
      .ok ("UPDATE \"tickets\" SET \"tenant_id\" = $1 WHERE \"id\" = $2 AND \"tenant_id\" = $3",
        [.text "other", .int 3, .text "acme"]) := by
  constructor
  · decide +kernel
  · cbv

end ScopedSql
