import ScopedSql.Proofs.Access.Calls

/-! Tables of tenants that are told apart by a prefix.

The separator may stand in a tenant's id and in a table's name too, so nothing marks where the
prefix ends. The tables of two tenants have one name just if the id of one goes on, behind the id of
the other and a separator, with what the other's table begins with. All other tables are apart, in
the names as in the texts of statements.
-/

set_option autoImplicit false

namespace ScopedSql.Tenancy

/-- The first id is the second one with a part behind a separator, and the second table is the first
one with that part before a separator. -/
def Straddles (tenant table tenant' table' : String) : Prop :=
  ∃ part, tenant = tenant' ++ "_" ++ part ∧ table' = part ++ "_" ++ table

-- One of the two beginnings is longer, by the separator at least.
theorem separated_eq_iff {α : Type} {separator : α} {first first' rest rest' : List α}
    (apart : first ≠ first') :
    first ++ separator :: rest = first' ++ separator :: rest' ↔
      (∃ part, first = first' ++ separator :: part ∧ rest' = part ++ separator :: rest) ∨
        ∃ part, first' = first ++ separator :: part ∧ rest = part ++ separator :: rest' := by
  constructor
  · intro same
    rcases List.append_eq_append_iff.mp same with ⟨more, longer, tail⟩ | ⟨more, longer, tail⟩
    · cases more with
      | nil => exact absurd (by simpa using longer.symm) apart
      | cons c part =>
        obtain ⟨rfl, remains⟩ := List.cons.inj tail
        exact .inr ⟨part, longer, remains⟩
    · cases more with
      | nil => exact absurd (by simpa using longer) apart
      | cons c part =>
        obtain ⟨rfl, remains⟩ := List.cons.inj tail
        exact .inl ⟨part, longer, remains⟩
  · rintro (⟨part, rfl, rfl⟩ | ⟨part, rfl, rfl⟩) <;> simp

theorem straddles_iff {tenant table tenant' table' : String} :
    Straddles tenant table tenant' table' ↔
      ∃ part, tenant.toList = tenant'.toList ++ '_' :: part ∧
        table'.toList = part ++ '_' :: table.toList := by
  constructor
  · rintro ⟨part, rfl, rfl⟩
    exact ⟨part.toList, by simp, by simp⟩
  · rintro ⟨part, longer, begins⟩
    refine ⟨String.ofList part, ?_, ?_⟩
    · apply String.toList_injective
      simpa using longer
    · apply String.toList_injective
      simpa using begins

theorem prefixed_eq_iff {tenant tenant' : String} (apart : tenant ≠ tenant')
    (table table' : String) :
    tenant ++ "_" ++ table = tenant' ++ "_" ++ table' ↔
      Straddles tenant table tenant' table' ∨ Straddles tenant' table' tenant table := by
  have characters : tenant.toList ≠ tenant'.toList := fun same =>
    apart (String.toList_injective same)
  rw [straddles_iff, straddles_iff, ← separated_eq_iff characters, ← String.toList_inj]
  simp

variable {t : Tenancy}

theorem table_of_strategy (byPrefix : t.strategy = .tablePrefix) {name id x : Value}
    (named : t.table name id = .ok x) :
    x = .text (t.tenant id ++ t.separator ++ name.plain) := by
  have names : t.namesTables := by simp [namesTables, byPrefix]
  simpa [byPrefix] using (table_eq_ok names named).2.2

/-- The tables of two tenants have one name just if the ids and the tables straddle the separator,
and two statements are about one table just if their requests' tenants and tables do. -/
theorem prefixed_tables_coincide_iff (byPrefix : t.strategy = .tablePrefix)
    (usual : t.separator = "_") {id id' : Value} (apart : t.tenant id ≠ t.tenant id') :
    (∀ name name' x x' : Value, t.table name id = .ok x → t.table name' id' = .ok x' →
      (x = x' ↔ Straddles (t.tenant id) name.plain (t.tenant id') name'.plain ∨
        Straddles (t.tenant id') name'.plain (t.tenant id) name.plain)) ∧
    (∀ (d d' : Dialect) (resolver resolver' : Resolver) (r r' : Request) (call call' : AccessCall)
      (s s' : Statement), r.effectiveTenant = id → r'.effectiveTenant = id' →
      (call.run (Access.make d t resolver) r).outcome = .ok s →
      (call'.run (Access.make d' t resolver') r').outcome = .ok s' →
      ∃ command command', Command.ofText d s.sql s.params = some command ∧
        Command.ofText d' s'.sql s'.params = some command' ∧
        (command.table = command'.table ↔
          Straddles (t.tenant id) r.table.plain (t.tenant id') r'.table.plain ∨
            Straddles (t.tenant id') r'.table.plain (t.tenant id) r.table.plain)) := by
  have names : ∀ name name' x x' : Value, t.table name id = .ok x → t.table name' id' = .ok x' →
      (x.plain = x'.plain ↔ Straddles (t.tenant id) name.plain (t.tenant id') name'.plain ∨
        Straddles (t.tenant id') name'.plain (t.tenant id) name.plain) := by
    intro name name' x x' named named'
    rw [table_of_strategy byPrefix named, table_of_strategy byPrefix named', usual]
    exact prefixed_eq_iff apart name.plain name'.plain
  constructor
  · intro name name' x x' named named'
    rw [← names name name' x x' named named', table_of_strategy byPrefix named,
      table_of_strategy byPrefix named']
    exact Value.text.injEq _ _ ▸ Iff.rfl
  · rintro d d' resolver resolver' r r' call call' s s' rfl rfl ran ran'
    obtain ⟨x, command, named, writes, about⟩ := AccessCall.run_table ran
    obtain ⟨x', command', named', writes', about'⟩ := AccessCall.run_table ran'
    refine ⟨command, command', writes.ofText, writes'.ofText, ?_⟩
    rw [← names r.table r'.table x x' named named', about, about']
    -- the segments of a dotted name are those of no other name
    exact ⟨Identifier.segmentsOf_injective, congrArg Identifier.segmentsOf⟩

/-- One id goes on where the other ends, but no table begins with what it goes on with. -/
theorem users_of_acme_and_acme_eu_apart :
    Tenancy.tenant ⟨.tablePrefix, "tenant_id", "_", "public"⟩ (.text "acme_eu") ≠
      Tenancy.tenant ⟨.tablePrefix, "tenant_id", "_", "public"⟩ (.text " acme ") ∧
    Value.text "acme_eu_users" ≠ Value.text "acme_users" := by
  have apart : Tenancy.tenant ⟨.tablePrefix, "tenant_id", "_", "public"⟩ (.text "acme_eu") ≠
      Tenancy.tenant ⟨.tablePrefix, "tenant_id", "_", "public"⟩ (.text " acme ") := by
    decide +kernel
  have named : Tenancy.table ⟨.tablePrefix, "tenant_id", "_", "public"⟩ (.text "users")
      (.text "acme_eu") = .ok (.text "acme_eu_users") := by cbv
  have named' : Tenancy.table ⟨.tablePrefix, "tenant_id", "_", "public"⟩ (.text "users")
      (.text " acme ") = .ok (.text "acme_users") := by cbv
  have shorter : (Tenancy.tenant ⟨.tablePrefix, "tenant_id", "_", "public"⟩
      (.text " acme ")).length < (Tenancy.tenant ⟨.tablePrefix, "tenant_id", "_", "public"⟩
      (.text "acme_eu")).length := by decide +kernel
  have coincide := (prefixed_tables_coincide_iff rfl rfl apart).1 _ _ _ _ named named'
  refine ⟨apart, fun same => ?_⟩
  rcases coincide.mp same with ⟨part, _, begins⟩ | ⟨part, longer, _⟩
  · -- the table would begin with a part of itself
    have lengths := congrArg String.length begins
    simp only [String.length_append] at lengths
    have separator : "_".length = 1 := rfl
    omega
  · have lengths := congrArg String.length longer
    simp only [String.length_append] at lengths
    omega

theorem tables_of_two_tenants_coincide :
    Tenancy.tenant ⟨.tablePrefix, "tenant_id", "_", "public"⟩ (.text "a") ≠
      Tenancy.tenant ⟨.tablePrefix, "tenant_id", "_", "public"⟩ (.text "a_b") ∧
    Tenancy.table ⟨.tablePrefix, "tenant_id", "_", "public"⟩ (.text "b_c") (.text "a") =
      .ok (.text "a_b_c") ∧
    Tenancy.table ⟨.tablePrefix, "tenant_id", "_", "public"⟩ (.text "c") (.text "a_b") =
      .ok (.text "a_b_c") := by
  refine ⟨by decide +kernel, by cbv, by cbv⟩

end ScopedSql.Tenancy
