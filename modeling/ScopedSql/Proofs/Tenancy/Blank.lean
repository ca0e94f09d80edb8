import ScopedSql.Proofs.Tenancy.Alike
import ScopedSql.Proofs.Tenancy.Row

/-! Blank tenant ids.

A request looks to its context for the tenant only where it has no id at all; an id that is there
but blank stands for the default tenant at once. So a blank id is what a missing one is just where
the context's tenant is the default too, or where tenants are not told apart.
-/

set_option autoImplicit false

namespace ScopedSql

/-! ## Tenants of blank and missing ids -/

theorem Text.trim_eq_empty {s : String} (blank : s.toList.all isBlank) : trim s = "" := by
  have dropped : s.toList.dropWhile isBlank = [] := by
    rw [List.dropWhile_eq_nil_iff]
    exact List.all_eq_true.mp blank
  simp [trim, strip, dropped]

theorem Tenancy.tenant_blank {t : Tenancy} {blank : String}
    (isBlank : blank.toList.all Text.isBlank) : t.tenant (.text blank) = t.defaultTenant := by
  simp [tenant, resolveId, Value.plain, Text.trim_eq_empty isBlank]

/-! ## Calls that show the tenant -/

namespace Assembler

-- A name that is refused stands in the fault as it was given.
theorem nameSql_eq_error {name : String} {fault : Fault}
    (refused : nameSql (.text name) = .error fault) :
    ∃ segment, fault = .invalidIdentifier (.text name) segment := by
  rw [nameSql, Identifier.ofValue_text, Identifier.ofText] at refused
  split at refused
  · cases refused
  · cases refused
    exact ⟨_, rfl⟩

variable {a : Assembler} {row : Dict} {asked : Value}

-- A row that can be written shows the name of its table, in the statement or in the fault.
theorem insert_injective {columns : List Sql} (nonempty : row ≠ [])
    (written : row.mapM (fun entry => nameSql entry.1) = .ok columns) {name name' : String}
    (same : a.insert (.text name) row asked = a.insert (.text name') row asked) : name = name' := by
  have given : row.isEmpty = false := by simpa using nonempty
  simp only [insert, given, Bool.false_eq_true, if_false, written] at same
  cases first : nameSql (.text name) with
  | ok n =>
    cases second : nameSql (.text name') with
    | ok n' =>
      rw [first, second] at same
      have tables := congrArg Statement.table (Except.ok.inj same)
      exact Value.text.inj tables
    | error fault' =>
      rw [first, second] at same
      cases same
  | error fault =>
    cases second : nameSql (.text name') with
    | ok n' =>
      rw [first, second] at same
      cases same
    | error fault' =>
      rw [first, second] at same
      obtain rfl : fault = fault' := Except.error.inj same
      obtain ⟨segment, rfl⟩ := nameSql_eq_error first
      obtain ⟨segment', names⟩ := nameSql_eq_error second
      cases names
      rfl

end Assembler

namespace Access

variable {a : Access} {r r' : Request} {row : Dict} {columns : List Sql}

def insertNamed (a : Access) (row : Dict) (name tenant : String) : Except Fault Statement :=
  if Identifier.isSegment tenant then
    let separator := if a.tenancy.strategy = .schema then "." else a.tenancy.separator
    a.assembler.insert (.text (tenant ++ (separator ++ name))) row .null
  else .error (.invalidIdentifier (.text tenant) (.text tenant))

theorem insert_eq_insertNamed (names : a.tenancy.namesTables) {name : String}
    (table : r.table = .text name) :
    a.insert r (.dict row) = a.insertNamed row name (a.tenancy.tenant r.effectiveTenant) := by
  have unstamped : a.tenancy.stamp row r.effectiveTenant = row := by
    have column : a.tenancy.strategy ≠ .column := by
      intro column
      simp [Tenancy.namesTables, column] at names
    simp [Tenancy.stamp, Tenancy.discriminator?, column]
  rw [insert_dict, unstamped, insertNamed, Access.table, Tenancy.table, table,
    Value.written_text]
  simp only [names, if_true]
  split
  · rw [← String.append_assoc]
    rfl
  · rfl

-- The fault of a long name is not that of a tenant.
theorem insertNamed_ne_error (nonempty : row ≠ [])
    (written : row.mapM (fun entry => Assembler.nameSql entry.1) = .ok columns)
    {name tenant tenant' : String} (long : tenant'.length < name.length)
    (segment : Identifier.isSegment tenant) :
    a.insertNamed row name tenant ≠
      .error (.invalidIdentifier (.text tenant') (.text tenant')) := by
  have given : row.isEmpty = false := by simpa using nonempty
  intro same
  simp only [insertNamed, segment, if_true, Assembler.insert, given, Bool.false_eq_true, if_false,
    written] at same
  generalize whole : tenant ++ _ = named at same
  cases refused : Assembler.nameSql (.text named) with
  | ok n =>
    rw [refused] at same
    cases same
  | error fault =>
    rw [refused] at same
    obtain ⟨part, rfl⟩ := Assembler.nameSql_eq_error refused
    have shown : named = tenant' := by
      cases same
      rfl
    have lengths := congrArg String.length (whole.trans shown)
    simp only [String.length_append] at lengths
    omega

theorem insertNamed_injective (nonempty : row ≠ [])
    (written : row.mapM (fun entry => Assembler.nameSql entry.1) = .ok columns)
    {name tenant tenant' : String} (long : tenant.length < name.length)
    (long' : tenant'.length < name.length)
    (same : a.insertNamed row name tenant = a.insertNamed row name tenant') : tenant = tenant' := by
  by_cases segment : Identifier.isSegment tenant
  · by_cases segment' : Identifier.isSegment tenant'
    · rw [insertNamed, insertNamed, if_pos segment, if_pos segment'] at same
      have names := Assembler.insert_injective nonempty written same
      simpa using names
    · rw [insertNamed.eq_def _ _ _ tenant', if_neg segment'] at same
      exact (insertNamed_ne_error nonempty written long' segment same).elim
  · by_cases segment' : Identifier.isSegment tenant'
    · rw [insertNamed, if_neg segment] at same
      exact (insertNamed_ne_error nonempty written long segment' same.symm).elim
    · rw [insertNamed, insertNamed, if_neg segment, if_neg segment'] at same
      cases same
      rfl

def plainRow : Dict := [(.text "a", .int 1)]

theorem plainRow_written : plainRow.mapM (fun entry => Assembler.nameSql entry.1) =
    .ok [[.name ⟨["a"], by decide +kernel⟩]] := rfl

theorem tenant_eq_of_named (same : a.insert r (.dict plainRow) = a.insert r' (.dict plainRow))
    (names : a.tenancy.namesTables) {name : String}
    (table : r.table = .text name) (table' : r'.table = .text name)
    (long : (a.tenancy.tenant r.effectiveTenant).length < name.length)
    (long' : (a.tenancy.tenant r'.effectiveTenant).length < name.length) :
    a.tenancy.tenant r.effectiveTenant = a.tenancy.tenant r'.effectiveTenant := by
  rw [insert_eq_insertNamed names table, insert_eq_insertNamed names table'] at same
  exact insertNamed_injective (by simp [plainRow]) plainRow_written long long' same

-- A new row binds the tenant that the column tells apart.
theorem discriminator_of_column
    (same : a.insert r (.dict plainRow) = a.insert r' (.dict plainRow))
    (column : a.tenancy.strategy = .column) (table : r.table = .text "t")
    (untold : a.tenancy.discriminator? r.effectiveTenant = none) :
    a.tenancy.discriminator? r'.effectiveTenant = none := by
  have named : a.table r = .ok (.text "t") := by
    simp [Access.table, Tenancy.table, Tenancy.namesTables, column, table]
  have unstamped : a.insert r (.dict plainRow) = a.assembler.insert (.text "t") plainRow .null := by
    rw [insert_dict, named, Tenancy.stamp, untold]
    rfl
  obtain ⟨s, written⟩ : ∃ s, a.insert r (.dict plainRow) = .ok s := unstamped ▸ ⟨_, rfl⟩
  have params : s.params = [.int 1] := Assembler.insert_params (unstamped ▸ written)
  by_contra told
  obtain ⟨tenant, told⟩ := Option.ne_none_iff_exists'.mp told
  rw [same, insert_dict, Except.bind_eq_ok] at written
  obtain ⟨x, _, written⟩ := written
  have bound := Dict.mem_put (.text a.tenancy.column) (.text tenant) plainRow
  rw [Assembler.insert_params written, Tenancy.stamp, told] at params
  rw [params] at bound
  cases List.mem_singleton.mp bound

end Access

/-! ## Blank and missing ids -/

namespace Access

variable {a : Access} {blank : String}

theorem run_blank (isBlank : blank.toList.all Text.isBlank) (r : Request)
    (call : AccessCall) :
    call.run a { r with tenantId := .text blank } =
      call.run a { r with tenantId := .null, context := { r.context with tenant := none } } := by
  have default : a.tenancy.tenant (.text blank) = a.tenancy.tenant .null :=
    Tenancy.tenant_blank isBlank
  have alike : Request.AlikeFor a.tenancy { r with tenantId := .text blank }
      { r with tenantId := .null, context := { r.context with tenant := none } } :=
    ⟨rfl, rfl, rfl, rfl, rfl, rfl, .inr default⟩
  exact alike.run call

theorem scope_blank (isBlank : blank.toList.all Text.isBlank) (r : Request)
    (base : List FilterItem) (p : Policy) :
    a.scope { r with tenantId := .text blank } base p = base ++ p.filters := by
  have untold : a.tenancy.discriminator? (.text blank) = none := by
    simp [Tenancy.discriminator?, Tenancy.tenant_blank isBlank]
  show a.tenancy.scope (base ++ p.filters) (.text blank) = base ++ p.filters
  simp [Tenancy.scope, Tenancy.filter?, untold]

theorem run_blank_of_default (isBlank : blank.toList.all Text.isBlank) {r : Request}
    (unseen : a.tenancy.strategy = .none ∨
      a.tenancy.tenant (.ofText? r.context.tenant) = a.tenancy.defaultTenant) (call : AccessCall) :
    call.run a { r with tenantId := .text blank } = call.run a { r with tenantId := .null } := by
  have default : a.tenancy.tenant (.text blank) = a.tenancy.defaultTenant :=
    Tenancy.tenant_blank isBlank
  have tenants : a.tenancy.Alike (.text blank) (.ofText? r.context.tenant) :=
    unseen.imp_right fun named => default.trans named.symm
  have alike : Request.AlikeFor a.tenancy { r with tenantId := .text blank }
      { r with tenantId := .null } := ⟨rfl, rfl, rfl, rfl, rfl, rfl, tenants⟩
  exact alike.run call

-- Requests for every table, which insert one row each.
theorem default_of_run_blank (isBlank : blank.toList.all Text.isBlank) {tenant : Option String}
    (same : ∀ (r : Request) (call : AccessCall), r.context.tenant = tenant →
      call.run a { r with tenantId := .text blank } =
        call.run a { r with tenantId := .null }) :
    a.tenancy.strategy = .none ∨
      a.tenancy.tenant (.ofText? tenant) = a.tenancy.defaultTenant := by
  have default : a.tenancy.tenant (.text blank) = a.tenancy.defaultTenant :=
    Tenancy.tenant_blank isBlank
  have rows : ∀ name,
      a.insert ⟨.text name, [], .empty, .text blank, ⟨none, tenant⟩, [], .text "id"⟩
          (.dict plainRow) =
        a.insert ⟨.text name, [], .empty, .null, ⟨none, tenant⟩, [], .text "id"⟩
          (.dict plainRow) := by
    intro name
    have shown := congrArg Traced.outcome
      (same ⟨.text name, [], .empty, .null, ⟨none, tenant⟩, [], .text "id"⟩
        (.insert (.dict plainRow)) rfl)
    simpa only [AccessCall.run, Statement.outcome_reported] using shown
  by_cases names : a.tenancy.namesTables
  · -- the name of the table is longer than both tenants
    have long := rows (a.tenancy.tenant (.text blank) ++ a.tenancy.tenant (.ofText? tenant) ++ "t")
    have one : "t".length = 1 := rfl
    refine .inr (default ▸ (tenant_eq_of_named long names rfl rfl ?_ ?_).symm)
    · simp only [Request.effectiveTenant, String.length_append]
      omega
    · simp only [Request.effectiveTenant, String.length_append]
      omega
  · by_cases column : a.tenancy.strategy = .column
    · have untold : a.tenancy.discriminator? (.text blank) = none := by
        simp [Tenancy.discriminator?, default]
      have untold' := discriminator_of_column (rows "t") column rfl untold
      simpa [Tenancy.discriminator?, column, Request.effectiveTenant] using untold'
    · refine .inl ?_
      cases strategy : a.tenancy.strategy with
      | none => rfl
      | column => exact (column strategy).elim
      | schema => simp [Tenancy.namesTables, strategy] at names
      | tablePrefix => simp [Tenancy.namesTables, strategy] at names

end Access

/-- A blank id stands for the default tenant, as no id at all does in a context without a tenant.
In a context with one it is what a missing id is just if that tenant is the default or nothing
tells tenants apart. -/
theorem blank_tenant_is_missing_iff (a : Access) (blank : String)
    (isBlank : blank.toList.all Text.isBlank) :
    (∀ (r : Request) (call : AccessCall),
      call.run a { r with tenantId := .text blank } =
        call.run a { r with tenantId := .null, context := { r.context with tenant := none } }) ∧
    (∀ (r : Request) (base : List FilterItem) (p : Policy),
      a.scope { r with tenantId := .text blank } base p = base ++ p.filters) ∧
    ∀ tenant : Option String,
      (∀ (r : Request) (call : AccessCall), r.context.tenant = tenant →
        call.run a { r with tenantId := .text blank } =
          call.run a { r with tenantId := .null }) ↔
      a.tenancy.strategy = .none ∨
        a.tenancy.tenant (.ofText? tenant) = a.tenancy.defaultTenant := by
  refine ⟨Access.run_blank isBlank, Access.scope_blank isBlank, fun tenant => ?_⟩
  constructor
  · exact Access.default_of_run_blank isBlank
  · rintro unseen r call rfl
    exact Access.run_blank_of_default isBlank unseen call

/-- Beside the context's own tenant a blank id is another one, beside the default it is not. -/
theorem spaces_are_missing_beside_default_only :
    (∀ (r : Request) (call : AccessCall), r.context.tenant = some " public " →
      call.run (.make .sqlite ⟨.column, "tenant_id", "_", "public"⟩ ⟨.empty, none⟩)
          { r with tenantId := .text " \t" } =
        call.run (.make .sqlite ⟨.column, "tenant_id", "_", "public"⟩ ⟨.empty, none⟩)
          { r with tenantId := .null }) ∧
    ¬ ∀ (r : Request) (call : AccessCall), r.context.tenant = some "acme" →
      call.run (.make .sqlite ⟨.column, "tenant_id", "_", "public"⟩ ⟨.empty, none⟩)
          { r with tenantId := .text " \t" } =
        call.run (.make .sqlite ⟨.column, "tenant_id", "_", "public"⟩ ⟨.empty, none⟩)
          { r with tenantId := .null } := by
  have blank := blank_tenant_is_missing_iff
    (.make .sqlite ⟨.column, "tenant_id", "_", "public"⟩ ⟨.empty, none⟩)
    " \t" (by decide +kernel)
  refine ⟨(blank.2.2 (some " public ")).mpr (.inr (by decide +kernel)), fun same => ?_⟩
  have default := (blank.2.2 (some "acme")).mp same
  revert default
  decide +kernel

theorem count_with_blank_tenant_is_unrestricted :
    ((AccessCall.onRows .count none).run
        (.make .sqlite ⟨.column, "tenant_id", "_", "public"⟩ ⟨.empty, none⟩)
        ⟨.text "tickets", [], .empty, .null, ⟨none, some "acme"⟩, [], .text "id"⟩).outcome.map
      (fun s => (s.sql, s.params)) =
      .ok ("SELECT COUNT(*) as count FROM \"tickets\" WHERE \"tenant_id\" = ?", [.text "acme"]) ∧
    ((AccessCall.onRows .count none).run
        (.make .sqlite ⟨.column, "tenant_id", "_", "public"⟩ ⟨.empty, none⟩)
        ⟨.text "tickets", [], .empty, .text "  ", ⟨none, some "acme"⟩, [], .text "id"⟩).outcome.map
      (fun s => (s.sql, s.params)) =
      .ok ("SELECT COUNT(*) as count FROM \"tickets\"", []) := by
  constructor
  · cbv
  · cbv

end ScopedSql
