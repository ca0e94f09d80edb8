import ScopedSql.Proofs.Filter
import ScopedSql.Proofs.Keys
import ScopedSql.Proofs.Predicate.Truth
import ScopedSql.Tenancy

/-! What a tenant's reads see of what tenants write.

The filter behind a tenant's reads and the entry in its new rows have one column and one value, and
an id without a filter leaves no entry either. So a row that names no tenant itself is found by the
reads of the tenant that it was written for, however the ids are spelled, and by no other tenant's.
-/

set_option autoImplicit false

namespace ScopedSql

/-! ## Payloads as rows -/

namespace Dict

/-- A payload as a row: under a column stands what the payload has under the column's name. -/
def row (entries : Dict) : Row := fun column =>
  ((entries.find? fun entry => entry.1.asText?.map Identifier.segmentsOf = some column).map
    (·.2)).getD .null

def others (entries : Dict) (name : String) : Dict :=
  entries.filter fun entry => !entry.1.equal (.text name)

theorem row_segmentsOf (entries : Dict) (name : String) :
    entries.row (Identifier.segmentsOf name) = (entries.at? name).getD .null := by
  have named : ∀ entry : Value × Value,
      decide (entry.1.asText?.map Identifier.segmentsOf = some (Identifier.segmentsOf name)) =
        entry.1.equal (.text name) := by
    intro entry
    rw [Bool.eq_iff_iff, decide_eq_true_iff, Value.equal_text_iff]
    constructor
    · intro same
      obtain ⟨s, text, segments⟩ := Option.map_eq_some_iff.mp same
      rw [text, Identifier.segmentsOf_injective segments]
    · intro text
      rw [text, Option.map_some]
  simp only [row, at?, get?, named]

theorem others_put (name : String) (x : Value) (entries : Dict) :
    (put (.text name) x entries).others name = entries.others name := by
  induction entries with
  | nil => simp [put, others, Value.equal_text_iff, Value.asText?]
  | cons entry rest ih =>
    by_cases taken : entry.1.equal (.text name)
    · simp [put, others, taken]
    · simp only [others] at ih ⊢
      simp [put, taken, ih]

end Dict

/-! ## One tenant's reads and another's writes -/

namespace Tenancy

variable {t : Tenancy} {id : Value}

/-- The id names a tenant whose rows are told apart by the column. -/
def TellsApart (t : Tenancy) (id : Value) : Prop :=
  t.strategy = .column ∧ t.tenant id ≠ t.defaultTenant

def tenantFilter (t : Tenancy) (id : Value) : Filter :=
  ⟨.text t.column, .eq, .text (t.tenant id)⟩

theorem discriminator_told (told : t.TellsApart id) :
    t.discriminator? id = some (t.tenant id) := if_pos told

theorem discriminator_untold (untold : ¬ t.TellsApart id) : t.discriminator? id = Option.none :=
  if_neg untold

theorem filtersFor_told (told : t.TellsApart id) (filters : Value) :
    t.filtersFor filters id =
      (FilterItem.listOf filters).map (· ++ [.single (t.tenantFilter id)]) := by
  have guarded : ∀ items, t.scope items id = items ++ [.single (t.tenantFilter id)] := by
    intro items
    rw [scope, filter?, discriminator_told told]
    rfl
  simp only [filtersFor, guarded]
  rfl

theorem filtersFor_untold (untold : ¬ t.TellsApart id) (filters : Value) :
    t.filtersFor filters id = FilterItem.listOf filters := by
  have unguarded : ∀ items, t.scope items id = items := by
    intro items
    rw [scope, filter?, discriminator_untold untold]
    exact List.append_nil items
  simp [filtersFor, unguarded]

theorem stamp_told (told : t.TellsApart id) (entries : Dict) :
    t.stamp entries id = entries.put (.text t.column) (.text (t.tenant id)) := by
  rw [stamp, discriminator_told told]

theorem stamp_untold (untold : ¬ t.TellsApart id) (entries : Dict) :
    t.stamp entries id = entries := by
  rw [stamp, discriminator_untold untold]

theorem entriesFor_eq_ok {data : Value} {written : Dict} :
    t.entriesFor data id = .ok written ↔
      ∃ entries, Dict.ofValue data = .ok entries ∧ t.stamp entries id = written := by
  rw [entriesFor, Except.bind_eq_ok]
  simp only [Except.pure_eq_ok]

theorem entriesFor_told (told : t.TellsApart id) (data : Value) :
    t.entriesFor data id =
      (Dict.ofValue data).map (Dict.put (.text t.column) (.text (t.tenant id))) := by
  simp only [entriesFor, stamp_told told]
  rfl

theorem entriesFor_untold (untold : ¬ t.TellsApart id) (data : Value) :
    t.entriesFor data id = Dict.ofValue data := by
  simp [entriesFor, stamp_untold untold]

theorem others_stamp (t : Tenancy) (entries : Dict) (id : Value) :
    (t.stamp entries id).others t.column = entries.others t.column := by
  by_cases told : t.TellsApart id
  · rw [stamp_told told, Dict.others_put]
  · rw [stamp_untold told]

theorem stamp_of_absent (t : Tenancy) (id : Value) {entries : Dict}
    (free : entries.at? t.column = Option.none) :
    t.stamp entries id = entries ∨
      t.stamp entries id = entries ++ [(.text t.column, .text (t.tenant id))] := by
  by_cases told : t.TellsApart id
  · right
    rw [stamp_told told, Dict.put_of_absent _ free]
  · left
    exact stamp_untold told entries

theorem at?_stamp (t : Tenancy) (id : Value) {entries : Dict}
    (free : entries.at? t.column = Option.none) :
    (t.stamp entries id).at? t.column = (t.discriminator? id).map .text := by
  cases told : t.discriminator? id with
  | none => rw [stamp, told, free, Option.map_none]
  | some tenant =>
    rw [stamp, told, Option.map_some]
    exact (Dict.at?_put t.column t.column (.text tenant) entries).trans (if_pos rfl)

/-- A row that names no tenant is found by the reads of the tenant that it was written for. -/
theorem finds_stamped_iff {reader writer : Value} (told : t.TellsApart reader) {entries : Dict}
    (free : entries.at? t.column = Option.none) :
    (t.tenantFilter reader).atom.truth .plain (t.stamp entries writer).row = some true ↔
      t.tenant writer = t.tenant reader := by
  have compared : (t.tenantFilter reader).atom.truth .plain (t.stamp entries writer).row =
      Database.plain.compare .eq (((t.discriminator? writer).map .text).getD .null)
        (.text (t.tenant reader)) := by
    rw [← t.at?_stamp writer free, ← Dict.row_segmentsOf]
    rfl
  rw [compared]
  -- A writer who is not told apart is the default tenant, which the reader is not.
  by_cases apart : t.TellsApart writer
  · rw [discriminator_told apart]
    simp [Database.compare, Database.plain, Value.isNull, Value.equal_text_iff, Value.asText?]
  · have default : t.tenant writer = t.defaultTenant := by
      by_contra named
      exact apart ⟨told.1, named⟩
    rw [discriminator_untold apart, default]
    simp [Database.compare, Value.isNull, Ne.symm told.2]

end Tenancy

/-- An id has a filter behind its reads just if its new rows have an entry, under one column and
with one value, and nothing else of a list or a payload changes. A payload that names no tenant
itself is found through a tenant's filter just if it was written for the same tenant. -/
theorem tenant_reads_see_tenant_writes (t : Tenancy) (reader writer : Value) :
    (t.TellsApart reader →
      (∀ filters, t.filtersFor filters reader =
        (FilterItem.listOf filters).map (· ++ [.single (t.tenantFilter reader)])) ∧
      ∀ data, t.entriesFor data reader =
        (Dict.ofValue data).map (Dict.put (.text t.column) (.text (t.tenant reader)))) ∧
    (¬ t.TellsApart reader →
      (∀ filters, t.filtersFor filters reader = FilterItem.listOf filters) ∧
      ∀ data, t.entriesFor data reader = Dict.ofValue data) ∧
    (∀ items, FilterItem.listOf (.list (items.map FilterItem.toValue)) = .ok items) ∧
    (∀ data entries written, Dict.ofValue data = .ok entries →
      t.entriesFor data reader = .ok written →
        written.others t.column = entries.others t.column ∧
        (entries.at? t.column = none →
          written = entries ∨ written = entries ++ [(.text t.column, .text (t.tenant reader))])) ∧
    (t.TellsApart reader → ∀ data entries written, Dict.ofValue data = .ok entries →
      t.entriesFor data writer = .ok written → entries.at? t.column = none →
        ((t.tenantFilter reader).atom.truth .plain written.row = some true ↔
          t.tenant writer = t.tenant reader)) := by
  refine ⟨fun told => ⟨Tenancy.filtersFor_told told, Tenancy.entriesFor_told told⟩,
    fun untold => ⟨Tenancy.filtersFor_untold untold, Tenancy.entriesFor_untold untold⟩,
    FilterItem.listOf_toValue, ?_, ?_⟩
  · intro data entries written read stamped
    obtain ⟨_, again, rfl⟩ := Tenancy.entriesFor_eq_ok.mp stamped
    obtain rfl := Except.ok.inj (read.symm.trans again)
    exact ⟨t.others_stamp entries reader, t.stamp_of_absent reader⟩
  · intro told data entries written read stamped free
    obtain ⟨_, again, rfl⟩ := Tenancy.entriesFor_eq_ok.mp stamped
    obtain rfl := Except.ok.inj (read.symm.trans again)
    exact Tenancy.finds_stamped_iff told free

/-- The reads of a tenant whose id has blanks around it find the tenant's rows, but not those of a
tenant whose name differs in letter case. -/
theorem blanks_around_id_keep_rows_visible :
    let t : Tenancy := ⟨.column, "org", "_", "main"⟩
    let rowFor := fun tenant : String => Dict.row [(.text "n", .int 1), (.text "org", .text tenant)]
    t.TellsApart (.text " acme ") ∧
      t.entriesFor (.dict [(.text "n", .int 1)]) (.text "acme") =
        .ok [(.text "n", .int 1), (.text "org", .text "acme")] ∧
      (t.tenantFilter (.text " acme ")).atom.truth .plain (rowFor "acme") = some true ∧
      (t.tenantFilter (.text " acme ")).atom.truth .plain (rowFor "ACME") ≠ some true := by
  intro t rowFor
  have told : t.TellsApart (.text " acme ") := by
    refine ⟨rfl, ?_⟩
    decide +kernel
  have found : ∀ name, t.entriesFor (.dict [(.text "n", .int 1)]) (.text name) =
      .ok [(.text "n", .int 1), (.text "org", .text name)] →
        ((t.tenantFilter (.text " acme ")).atom.truth .plain (rowFor name) = some true ↔
          t.tenant (.text name) = t.tenant (.text " acme ")) := fun name stamped =>
    (tenant_reads_see_tenant_writes t (.text " acme ") (.text name)).2.2.2.2 told
      _ [(.text "n", .int 1)] _ rfl stamped rfl
  refine ⟨told, rfl, ?_, ?_⟩
  · rw [found "acme" rfl]
    decide +kernel
  · rw [ne_eq, found "ACME" rfl]
    decide +kernel

end ScopedSql
