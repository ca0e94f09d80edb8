import ScopedSql.Proofs.Access.Calls
import ScopedSql.Proofs.Keys
import ScopedSql.Proofs.Statement.Parameters

/-! Rows of tenants that are told apart by a column.

A new row is written with the tenant under the column's name, in the place of what the row had there
before or behind all else. Keys are compared as values and columns by what is written, so this is
the one place where both have to agree.
-/

set_option autoImplicit false

namespace ScopedSql

namespace Dict

/-- A key is equal to the column just if it is written like it, and at most one key is. -/
structure Keyed (entries : Dict) (column : String) : Prop where
  once : entries.Pairwise fun entry later => ¬ entry.1.equal later.1
  written : ∀ entry ∈ entries,
    entry.1.equal (.text column) ↔ entry.1.segments = Identifier.segmentsOf column

-- Texts that differ are written differently, so no other keys are needed.
theorem keyed_of_texts {entries : Dict}
    (once : entries.Pairwise fun entry later => ¬ entry.1.equal later.1)
    (texts : ∀ entry ∈ entries, ∃ s, entry.1 = .text s) (column : String) :
    entries.Keyed column := by
  refine ⟨once, fun entry member => ?_⟩
  obtain ⟨s, key⟩ := texts entry member
  rw [Value.equal_text_iff, key]
  constructor
  · intro same
    cases same
    rfl
  · intro same
    exact congrArg some (Identifier.segmentsOf_injective same)

theorem Keyed.tail {entry : Value × Value} {entries : Dict} {column : String}
    (keyed : Keyed (entry :: entries) column) : Keyed entries column :=
  ⟨(List.pairwise_cons.mp keyed.once).2, fun later member => keyed.written later (by simp [member])⟩

theorem mem_put (key value : Value) (entries : Dict) :
    value ∈ (put key value entries).map (·.2) := by
  induction entries with
  | nil => simp [put]
  | cons entry rest ih =>
    rw [put]
    split
    · simp
    · simp [ih]

def cellsUnder (column : String) (row : List (List String × Value)) : List (List String × Value) :=
  row.filter fun cell => cell.1 = Identifier.segmentsOf column

theorem cellsUnder_cons (column : String) (entry : Value × Value) (rest : Dict) :
    cellsUnder column (Command.rowOf (entry :: rest)) =
      if entry.1.segments = Identifier.segmentsOf column then
        (entry.1.segments, entry.2) :: cellsUnder column (Command.rowOf rest)
      else cellsUnder column (Command.rowOf rest) := by
  simp [cellsUnder, Command.rowOf, List.filter_cons]

-- Behind a key that is the column there is no other one.
theorem Keyed.cellsUnder_rest {entry : Value × Value} {rest : Dict} {column : String}
    (keyed : Keyed (entry :: rest) column) (same : entry.1.equal (.text column)) :
    cellsUnder column (Command.rowOf rest) = [] := by
  rw [cellsUnder, List.filter_eq_nil_iff]
  intro cell member
  obtain ⟨later, among, rfl⟩ := List.mem_map.mp member
  have apart : ¬ entry.1.equal later.1 := (List.pairwise_cons.mp keyed.once).1 later among
  intro named
  have equal : later.1.equal (.text column) :=
    (keyed.written later (by simp [among])).mpr (of_decide_eq_true named)
  exact apart
    (Value.equal_of_asText? (Value.equal_text_iff.mp same) (Value.equal_text_iff.mp equal))

theorem cellsUnder_put {entries : Dict} {column : String} (keyed : entries.Keyed column)
    (value : Value) :
    cellsUnder column (Command.rowOf (put (.text column) value entries)) =
      [(Identifier.segmentsOf column, value)] := by
  induction entries with
  | nil =>
    rw [put, cellsUnder_cons]
    exact if_pos rfl
  | cons entry rest ih =>
    have written := keyed.written entry (by simp)
    by_cases same : entry.1.equal (.text column)
    · have segments := written.mp same
      rw [put, if_pos same, cellsUnder_cons, if_pos segments, keyed.cellsUnder_rest same, segments]
    · have segments : ¬ entry.1.segments = Identifier.segmentsOf column := fun named =>
        same (written.mpr named)
      rw [put, if_neg same, cellsUnder_cons, if_neg segments, ih keyed.tail]

-- Under a column stands what the row has under its name, if anything.
theorem Keyed.cellsUnder_eq {entries : Dict} {column : String} (keyed : entries.Keyed column) :
    cellsUnder column (Command.rowOf entries) =
      ((entries.at? column).map fun value => (Identifier.segmentsOf column, value)).toList := by
  induction entries with
  | nil => rfl
  | cons entry rest ih =>
    have written := keyed.written entry (by simp)
    by_cases same : entry.1.equal (.text column)
    · have segments := written.mp same
      rw [cellsUnder_cons, if_pos segments, keyed.cellsUnder_rest same, segments]
      simp [at?, get?, same]
    · have segments : ¬ entry.1.segments = Identifier.segmentsOf column := fun named =>
        same (written.mpr named)
      rw [cellsUnder_cons, if_neg segments, ih keyed.tail]
      simp [at?, get?, same]

end Dict

/-! ## New rows -/

theorem Assembler.insert_params {a : Assembler} {table : Value} {row : Dict} {asked : Value}
    {s : Statement} (compiled : a.insert table row asked = .ok s) : s.params = row.map (·.2) := by
  have writes : s.Writes a.dialect (.ofInsert a.dialect table row asked) := insert_writes compiled
  rw [writes.params_eq]
  exact StatementOrder.operands_command a.dialect (.insert table (.dict row) asked)

theorem Access.insert_dict (a : Access) (r : Request) (row : Dict) :
    a.insert r (.dict row) = a.table r >>= fun table =>
      a.assembler.insert table (a.tenancy.stamp row r.effectiveTenant) .null := rfl

end ScopedSql
