import ScopedSql.Proofs.Predicate.Atom

/-! The truth of predicates on rows.

A comparison with a null is neither true nor false but unknown, and a clause finds a row only where
it is true of it. What a database makes of two values that are not null is left open, but for one
rule of patterns: signs for any characters, and nothing else, fit every text.
-/

set_option autoImplicit false

namespace ScopedSql

/-! ## Three truth values -/

/-- The truth of a predicate; nothing if it is unknown. -/
abbrev Truth := Option Bool

namespace Truth

def and : Truth → Truth → Truth
  | some false, _ | _, some false => some false
  | some true, some true => some true
  | _, _ => none

def or : Truth → Truth → Truth
  | some true, _ | _, some true => some true
  | some false, some false => some false
  | _, _ => none

theorem and_eq_true {p q : Truth} : p.and q = some true ↔ p = some true ∧ q = some true := by
  revert p q
  decide

end Truth

def Value.isNull : Value → Bool
  | null => true
  | _ => false

/-! ## Databases -/

structure Database where
  decides : Comparison → Value → Value → Truth
  fits_text : ∀ s pattern : String, pattern ≠ "" → (∀ c ∈ pattern.toList, c = '%') →
    decides .like (.text s) (.text pattern) = some true

namespace Database

def compare (db : Database) (comparison : Comparison) (x y : Value) : Truth :=
  if x.isNull || y.isNull then none else db.decides comparison x y

theorem compare_null (db : Database) (comparison : Comparison) (x : Value) :
    db.compare comparison x .null = none := by
  simp [compare, Value.isNull]

theorem compare_fits (db : Database) (s : String) {pattern : String} (given : pattern ≠ "")
    (signs : ∀ c ∈ pattern.toList, c = '%') :
    db.compare .like (.text s) (.text pattern) = some true :=
  db.fits_text s pattern given signs

/-- Whether a pattern fits a text: a percent sign stands for any characters, an underscore for
one. -/
def fits : List Char → List Char → Bool
  | [], cs => cs.isEmpty
  | '%' :: pattern, cs => cs.tails.any (fits pattern)
  | '_' :: pattern, _ :: cs => fits pattern cs
  | p :: pattern, c :: cs => p == c && fits pattern cs
  | _ :: _, [] => false

theorem fits_of_signs {pattern : List Char} (given : pattern ≠ []) (signs : ∀ c ∈ pattern, c = '%')
    (cs : List Char) : fits pattern cs := by
  induction pattern with
  | nil => exact absurd rfl given
  | cons p pattern ih =>
    obtain rfl : p = '%' := signs p (by simp)
    rw [fits, List.any_eq_true]
    cases pattern with
    | nil => exact ⟨[], by simp, rfl⟩
    | cons q pattern => exact ⟨cs, by simp, ih (by simp) fun c member => signs c (by simp [member])⟩

def plain : Database where
  decides
    | .eq, x, y => some (x.equal y)
    | .neq, x, y => some (!x.equal y)
    | .lt, x, y => x.isBelow? y
    | .gt, x, y => y.isBelow? x
    | .lte, x, y => (y.isBelow? x).map not
    | .gte, x, y => (x.isBelow? y).map not
    | .like, x, y => do return fits (← y.asText?).toList (← x.asText?).toList
  fits_text s pattern given signs := by
    have fit : fits pattern.toList s.toList := fits_of_signs (by simpa using given) signs _
    simp [Value.asText?, fit]

end Database

/-! ## Rows -/

abbrev Row := List String → Value

namespace Atom

def truth (db : Database) (row : Row) : Atom Value → Truth
  | compare column comparison x => db.compare comparison (row column) x
  | isIn column x xs => xs.foldl (fun p y => p.or (db.compare .eq (row column) y))
      (db.compare .eq (row column) x)
  | notIn column x xs => (xs.foldl (fun p y => p.or (db.compare .eq (row column) y))
      (db.compare .eq (row column) x)).map not
  | isNull column => some (row column).isNull
  | isNotNull column => some !(row column).isNull
  | never => some false
  | always => some true

end Atom

namespace Formula

def truth (db : Database) (row : Row) : {k : Strength} → Formula Value k → Truth
  | _, .atom a => a.truth db row
  | _, .group inner => inner.truth db row
  | _, .factor f => f.truth db row
  | _, .and f rest => (f.truth db row).and (rest.truth db row)
  | _, .conjunction c => c.truth db row
  | _, .or c rest => (c.truth db row).or (rest.truth db row)

-- A formula is true of a row only if all that it joins by `AND` is.
theorem truth_of_mem_conjuncts {db : Database} {row : Row} {k : Strength} {c : Formula Value k}
    (found : c.truth db row = some true) {f : Formula Value .factor} (member : f ∈ c.conjuncts) :
    f.truth db row = some true := by
  induction c with
  | atom a =>
    rw [List.mem_singleton.mp member]
    exact found
  | group inner =>
    rw [List.mem_singleton.mp member]
    exact found
  | factor g =>
    rw [List.mem_singleton.mp member]
    exact found
  | and g rest _ ih =>
    obtain ⟨head, tail⟩ := Truth.and_eq_true.mp found
    rcases List.mem_cons.mp member with rfl | later
    · exact head
    · exact ih tail later
  | conjunction c ih => exact ih found member
  | or c rest =>
    rw [List.mem_singleton.mp member]
    exact found

end Formula

namespace Scope

def Finds (db : Database) (row : Row) : Scope Value → Prop
  | none => True
  | some c => c.truth db row = some true

theorem Finds.conjunct {db : Database} {row : Row} {scope : Scope Value}
    (found : scope.Finds db row) {f : Formula Value .factor} (member : f ∈ scope.conjuncts) : f.truth db row = some true := by
  cases scope with
  | none => cases member
  | some c => exact Formula.truth_of_mem_conjuncts found member

end Scope

end ScopedSql
