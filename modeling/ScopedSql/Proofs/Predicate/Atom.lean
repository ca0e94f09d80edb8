import ScopedSql.Predicate.Where
import ScopedSql.Proofs.Outcome
import ScopedSql.Proofs.Reading.Formula
import ScopedSql.Proofs.Reading.Rendering

/-! The atoms of filters and the factors of filter lists.

What a filter means is said here without its text: its column, its comparison and the values that
its operator binds. Compiled predicates read as these atoms and compiled groups as the factors
made of them, whatever the values are.
-/

set_option autoImplicit false

namespace ScopedSql

open Sql

/-! ## Meaning -/

namespace Filter

def column (f : Filter) : List String :=
  Identifier.segmentsOf f.field.plain

/-- The values to be a member of; a mapping has none. -/
def members (f : Filter) : List Value :=
  (Test.valueList f.value).toOption.getD []

/-- The text of the value in a pattern; a value that cannot be written has none. -/
def wording (f : Filter) : String :=
  (Test.patternText f.value).toOption.getD ""

def atom (f : Filter) : Atom Value :=
  match f.operator with
  | .eq => .compare f.column .eq f.value
  | .neq => .compare f.column .neq f.value
  | .gt => .compare f.column .gt f.value
  | .lt => .compare f.column .lt f.value
  | .gte => .compare f.column .gte f.value
  | .lte => .compare f.column .lte f.value
  | .like => .compare f.column .like f.value
  | .contains => .compare f.column .like (.text ("%" ++ f.wording ++ "%"))
  | .startsWith => .compare f.column .like (.text (f.wording ++ "%"))
  | .endsWith => .compare f.column .like (.text ("%" ++ f.wording))
  | .isIn =>
    match f.members with
    | [] => .never
    | x :: xs => .isIn f.column x xs
  | .notIn =>
    match f.members with
    | [] => .always
    | x :: xs => .notIn f.column x xs
  | .isNull => .isNull f.column
  | .isNotNull => .isNotNull f.column

end Filter

namespace FilterItem

/-- The factor that an item stands for; a group without members stands for none. -/
def factor? : FilterItem → Option (Formula Value .factor)
  | single f => some (.atom f.atom)
  | group ⟨[], _⟩ => none
  | group ⟨[f], _⟩ => some (.atom f.atom)
  | group ⟨f :: g :: rest, .and⟩ =>
    some (.group (.conjunction (.ofFactors (.atom f.atom)
      ((g :: rest).map fun f => .atom f.atom))))
  | group ⟨f :: g :: rest, .or⟩ =>
    some (.group (.anyOf (.atom f.atom) ((g :: rest).map fun f => .atom f.atom)))

/-- Whether an item holds, by the truth of the atoms; a group without members says nothing. -/
def holds (truth : Atom Value → Bool) : FilterItem → Bool
  | single f => truth f.atom
  | group ⟨[], _⟩ => true
  | group ⟨filters, .and⟩ => filters.all fun f => truth f.atom
  | group ⟨filters, .or⟩ => filters.any fun f => truth f.atom

theorem holds_eq_factor? (truth : Atom Value → Bool) (item : FilterItem) :
    item.holds truth = item.factor?.all (·.holds truth) := by
  match item with
  | single f => rfl
  | group ⟨[], join⟩ => rfl
  | group ⟨[f], .and⟩ => simp [holds, factor?, Formula.holds]
  | group ⟨[f], .or⟩ => simp [holds, factor?, Formula.holds]
  | group ⟨f :: g :: rest, .and⟩ =>
    simp [holds, factor?, Formula.holds, Function.comp_def]
  | group ⟨f :: g :: rest, .or⟩ =>
    simp [holds, factor?, Formula.holds, Function.comp_def]

end FilterItem

/-! ## Tests -/

namespace Test

def atom (column : List String) : Test → Atom Value
  | compare comparison x => .compare column comparison x
  | isIn [] => .never
  | isIn (x :: xs) => .isIn column x xs
  | notIn [] => .always
  | notIn (x :: xs) => .notIn column x xs
  | isNull => .isNull column
  | isNotNull => .isNotNull column

theorem pattern_eq_ok {opening closing : String} {f : Filter} {test : Test}
    (tests : pattern opening f.value closing = .ok test) :
    test = .compare .like (.text (opening ++ f.wording ++ closing)) := by
  obtain ⟨text, written, same⟩ := Except.bind_eq_ok.mp tests
  rw [Filter.wording, written]
  exact (Except.pure_eq_ok.mp same).symm

theorem atom_ofOperator {f : Filter} {test : Test}
    (tests : ofOperator f.operator f.value = .ok test) : test.atom f.column = f.atom := by
  obtain ⟨field, operator, value⟩ := f
  cases operator with
  | isIn | notIn =>
    obtain ⟨xs, list, rfl⟩ := Except.map_eq_ok.mp tests
    have members : (Filter.mk field _ value).members = xs :=
      congrArg (fun listed : Except Fault (List Value) => listed.toOption.getD []) list
    cases xs <;> simp only [atom, Filter.atom, members]
  | contains | startsWith | endsWith =>
    obtain rfl := pattern_eq_ok (f := ⟨field, _, value⟩) tests
    simp [atom, Filter.atom, Filter.wording]
  | _ =>
    cases tests
    rfl

end Test

theorem RuleTable.standard_apply (op : Operator) (column : Sql) (value : Value) :
    RuleTable.standard.apply op column value =
      (do return (← Test.ofOperator op value).sql column) := by
  cases op <;> rfl

-- A compiled filter is a test of the column that it names.
theorem Filter.sql_eq_ok {f : Filter} {sql : Sql} (compiled : f.sql .standard = .ok sql) :
    ∃ (name : Identifier) (test : Test), name.segments = f.column ∧
      test.atom f.column = f.atom ∧ sql = test.sql [.name name] := by
  rw [Filter.sql, Except.bind_eq_ok] at compiled
  obtain ⟨name, checked, compiled⟩ := compiled
  rw [RuleTable.standard_apply, Except.bind_eq_ok] at compiled
  obtain ⟨test, tests, compiled⟩ := compiled
  exact ⟨name, test, Identifier.segments_ofValue checked, Test.atom_ofOperator tests,
    (Except.pure_eq_ok.mp compiled).symm⟩

namespace Test

theorem valueTuple_scans (d : Dialect) (x : Value) (xs : List Value) :
    Scans d .clear .clear (valueTuple (x :: xs))
      (.opening :: Lexeme.operandList (x :: xs) ++ [.closing]) := by
  have each : List.Forall₂ (Scans d .clear .loose)
      ((x :: xs).map fun x => [.bound x]) ((x :: xs).map fun x => [.operand x]) := by
    rw [List.forall₂_map_left_iff, List.forall₂_map_right_iff]
    exact List.forall₂_same.mpr fun x _ => .bound d x
  exact ((Scans.opening d).append (.joined (.comma d) each (by simp))).append (.closing d)

theorem symbol_scans (d : Dialect) (comparison : Comparison) :
    Scans d .loose .clear [.text (" " ++ comparison.symbol ++ " ")] [comparison.lexeme] := by
  cases comparison <;> exact .delimited rfl rfl rfl fun _ => by cases d <;> rfl

theorem sql_scans (d : Dialect) {name : Identifier} (named : name.segments ≠ []) (test : Test) :
    Scans d .clear .loose (test.sql [.name name]) (test.atom name.segments).lexemes := by
  have column := Scans.name d name named
  match test with
  | compare comparison x =>
    exact (column.append (symbol_scans d comparison)).append (.bound d x)
  | isIn [] => exact .text rfl rfl fun _ => by cases d <;> rfl
  | isIn (x :: xs) =>
    have keyword : Scans d .loose .clear [.text " IN "] [.word "IN"] :=
      .delimited rfl rfl rfl fun _ => by cases d <;> rfl
    exact ((column.append keyword).append (valueTuple_scans d x xs)).toLoose
  | notIn [] => exact .text rfl rfl fun _ => by cases d <;> rfl
  | notIn (x :: xs) =>
    have keyword : Scans d .loose .clear [.text " NOT IN "] [.word "NOT", .word "IN"] :=
      .delimited rfl rfl rfl fun _ => by cases d <;> rfl
    exact ((column.append keyword).append (valueTuple_scans d x xs)).toLoose
  | isNull =>
    exact column.append (.delimited rfl rfl rfl fun _ => by cases d <;> rfl)
  | isNotNull =>
    exact column.append (.delimited rfl rfl rfl fun _ => by cases d <;> rfl)

end Test

/-! ## Filters and groups -/

theorem Filter.sql_scans (d : Dialect) {f : Filter} {sql : Sql}
    (compiled : f.sql .standard = .ok sql) : Scans d .clear .loose sql f.atom.lexemes := by
  obtain ⟨name, test, segments, atom, rfl⟩ := Filter.sql_eq_ok compiled
  have named : name.segments ≠ [] := segments ▸ Identifier.segmentsOf_ne_nil _
  rw [← atom, ← segments]
  exact Test.sql_scans d named test

theorem FilterGroup.word_scans (d : Dialect) (join : Combinator) :
    Scans d .loose .clear [.text (" " ++ join.word ++ " ")] [.word join.word] := by
  cases join <;> exact .delimited rfl rfl rfl fun _ => by cases d <;> rfl

-- A group reads as its factor, and is left out if there is none.
theorem FilterGroup.joinedSql_scans (d : Dialect) (join : Combinator) {filters : List Filter}
    {parts : List Sql}
    (compiled : List.Forall₂ (fun f part => f.sql .standard = .ok part) filters parts) :
    Option.Rel (fun sql factor => Scans d .clear .loose sql factor.lexemes)
      (joinedSql join parts) (FilterItem.factor? (.group ⟨filters, join⟩)) := by
  match filters, parts, compiled with
  | [], [], _ => exact .none
  | [f], [part], .cons head _ => exact .some (Filter.sql_scans d head)
  | f :: g :: rest, first :: second :: parts, compiled =>
    -- the brackets keep the connective of two members or more from what is joined to the group
    have each : List.Forall₂ (Scans d .clear .loose) (first :: second :: parts)
        ((f :: g :: rest).map fun f => f.atom.lexemes) := by
      rw [List.forall₂_map_right_iff]
      exact List.Forall₂.flip (compiled.imp fun f part compiled => Filter.sql_scans d compiled)
    have members := Scans.joined (word_scans d join) each (by simp)
    have whole := (((Scans.opening d).append members).append (.closing d)).toLoose
    cases join with
    | and =>
      refine .some ?_
      rw [Formula.lexemes, Formula.lexemes, Formula.lexemes_ofFactors]
      simpa [Formula.lexemes, Function.comp_def, Combinator.word] using whole
    | or =>
      refine .some ?_
      rw [Formula.lexemes, Formula.lexemes_anyOf]
      simpa [Formula.lexemes, Function.comp_def, Combinator.word] using whole

theorem FilterItem.sql?_scans (d : Dialect) {item : FilterItem} {part : Option Sql}
    (compiled : item.sql? .standard = .ok part) :
    Option.Rel (fun sql factor => Scans d .clear .loose sql factor.lexemes) part item.factor? := by
  cases item with
  | single f =>
    simp only [sql?, Except.bind_eq_ok, Except.pure_eq_ok] at compiled
    obtain ⟨sql, compiled, rfl⟩ := compiled
    exact .some (Filter.sql_scans d compiled)
  | group g =>
    simp only [sql?, FilterGroup.sql?, Except.bind_eq_ok, Except.pure_eq_ok] at compiled
    obtain ⟨parts, compiled, rfl⟩ := compiled
    exact FilterGroup.joinedSql_scans d g.combinator (Except.mapM_eq_ok.mp compiled)

/-! ## Clauses -/

namespace Where

theorem predicates_scans (d : Dialect) {items : List FilterItem} {parts : List Sql}
    (compiled : predicates .standard items = .ok parts) :
    List.Forall₂ (fun sql factor => Scans d .clear .loose sql factor.lexemes)
      parts (items.filterMap FilterItem.factor?) := by
  simp only [predicates, Except.bind_eq_ok, Except.pure_eq_ok, Except.mapM_eq_ok] at compiled
  obtain ⟨each, compiled, rfl⟩ := compiled
  -- an item without a factor has no predicate either, so both lists skip it
  induction compiled with
  | nil => exact .nil
  | @cons item part items parts head _ ih =>
    have relation := FilterItem.sql?_scans d head
    generalize same : item.factor? = factor at relation
    cases relation with
    | none => simpa [List.filterMap_cons, same] using ih
    | some scans => simpa [List.filterMap_cons, same] using ⟨scans, ih⟩

theorem clause_scans {d : Dialect} {parts : List Sql} {factors : List (Formula Value .factor)}
    (each : List.Forall₂ (fun sql factor => Scans d .clear .loose sql factor.lexemes)
      parts factors) :
    Shows d (clause parts) (Scope.ofFactors factors).lexemes := by
  have opens : Scans d .clear .clear [.text "WHERE "] [.word "WHERE"] :=
    .text rfl rfl fun _ => by cases d <;> rfl
  have between : Scans d .loose .clear [.text " AND "] [.word "AND"] :=
    .delimited rfl rfl rfl fun _ => by cases d <;> rfl
  cases each with
  | nil => exact .inl ⟨rfl, rfl⟩
  | @cons part factor parts factors head tail =>
    have lexemes : List.Forall₂ (Scans d .clear .loose) (part :: parts)
        ((factor :: factors).map Formula.lexemes) := by
      rw [List.forall₂_map_right_iff]
      exact .cons head tail
    have joined := opens.append (.joined between lexemes (by simp))
    refine .inr ⟨by simp [clause], ?_⟩
    rw [Scope.ofFactors, Scope.lexemes, Formula.lexemes, Formula.lexemes_ofFactors]
    exact joined

end Where

def Scope.ofItems (items : List FilterItem) : Scope Value :=
  ofFactors (items.filterMap FilterItem.factor?)

theorem Where.ofItems_shows (d : Dialect) {items : List FilterItem} {sql : Sql}
    (compiled : ofItems .standard items = .ok sql) :
    Shows d sql (Scope.ofItems items).lexemes := by
  simp only [ofItems, Except.bind_eq_ok, Except.pure_eq_ok] at compiled
  obtain ⟨parts, compiled, rfl⟩ := compiled
  exact clause_scans (predicates_scans d compiled)

end ScopedSql
