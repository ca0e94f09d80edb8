import ScopedSql.Proofs.Access.Calls
import ScopedSql.Proofs.Policy.Resolution
import ScopedSql.Proofs.Predicate.Truth

/-! Conditions on an attribute that the user lacks.

A token for such an attribute comes to a null. A comparison with it is unknown of every row, and
membership in it is membership in nothing, so no row is found. Operators that put signs for any
characters around a text have nothing but these signs left, and find every row with a text.
-/

set_option autoImplicit false

namespace ScopedSql

/-- Whether a predicate with the operator asks for a value in the column. -/
def Operator.comparesColumn : Operator → Bool
  | notIn | isNull | isNotNull => false
  | eq | neq | gt | lt | gte | lte | like | isIn | contains | startsWith | endsWith => true

/-- Whether the operator puts signs for any characters around its value. -/
def Operator.addsSigns : Operator → Bool
  | contains | startsWith | endsWith => true
  | eq | neq | gt | lt | gte | lte | like | isIn | notIn | isNull | isNotNull => false

theorem Token.resolve_eq_null {x : Value} {context : Context} {name : String}
    (token : attribute? x = some name)
    (absent : ∀ u, context.user = some u → u.attributeNamed name = .null) :
    resolve x context = .null := by
  rw [resolve, token]
  cases user : context.user with
  | none => rfl
  | some u => exact absent u user

theorem Policy.ownFilter_of_null {c : Condition} {context : Context}
    (null : Token.resolve c.value context = .null) :
    ownFilter c context = ⟨.text c.field, c.operator, .null⟩ := by
  rw [ownFilter, null]

namespace Atom

/-- The predicate is never true, or it compares the column with a null. -/
def ComparesNull (column : List String) (a : Atom Value) : Prop :=
  a = .never ∨ ∃ comparison, a = .compare column comparison .null

theorem ComparesNull.values {column : List String} {a : Atom Value} (null : ComparesNull column a) :
    ∀ x ∈ a.values, x = .null := by
  intro x member
  rcases null with rfl | ⟨comparison, rfl⟩
  · cases member
  · exact List.mem_singleton.mp member

theorem ComparesNull.truth {column : List String} {a : Atom Value} (null : ComparesNull column a)
    (db : Database) (row : Row) : a.truth db row ≠ some true := by
  rcases null with rfl | ⟨comparison, rfl⟩
  · simp [Atom.truth]
  · simp [Atom.truth, Database.compare_null]

end Atom

namespace Filter

theorem atom_of_null (field : String) {op : Operator} (compares : op.comparesColumn)
    (unsigned : op.addsSigns = false) :
    (atom ⟨.text field, op, .null⟩).ComparesNull (Identifier.segmentsOf field) := by
  cases op with
  | isIn => exact .inl rfl
  | eq | neq | gt | lt | gte | lte | like => exact .inr ⟨_, rfl⟩
  | notIn | isNull | isNotNull => cases compares
  | contains | startsWith | endsWith => cases unsigned

theorem atom_of_signs (field : String) {op : Operator} (signed : op.addsSigns) :
    ∃ pattern, pattern ≠ "" ∧ (∀ c ∈ pattern.toList, c = '%') ∧
      atom ⟨.text field, op, .null⟩ =
        .compare (Identifier.segmentsOf field) .like (.text pattern) := by
  cases op with
  | contains => exact ⟨"%%", by simp, by simp, rfl⟩
  | startsWith | endsWith => exact ⟨"%", by simp, by simp, rfl⟩
  | _ => cases signed

theorem truth_of_signs {field : String} {op : Operator} (signed : op.addsSigns)
    (db : Database) {row : Row} {s : String}
    (text : row (Identifier.segmentsOf field) = .text s) :
    (atom ⟨.text field, op, .null⟩).truth db row = some true := by
  obtain ⟨pattern, given, signs, same⟩ := atom_of_signs field signed
  rw [same, Atom.truth, text]
  exact db.compare_fits s given signs

end Filter

/-! ## Clauses of one filter -/

-- Every operator takes a null, so only the column can be refused.
theorem Filter.sql_of_null {field : String} (op : Operator) {name : Identifier}
    (named : Identifier.ofText field = .ok name) :
    ∃ sql, Filter.sql .standard ⟨.text field, op, .null⟩ = .ok sql := by
  have column : Identifier.ofValue (.text field) = .ok name := named
  rw [Filter.sql, column]
  cases op <;> exact ⟨_, rfl⟩

theorem Parameters.whereClause_of_null (d : Dialect) {field : String} (op : Operator) :
    (∃ text after, whereClause ⟨d, []⟩ .standard [.single ⟨.text field, op, .null⟩] =
        (.ok text, after)) ↔
      ∃ name, Identifier.ofText field = .ok name := by
  constructor
  · rintro ⟨text, after, compiled⟩
    obtain ⟨_, built, _, _⟩ := whereClause_eq_ok compiled
    simp only [Where.ofItems, Where.predicates, FilterItem.sql?, List.mapM_cons, List.mapM_nil,
      Except.bind_eq_ok] at built
    obtain ⟨_, ⟨_, ⟨_, ⟨_, compiled, _⟩, _⟩, _⟩, _⟩ := built
    rw [Filter.sql, Except.bind_eq_ok] at compiled
    obtain ⟨name, named, _⟩ := compiled
    exact ⟨name, named⟩
  · rintro ⟨name, named⟩
    obtain ⟨sql, compiled⟩ := Filter.sql_of_null op named
    have builds : Where.ofItems .standard [.single ⟨.text field, op, .null⟩] =
        .ok (Where.clause [sql]) := by
      simp [Where.ofItems, Where.predicates, FilterItem.sql?, compiled]
    simp [whereClause, compile, builds, write]

/-- The filter of a condition on an attribute that the user lacks is its operator with a null. If
that adds no signs, the predicate is never true or compares with nulls alone, and no clause of which
it is a conjunct finds a row; if it adds signs, it finds every row with a text in the column. -/
theorem absent_attribute_finds_no_row_iff (c : Condition) (context : Context) (inputs : Value)
    (name : String) (token : Token.attribute? c.value = some name)
    (absent : ∀ u, context.user = some u → u.attributeNamed name = .null)
    (untaken : c.exposed = false ∨ Input.lookup? inputs c.field = .ok none)
    (compares : c.operator.comparesColumn) :
    ∃ f, Policy.conditionFilter context inputs c = .ok f ∧ ∀ d : Dialect,
      ((∃ text after, Parameters.whereClause ⟨d, []⟩ .standard [.single f] = (.ok text, after)) ↔
        ∃ column, Identifier.ofText c.field = .ok column) ∧
      ∀ text after, Parameters.whereClause ⟨d, []⟩ .standard [.single f] = (.ok text, after) →
        ∃ scope a, Scope.ofText d text after.values = some scope ∧ scope.conjuncts = [.atom a] ∧
          (c.operator.addsSigns = false →
            a.ComparesNull (Identifier.segmentsOf c.field) ∧ ∀ x ∈ after.values, x = .null) ∧
          (c.operator.addsSigns = false ↔ ∀ (db : Database) (row : Row) (whole : Scope Value),
            .atom a ∈ whole.conjuncts → ¬ whole.Finds db row) ∧
          (c.operator.addsSigns → ∀ (db : Database) (row : Row) (s : String),
            row (Identifier.segmentsOf c.field) = .text s → scope.Finds db row) := by
  have null := Token.resolve_eq_null token absent
  refine ⟨_, Policy.conditionFilter_own untaken, fun d => ?_⟩
  rw [Policy.ownFilter_of_null null]
  refine ⟨Parameters.whereClause_of_null d c.operator, fun text after compiled => ?_⟩
  have read := Parameters.whereClause_ofText compiled
  obtain ⟨_, built, _, values⟩ := Parameters.whereClause_eq_ok compiled
  have bound := (Where.ofItems_shows d built).scans.operands_eq
  rw [Scope.operands_ofItems] at bound
  refine ⟨_, _, read, rfl, ?_, ?_, ?_⟩
  · intro unsigned
    have compared := Filter.atom_of_null c.field compares unsigned
    refine ⟨compared, fun x member => compared.values x ?_⟩
    rw [values, ← bound] at member
    simpa [FilterItem.bound, FilterItem.filters] using member
  · constructor
    · intro unsigned db row whole among found
      exact (Filter.atom_of_null c.field compares unsigned).truth db row (found.conjunct among)
    · intro closed
      by_contra signed
      rw [Bool.not_eq_false] at signed
      -- in some database a row with a text in every column is found
      exact closed .plain (fun _ => .text "")
        (.ofItems [.single ⟨.text c.field, c.operator, .null⟩])
        (List.mem_singleton_self _) (Filter.truth_of_signs signed .plain rfl)
  · intro signed db row s text
    exact Filter.truth_of_signs signed db text

theorem membership_in_absent_teams_finds_no_row :
    Policy.conditionFilter ⟨some ⟨.int 7, ["staff"], .null, [("region", .text "eu")]⟩, none⟩
        (.dict [(.text "owner", .int 9)])
        ⟨"team", .isIn, .text "$context.user.teams", true, none⟩ =
      .ok ⟨.text "team", .isIn, .null⟩ ∧
    ∀ (db : Database) (row : Row),
      ¬ (Scope.ofItems [.single ⟨.text "team", .isIn, .null⟩]).Finds db row := by
  obtain ⟨f, filter, clauses⟩ := absent_attribute_finds_no_row_iff
    ⟨"team", .isIn, .text "$context.user.teams", true, none⟩
    ⟨some ⟨.int 7, ["staff"], .null, [("region", .text "eu")]⟩, none⟩
    (.dict [(.text "owner", .int 9)]) "teams" (by decide +kernel)
    (fun u user => by cases user; rfl) (.inr rfl) rfl
  obtain rfl : ⟨.text "team", .isIn, .null⟩ = f := Except.ok.inj filter
  obtain ⟨scope, a, read, conjuncts, _, closed, _⟩ :=
    (clauses .mysql).2 "WHERE 1=0" ⟨.mysql, []⟩ (by cbv)
  obtain rfl : Scope.ofItems [.single ⟨.text "team", .isIn, .null⟩] = scope :=
    Option.some.inj ((show _ = _ by cbv).trans read)
  exact ⟨filter, fun db row => closed.mp rfl db row _ (conjuncts ▸ List.mem_singleton_self _)⟩

/-- A count by someone without a department, of the teams whose names contain it: it counts all. -/
theorem count_by_absent_department_is_unrestricted :
    ((AccessCall.onRows .count none).run
        (.make .sqlite .none ⟨⟨[("public", [⟨[⟨"team", .contains,
          .text "currentUser.department", false, none⟩], .and⟩])]⟩, none⟩)
        ⟨.text "tickets", [], .empty, .null, .empty, [], .text "id"⟩).outcome.map
      (fun s => (s.sql, s.params)) =
      .ok ("SELECT COUNT(*) as count FROM \"tickets\" WHERE \"team\" LIKE ?", [.text "%%"]) ∧
    (Atom.compare ["team"] .like (.text "%%")).truth .plain (fun _ => .text "red") = some true := by
  constructor
  · cbv
  · cbv

end ScopedSql
