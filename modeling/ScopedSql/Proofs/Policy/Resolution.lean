import ScopedSql.Policy.Resolver
import ScopedSql.Proofs.Outcome

/-! What a resolution comes to, without its reports.

A role wins just if some role of the caller is in the table, and the policy is then that of the
role's first restriction; otherwise no role matched.
-/

set_option autoImplicit false

namespace ScopedSql

namespace Role

-- Where nothing tells candidates apart, the first one is left.
theorem winner_eq_none_iff {candidates : List String} {priority : Option Priority}
    {found : Option String} (finds : winner candidates priority = .ok found) :
    found = none ↔ candidates = [] := by
  rw [winner, Except.bind_eq_ok] at finds
  obtain ⟨best, measured, same⟩ := finds
  obtain rfl := Except.pure_eq_ok.mp same
  cases candidates with
  | nil =>
    cases measured
    simp
  | cons role rest => cases best <;> simp

end Role

def Restriction.items (restriction : Restriction) (filters : List Filter) : List FilterItem :=
  match restriction.combinator, filters with
  | .or, _ :: _ => [.group ⟨filters, .or⟩]
  | _, _ => filters.map .single

theorem Policy.filtersOf_eq (context : Context) (inputs : Value) (restriction : Restriction) :
    filtersOf context inputs restriction =
      (restriction.conditions.mapM (conditionFilter context inputs)).map restriction.items := by
  rw [filtersOf]
  cases restriction.conditions.mapM (conditionFilter context inputs) with
  | error fault => rfl
  | ok filters =>
    show (match restriction.combinator, filters with
      | .or, _ :: _ => _
      | _, _ => _) = Except.ok (restriction.items filters)
    unfold Restriction.items
    split <;> rfl

theorem Policy.conditionFilter_own {c : Condition} {context : Context} {inputs : Value}
    (untaken : c.exposed = false ∨ Input.lookup? inputs c.field = .ok none) :
    conditionFilter context inputs c = .ok (ownFilter c context) := by
  rw [conditionFilter]
  rcases untaken with hidden | missing
  · rw [hidden]
    rfl
  · rw [missing]
    split <;> rfl

namespace Resolver

variable {r : Resolver} {context : Context} {inputs : Value}

def policyOf (r : Resolver) (context : Context) (inputs : Value) (role : String) :
    Except Fault Policy :=
  match r.restriction? role with
  | none => .ok ⟨some role, none, []⟩
  | some restriction =>
    (Policy.filtersOf context inputs restriction).map fun filters =>
      ⟨some role, some restriction, filters⟩

theorem policyOf_of_none {role : String} (free : r.restriction? role = none) :
    r.policyOf context inputs role = .ok ⟨some role, none, []⟩ := by
  rw [policyOf, free]

theorem policyOf_of_some {role : String} {restriction : Restriction}
    (restricted : r.restriction? role = some restriction) :
    r.policyOf context inputs role =
      (Policy.filtersOf context inputs restriction).map fun filters =>
        ⟨some role, some restriction, filters⟩ := by
  rw [policyOf, restricted]

theorem resolve_outcome (r : Resolver) (context : Context) (inputs : Value) :
    (r.resolve context inputs).outcome = r.role? context >>= fun role =>
      match role with
      | none => .ok .unmatched
      | some role => r.policyOf context inputs role := by
  rw [resolve, Traced.outcome_bind]
  show r.role? context >>= _ = _
  congr 1
  funext role
  cases role with
  | none => cases r.table.entries <;> rfl
  | some role =>
    dsimp only
    rw [policyOf]
    cases r.restriction? role with
    | none => rfl
    | some restriction =>
      dsimp only
      rw [Traced.outcome_bind]
      show (Policy.filtersOf context inputs restriction) >>= _ = _
      cases Policy.filtersOf context inputs restriction <;> rfl

theorem replaceTable_outcome [Check] (r : Resolver) (restrictions : Value) :
    (r.replaceTable restrictions).outcome =
      (RoleTable.ofValue restrictions).map fun table => { r with table } := by
  rw [replaceTable, Traced.outcome_bind]
  show Except.bind (RoleTable.ofValue restrictions) _ = _
  cases RoleTable.ofValue restrictions <;> rfl

theorem candidates_eq_nil_iff :
    r.candidates context = [] ↔ ∀ role ∈ context.roles, ¬r.table.has role := by
  rw [candidates, List.filter_eq_nil_iff]

theorem resolve_eq_ok {p : Policy} (resolved : (r.resolve context inputs).outcome = .ok p) :
    (p = .unmatched ∧ ∀ role ∈ context.roles, ¬r.table.has role) ∨
      ∃ role, r.role? context = .ok (some role) ∧ r.policyOf context inputs role = .ok p := by
  rw [resolve_outcome, Except.bind_eq_ok] at resolved
  obtain ⟨role, wins, resolved⟩ := resolved
  cases role with
  | none =>
    cases resolved
    exact .inl ⟨rfl, candidates_eq_nil_iff.mp ((Role.winner_eq_none_iff wins).mp rfl)⟩
  | some role => exact .inr ⟨role, wins, resolved⟩

theorem role_of_policyOf {p : Policy} {role : String}
    (resolved : r.policyOf context inputs role = .ok p) : p.role = some role := by
  unfold policyOf at resolved
  split at resolved
  · cases resolved
    rfl
  · obtain ⟨filters, _, rfl⟩ := Except.map_eq_ok.mp resolved
    rfl

/-- A policy has a role just if the table has one of the caller's. -/
theorem isMatched_iff {p : Policy} (resolved : (r.resolve context inputs).outcome = .ok p) :
    p.isMatched ↔ ∃ role ∈ context.roles, r.table.has role := by
  constructor
  · intro matched
    by_contra none
    simp only [not_exists, not_and] at none
    rcases resolve_eq_ok resolved with ⟨rfl, _⟩ | ⟨role, wins, _⟩
    · cases matched
    · have empty := (Role.winner_eq_none_iff wins).mpr (candidates_eq_nil_iff.mpr none)
      cases empty
  · rintro ⟨role, mine, configured⟩
    rcases resolve_eq_ok resolved with ⟨_, none⟩ | ⟨winner, _, policy⟩
    · exact absurd configured (none role mine)
    · rw [Policy.isMatched, role_of_policyOf policy]
      rfl

end Resolver

end ScopedSql
