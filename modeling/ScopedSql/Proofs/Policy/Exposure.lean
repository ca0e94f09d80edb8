import ScopedSql.Proofs.Policy.Resolution

/-! What a caller's inputs reach.

A condition takes an input only if it is exposed, and then only the one under its field. So two
dictionaries of inputs that agree on the exposed fields come to one policy or one fault, and the
filters of all other conditions are those of a request without inputs.
-/

set_option autoImplicit false

namespace ScopedSql

theorem Input.lookup?_dict (inputs : Dict) (field : String) :
    lookup? (.dict inputs) field = .ok (Dict.at? inputs field) := by
  cases inputs <;> rfl

theorem Input.lookup?_null (field : String) : lookup? .null field = .ok none := rfl

namespace Policy

variable {context : Context} {restriction : Restriction}

theorem conditionFilter_taken {c : Condition} {inputs : Dict} {x : Value} (exposed : c.exposed)
    (given : Dict.at? inputs c.field = some x) :
    conditionFilter context (.dict inputs) c = inputFilter c x := by
  rw [conditionFilter, if_pos exposed, Input.lookup?_dict, given]
  rfl

theorem conditionFilter_congr {c : Condition} {inputs inputs' : Dict}
    (agree : c.exposed → Dict.at? inputs c.field = Dict.at? inputs' c.field) :
    conditionFilter context (.dict inputs) c = conditionFilter context (.dict inputs') c := by
  unfold conditionFilter
  split
  · next exposed => rw [Input.lookup?_dict, Input.lookup?_dict, agree exposed]
  · rfl

theorem filtersOf_congr {inputs inputs' : Dict}
    (agree : ∀ c ∈ restriction.conditions, c.exposed →
      Dict.at? inputs c.field = Dict.at? inputs' c.field) :
    filtersOf context (.dict inputs) restriction =
      filtersOf context (.dict inputs') restriction := by
  rw [filtersOf_eq, filtersOf_eq, Except.mapM_congr]
  intro c member
  exact conditionFilter_congr (agree c member)

-- Without inputs every condition takes its own value, so none of them can fail.
theorem filtersOf_null (context : Context) (restriction : Restriction) :
    filtersOf context .null restriction =
      .ok (restriction.items (restriction.conditions.map (ownFilter · context))) := by
  have each : List.Forall₂ (fun c f => conditionFilter context .null c = .ok f)
      restriction.conditions (restriction.conditions.map (ownFilter · context)) := by
    rw [List.forall₂_map_right_iff, List.forall₂_same]
    intro c _
    exact conditionFilter_own (.inr (Input.lookup?_null c.field))
  rw [filtersOf_eq, Except.mapM_eq_ok.mpr each]
  rfl

end Policy

namespace Resolver

variable {r : Resolver} {context : Context}

-- The inputs of a request count in the filters of the restriction alone.
theorem resolve_congr {inputs inputs' : Value}
    (same : ∀ role restriction, r.role? context = .ok (some role) →
      r.restriction? role = some restriction →
        Policy.filtersOf context inputs restriction =
          Policy.filtersOf context inputs' restriction) :
    r.resolve context inputs = r.resolve context inputs' := by
  unfold resolve
  cases wins : r.role? context with
  | error fault => rfl
  | ok found =>
    cases found with
    | none => rfl
    | some role =>
      show Traced.bind (.ofExcept (.ok (some role))) _ = Traced.bind (.ofExcept (.ok (some role))) _
      simp only [Traced.bind, Traced.ofExcept]
      cases restricted : r.restriction? role with
      | none => rfl
      | some restriction =>
        dsimp only
        rw [same role restriction wins restricted]

theorem exposedConditions_of_role {role : String} {restriction : Restriction}
    (wins : r.role? context = .ok (some role))
    (restricted : r.restriction? role = some restriction) :
    r.exposedConditions context = .ok (restriction.conditions.filter (·.exposed)) := by
  rw [exposedConditions, wins]
  show Except.bind (.ok (some role)) _ = _
  simp only [Except.bind, Option.bind_some, restricted]
  rfl

-- Where no restriction applies, a policy is the same whatever the inputs.
theorem resolve_unrestricted {inputs inputs' : Value} {p : Policy}
    (resolved : (r.resolve context inputs).outcome = .ok p) (unrestricted : p.restriction = none) :
    p.filters = [] ∧ (r.resolve context inputs').outcome = .ok p := by
  rw [resolve_outcome, Except.bind_eq_ok] at resolved
  obtain ⟨found, wins, policy⟩ := resolved
  rw [resolve_outcome, wins]
  cases found with
  | none =>
    cases policy
    exact ⟨rfl, rfl⟩
  | some role =>
    change r.policyOf context inputs role = _ at policy
    show _ ∧ r.policyOf context inputs' role = _
    cases restricted : r.restriction? role with
    | none =>
      rw [policyOf_of_none restricted] at policy ⊢
      cases policy
      exact ⟨rfl, rfl⟩
    | some restriction =>
      rw [policyOf_of_some restricted] at policy
      obtain ⟨filters, _, rfl⟩ := Except.map_eq_ok.mp policy
      cases unrestricted

theorem resolve_restricted {inputs : Value} {p : Policy} {restriction : Restriction}
    (resolved : (r.resolve context inputs).outcome = .ok p)
    (applies : p.restriction = some restriction) :
    ∃ filters, p.filters = restriction.items filters ∧
      List.Forall₂ (fun c f => Policy.conditionFilter context inputs c = .ok f)
        restriction.conditions filters ∧
      (r.resolve context .null).outcome = .ok { p with
        filters := restriction.items (restriction.conditions.map (Policy.ownFilter · context)) } := by
  rcases resolve_eq_ok resolved with ⟨rfl, _⟩ | ⟨role, wins, policy⟩
  · cases applies
  · cases restricted : r.restriction? role with
    | none =>
      rw [policyOf_of_none restricted] at policy
      cases policy
      cases applies
    | some found =>
      rw [policyOf_of_some restricted] at policy
      obtain ⟨items, filtered, rfl⟩ := Except.map_eq_ok.mp policy
      obtain rfl : found = restriction := Option.some.inj applies
      rw [Policy.filtersOf_eq, Except.map_eq_ok] at filtered
      obtain ⟨filters, each, rfl⟩ := filtered
      refine ⟨filters, rfl, Except.mapM_eq_ok.mp each, ?_⟩
      rw [resolve_outcome, wins]
      show r.policyOf context .null role = _
      rw [policyOf_of_some restricted, Policy.filtersOf_null]
      rfl

end Resolver

/-- Inputs that agree on the exposed fields of a context come to the same, reports included. In a
policy the filter of a condition that is not exposed, or whose field has no input, is the one of the
policy without inputs. -/
theorem inputs_reach_exposed_conditions_only (r : Resolver) (context : Context)
    (inputs inputs' : Dict)
    (agree : ∀ exposed, r.exposedConditions context = .ok exposed →
      ∀ c ∈ exposed, Dict.at? inputs c.field = Dict.at? inputs' c.field) :
    r.resolve context (.dict inputs) = r.resolve context (.dict inputs') ∧
    ∀ p, (r.resolve context (.dict inputs)).outcome = .ok p →
      (p.restriction = none →
        p.filters = [] ∧ (r.resolve context .null).outcome = .ok p) ∧
      ∀ restriction, p.restriction = some restriction →
        ∃ filters, p.filters = restriction.items filters ∧
          (r.resolve context .null).outcome = .ok { p with
            filters := restriction.items
              (restriction.conditions.map (Policy.ownFilter · context)) } ∧
          List.Forall₂ (fun c f =>
            ((c.exposed = false ∨ Dict.at? inputs c.field = none) →
              f = Policy.ownFilter c context) ∧
            ∀ x, c.exposed → Dict.at? inputs c.field = some x →
              Policy.inputFilter c x = .ok f) restriction.conditions filters := by
  constructor
  · apply Resolver.resolve_congr
    intro role restriction wins restricted
    apply Policy.filtersOf_congr
    intro c member exposed
    have listed := r.exposedConditions_of_role wins restricted
    exact agree _ listed c (List.mem_filter.mpr ⟨member, exposed⟩)
  · intro p resolved
    refine ⟨Resolver.resolve_unrestricted resolved, fun restriction applies => ?_⟩
    obtain ⟨filters, shown, each, plain⟩ := Resolver.resolve_restricted resolved applies
    refine ⟨filters, shown, plain, each.imp fun c f filter => ⟨fun untaken => ?_, ?_⟩⟩
    · have own : Policy.conditionFilter context (.dict inputs) c =
          .ok (Policy.ownFilter c context) := by
        apply Policy.conditionFilter_own
        rw [Input.lookup?_dict, Except.ok.injEq]
        exact untaken
      exact Except.ok.inj (filter.symm.trans own)
    · intro x exposed given
      exact (Policy.conditionFilter_taken exposed given).symm.trans filter

/-- An input for the region takes the place of the exposed condition alone: the other one on the
region stays, and an input for the tenant is not looked at. -/
theorem region_of_input_leaves_hidden_conditions :
    let own : Condition := ⟨"region", .neq, .text "us", false, none⟩
    let tenant : Condition := ⟨"tenant_id", .eq, .int 1, false, none⟩
    let chosen : Condition := ⟨"region", .eq, .text "eu", true, none⟩
    let r : Resolver := ⟨⟨[("viewer", [⟨[chosen, own, tenant], .and⟩])]⟩, none⟩
    let context : Context := ⟨some ⟨.int 7, ["viewer"], .null, []⟩, none⟩
    let inputs : Dict := [(.text "region", .text "us"), (.text "tenant_id", .int 2)]
    let inputs' : Dict := [(.text "owner", .int 9), (.text "region", .text "us")]
    (∀ exposed, r.exposedConditions context = .ok exposed →
      ∀ c ∈ exposed, Dict.at? inputs c.field = Dict.at? inputs' c.field) ∧
    r.resolve context (.dict inputs) = r.resolve context (.dict inputs') ∧
    (r.resolve context (.dict inputs)).outcome.map Policy.filters =
      .ok [.single ⟨.text "region", .eq, .text "us"⟩,
        .single (Policy.ownFilter own context), .single (Policy.ownFilter tenant context)] := by
  intro own tenant chosen r context inputs inputs'
  have agree : ∀ exposed, r.exposedConditions context = .ok exposed →
      ∀ c ∈ exposed, Dict.at? inputs c.field = Dict.at? inputs' c.field := by
    intro exposed listed c member
    have conditions : r.exposedConditions context = .ok [chosen] := rfl
    obtain rfl : [chosen] = exposed := Except.ok.inj (conditions.symm.trans listed)
    obtain rfl := List.mem_singleton.mp member
    rfl
  exact ⟨agree, (inputs_reach_exposed_conditions_only r context inputs inputs' agree).1, by cbv⟩

end ScopedSql
