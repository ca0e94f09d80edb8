import ScopedSql.Proofs.Policy.Exposure

/-! No condition of a restriction is lost.

A policy has one filter for each condition of the restriction that applies, in the order of the
conditions. What a condition yields depends on the condition, the user and the inputs alone, so
neither the restrictions of other roles nor the later ones of the same role count.
-/

set_option autoImplicit false

namespace ScopedSql

/-! ## Values and inputs -/

namespace Token

theorem after?_eq_some {opening cs rest : List Char} :
    after? opening cs = some rest ↔ cs = opening ++ rest := by
  induction opening generalizing cs with
  | nil => simp [after?]
  | cons p ps ih =>
    cases cs with
    | nil => simp [after?]
    | cons c cs =>
      by_cases same : p = c
      · simp [after?, same, ih]
      · simp [after?, same, Ne.symm same]

theorem attributeOfText?_eq_some {s name : String} :
    attributeOfText? s = some name ↔
      name ≠ "" ∧ ∃ opening ∈ openings, s = opening ++ name := by
  constructor
  · intro named
    unfold attributeOfText? at named
    split at named
    · cases named
    · cases named
    · next rest proper fits =>
      obtain rfl := Option.some.inj named
      obtain ⟨opening, member, after⟩ := List.exists_of_findSome?_eq_some fits
      refine ⟨by simpa using proper, opening, member, ?_⟩
      rw [← String.toList_inj, String.toList_append, String.toList_ofList]
      exact after?_eq_some.mp after
  · rintro ⟨named, opening, member, rfl⟩
    have proper : name.toList ≠ [] := by simpa using named
    have fits : openings.findSome? (fun o => after? o.toList (opening ++ name).toList) =
        some name.toList := by
      rw [String.toList_append]
      simp only [openings, List.mem_cons, List.not_mem_nil, or_false] at member
      rcases member with rfl | rfl
      · have first := after?_eq_some.mpr (rfl : "currentUser.".toList ++ name.toList = _)
        simp only [openings, List.findSome?_cons, first]
      · -- the two beginnings differ in their first letters
        have first : after? "currentUser.".toList ("$context.user.".toList ++ name.toList) = none :=
          rfl
        have second := after?_eq_some.mpr (rfl : "$context.user.".toList ++ name.toList = _)
        simp only [openings, List.findSome?_cons, first, second]
    rw [attributeOfText?, fits]
    cases chars : name.toList with
    | nil => exact absurd chars proper
    | cons c cs => simp [← chars]

/-- What a value stands for: an attribute of the user if it is a token, else itself. -/
inductive StandsFor (context : Context) (x : Value) : Value → Prop where
  | literal (other : ∀ s, x.asText? = some s → ∀ opening ∈ openings, ∀ name, s = opening ++ name →
      name = "") : StandsFor context x x
  | attribute {opening name : String} {u : User} (opened : opening ∈ openings) (named : name ≠ "")
      (token : x.asText? = some (opening ++ name)) (user : context.user = some u) :
      StandsFor context x (u.attributeNamed name)
  | nobody {opening name : String} (opened : opening ∈ openings) (named : name ≠ "")
      (token : x.asText? = some (opening ++ name)) (user : context.user = none) :
      StandsFor context x .null

theorem attribute?_eq_some {x : Value} {name : String} :
    attribute? x = some name ↔
      name ≠ "" ∧ ∃ opening ∈ openings, x.asText? = some (opening ++ name) := by
  rw [attribute?, Option.bind_eq_some_iff]
  simp only [attributeOfText?_eq_some]
  constructor
  · rintro ⟨s, text, named, opening, opened, rfl⟩
    exact ⟨named, opening, opened, text⟩
  · rintro ⟨named, opening, opened, text⟩
    exact ⟨_, text, named, opening, opened, rfl⟩

theorem standsFor_resolve (x : Value) (context : Context) :
    StandsFor context x (resolve x context) := by
  rw [resolve]
  cases token : attribute? x with
  | none =>
    refine .literal fun s text opening opened name same => ?_
    by_contra named
    rw [attribute?_eq_some.mpr ⟨named, opening, opened, same ▸ text⟩] at token
    cases token
  | some name =>
    obtain ⟨named, opening, opened, text⟩ := attribute?_eq_some.mp token
    cases user : context.user with
    | none => exact .nobody opened named text user
    | some u => exact .attribute opened named text user

end Token

def Input.given? : Value → String → Option Value
  | .dict entries, field => Dict.at? entries field
  | _, _ => none

-- Inputs that are no dictionary have nothing under a field, or the question fails.
theorem Input.lookup?_eq_ok {inputs : Value} {field : String} {found : Option Value}
    (looked : lookup? inputs field = .ok found) : found = given? inputs field := by
  by_cases mapped : ∃ entries, inputs = .dict entries
  · obtain ⟨entries, rfl⟩ := mapped
    rw [lookup?_dict] at looked
    exact (Except.ok.inj looked).symm
  · have nothing : given? inputs field = none := by
      cases inputs with
      | dict entries => exact absurd ⟨entries, rfl⟩ mapped
      | _ => rfl
    rw [nothing]
    unfold lookup? at looked
    split at looked
    · exact (Except.ok.inj looked).symm
    · split at looked
      · next entries _ => exact absurd ⟨entries, rfl⟩ mapped
      · split at looked
        · cases looked
        · exact (Except.ok.inj looked).symm
      · cases looked
      · obtain ⟨elements, _, looked⟩ := Except.bind_eq_ok.mp looked
        split at looked
        · cases looked
        · exact (Except.ok.inj looked).symm

/-! ## Conditions -/

/-- What a condition yields for a user and some inputs. An exposed condition with an input yields
equality with the checked input, or membership in it if it is a list; any other one yields its own
operator with what its value stands for, and equality with a list or a tuple is membership. -/
inductive Condition.Yields (context : Context) (inputs : Value) (c : Condition) : Filter → Prop where
  | input {x y : Value} (exposed : c.exposed) (given : Input.given? inputs c.field = some x)
      (checked : Input.check c x = .ok y) (single : ∀ ys, y ≠ .list ys) :
      Yields context inputs c ⟨.text c.field, .eq, y⟩
  | inputs {x : Value} {ys : List Value} (exposed : c.exposed)
      (given : Input.given? inputs c.field = some x) (checked : Input.check c x = .ok (.list ys)) :
      Yields context inputs c ⟨.text c.field, .isIn, .list ys⟩
  | own {y : Value} (untaken : c.exposed → Input.given? inputs c.field = none)
      (stands : Token.StandsFor context c.value y)
      (kept : c.operator = .eq ∨ c.operator = .neq → ∀ ys, y ≠ .list ys ∧ y ≠ .tuple ys) :
      Yields context inputs c ⟨.text c.field, c.operator, y⟩
  | members {y : Value} {ys : List Value} {op : Operator}
      (untaken : c.exposed → Input.given? inputs c.field = none)
      (stands : Token.StandsFor context c.value y) (several : y = .list ys ∨ y = .tuple ys)
      (turned : c.operator = .eq ∧ op = .isIn ∨ c.operator = .neq ∧ op = .notIn) :
      Yields context inputs c ⟨.text c.field, op, .list ys⟩

namespace Policy

variable {context : Context} {inputs : Value} {c : Condition} {f : Filter}

theorem listOperator_eq_some {op op' : Operator} :
    listOperator op = some op' ↔ op = .eq ∧ op' = .isIn ∨ op = .neq ∧ op' = .notIn := by
  cases op <;> simp [listOperator, eq_comm]

theorem yields_ownFilter (untaken : c.exposed → Input.given? inputs c.field = none) :
    c.Yields context inputs (ownFilter c context) := by
  have stands := Token.standsFor_resolve c.value context
  dsimp only [ownFilter]
  split
  · next several turned =>
    exact .members untaken stands (.inl several) (listOperator_eq_some.mp turned)
  · next several turned =>
    exact .members untaken stands (.inr several) (listOperator_eq_some.mp turned)
  · next list tuple =>
    refine .own untaken stands fun turns ys => ?_
    obtain ⟨op, turned⟩ : ∃ op, listOperator c.operator = some op := by
      rcases turns with same | same <;> rw [same] <;> exact ⟨_, rfl⟩
    exact ⟨fun several => list ys op several turned, fun several => tuple ys op several turned⟩

theorem yields_inputFilter {x : Value} (exposed : c.exposed)
    (given : Input.given? inputs c.field = some x) (filter : inputFilter c x = .ok f) :
    c.Yields context inputs f := by
  rw [inputFilter, Except.bind_eq_ok] at filter
  obtain ⟨y, checked, same⟩ := filter
  split at same
  · cases same
    exact .inputs exposed given checked
  · next single =>
    cases same
    exact .input exposed given checked single

theorem yields_conditionFilter (filter : conditionFilter context inputs c = .ok f) :
    c.Yields context inputs f := by
  rw [conditionFilter] at filter
  split at filter
  · next exposed =>
    obtain ⟨found, looked, filter⟩ := Except.bind_eq_ok.mp filter
    have given := Input.lookup?_eq_ok looked
    cases found with
    | some x => exact yields_inputFilter exposed given.symm filter
    | none =>
      cases filter
      exact yields_ownFilter fun _ => given.symm
  · next hidden =>
    cases filter
    exact yields_ownFilter fun exposed => absurd exposed hidden

end Policy

theorem Condition.Yields.field {context : Context} {inputs : Value} {c : Condition} {f : Filter}
    (yields : c.Yields context inputs f) : f.field = .text c.field := by
  cases yields <;> rfl

theorem Condition.Yields.fields {context : Context} {inputs : Value} {conditions : List Condition}
    {filters : List Filter}
    (yields : List.Forall₂ (Condition.Yields context inputs) conditions filters) :
    filters.map Filter.field = conditions.map fun c => .text c.field := by
  induction yields with
  | nil => rfl
  | cons head _ ih => rw [List.map_cons, List.map_cons, head.field, ih]

theorem Restriction.items_and {restriction : Restriction} (joined : restriction.combinator = .and)
    (filters : List Filter) : restriction.items filters = filters.map .single := by
  simp only [items, joined]

theorem Restriction.items_or {restriction : Restriction} (joined : restriction.combinator = .or)
    (filters : List Filter) :
    restriction.items filters = if filters = [] then [] else [.group ⟨filters, .or⟩] := by
  cases filters <;> simp [items, joined]

theorem Restriction.filters_items (restriction : Restriction) (filters : List Filter) :
    (restriction.items filters).flatMap FilterItem.filters = filters := by
  have alone : (filters.map FilterItem.single).flatMap FilterItem.filters = filters := by
    induction filters with
    | nil => rfl
    | cons f rest ih =>
      rw [List.map_cons, List.flatMap_cons, ih]
      rfl
  unfold items
  split
  · exact List.append_nil _
  · exact alone

/-! ## Tables -/

/-- Another table for the same roles, in which one role keeps its first restriction. -/
def RoleTable.Revises (role : String) (table table' : RoleTable) : Prop :=
  List.Forall₂ (fun entry entry' =>
    entry'.1 = entry.1 ∧ (entry.1 = role → entry'.2.head? = entry.2.head?))
    table.entries table'.entries

namespace RoleTable.Revises

variable {role : String} {table table' : RoleTable}

theorem has_eq (revises : Revises role table table') : table'.has = table.has := by
  have roles : table'.roles = table.roles := by
    obtain ⟨entries⟩ := table
    obtain ⟨entries'⟩ := table'
    change List.Forall₂ _ entries entries' at revises
    show entries'.map _ = entries.map _
    induction revises with
    | nil => rfl
    | cons head _ ih => rw [List.map_cons, List.map_cons, head.1, ih]
  funext other
  rw [has, has, roles]

theorem head?_eq (revises : Revises role table table') :
    (table'.restrictionsOf role).head? = (table.restrictionsOf role).head? := by
  obtain ⟨entries⟩ := table
  obtain ⟨entries'⟩ := table'
  change List.Forall₂ _ entries entries' at revises
  rw [restrictionsOf, restrictionsOf]
  dsimp only
  induction revises with
  | nil => rfl
  | @cons entry entry' _ _ head _ ih =>
    obtain ⟨name, restrictions⟩ := entry
    obtain ⟨name', restrictions'⟩ := entry'
    obtain ⟨rfl, first⟩ := head
    by_cases same : name' = role
    · rw [List.lookup_cons, List.lookup_cons]
      simp [same, first same]
    · simpa [List.lookup_cons, beq_false_of_ne (Ne.symm same)] using ih

end RoleTable.Revises

namespace Resolver

variable {r : Resolver} {context : Context} {inputs : Value} {role : String}

theorem resolve_revised {table : RoleTable} (wins : r.role? context = .ok (some role))
    (revises : RoleTable.Revises role r.table table) :
    { r with table }.resolve context inputs = r.resolve context inputs := by
  have wins' : { r with table }.role? context = .ok (some role) := by
    rw [← wins, role?, role?, candidates, candidates, revises.has_eq]
  have restricted : { r with table }.restriction? role = r.restriction? role := revises.head?_eq
  unfold resolve
  rw [wins, wins']
  show Traced.bind (.ofExcept (.ok (some role))) _ = Traced.bind (.ofExcept (.ok (some role))) _
  simp only [Traced.bind, Traced.ofExcept, restricted]

-- The role of a policy is the one that wins, and its first restriction applies.
theorem restricted_of_role {p : Policy} {restriction : Restriction}
    (resolved : (r.resolve context inputs).outcome = .ok p) (chosen : p.role = some role)
    (restricted : r.restriction? role = some restriction) :
    r.role? context = .ok (some role) ∧ p.restriction = some restriction := by
  rcases resolve_eq_ok resolved with ⟨rfl, _⟩ | ⟨winner, wins, policy⟩
  · cases chosen
  · obtain rfl : winner = role :=
      Option.some.inj ((role_of_policyOf policy).symm.trans chosen)
    rw [policyOf_of_some restricted] at policy
    obtain ⟨filters, _, rfl⟩ := Except.map_eq_ok.mp policy
    exact ⟨wins, rfl⟩

end Resolver

/-- A policy with a role whose first restriction is `restriction` has one filter for each of its
conditions, in their order and on their fields. The filters stand by themselves for `AND` and in
one group for `OR`, and the policy stays the same, reports included, in every other table for the
same roles where the role keeps its first restriction. -/
theorem policy_keeps_every_condition (r : Resolver) (context : Context) (inputs : Value)
    (p : Policy) (role : String) (restriction : Restriction) (later : List Restriction)
    (resolved : (r.resolve context inputs).outcome = .ok p) (chosen : p.role = some role)
    (configured : r.table.restrictionsOf role = restriction :: later) :
    ∃ filters, p.filters.flatMap FilterItem.filters = filters ∧
      List.Forall₂ (Condition.Yields context inputs) restriction.conditions filters ∧
      filters.map Filter.field = restriction.conditions.map (fun c => .text c.field) ∧
      p.restriction = some restriction ∧
      (restriction.combinator = .and → p.filters = filters.map .single) ∧
      (restriction.combinator = .or →
        p.filters = if filters = [] then [] else [.group ⟨filters, .or⟩]) ∧
      ∀ table, RoleTable.Revises role r.table table →
        { r with table }.resolve context inputs = r.resolve context inputs := by
  have restricted : r.restriction? role = some restriction := by
    rw [Resolver.restriction?, configured]
    rfl
  obtain ⟨wins, applies⟩ := Resolver.restricted_of_role resolved chosen restricted
  obtain ⟨filters, shown, each, _⟩ := Resolver.resolve_restricted resolved applies
  have yields := each.imp fun _ _ filter => Policy.yields_conditionFilter filter
  refine ⟨filters, ?_, yields, Condition.Yields.fields yields, applies, ?_, ?_,
    fun table => Resolver.resolve_revised wins⟩
  · rw [shown, Restriction.filters_items]
  · intro joined
    rw [shown, Restriction.items_and joined]
  · intro joined
    rw [shown, Restriction.items_or joined]

/-- An editor is also a viewer, and sees what is their own by an input that looks like a token, what
is in their teams, or what is in none of two states. It does not count what the editors' second
restriction and the viewers' restrictions are. -/
theorem editor_keeps_conditions_of_first_restriction :
    let owner : Condition := ⟨"owner", .neq, .text "nobody", true, none⟩
    let team : Condition := ⟨"team", .eq, .text "$context.user.teams", true, none⟩
    let state : Condition := ⟨"state", .neq, .tuple [.text "draft", .text "gone"], false, none⟩
    let first : Restriction := ⟨[owner, team, state], .or⟩
    let r : Resolver :=
      ⟨⟨[("viewer", [⟨[state], .and⟩]), ("editor", [first, ⟨[], .and⟩])]⟩,
        some (.ofEntries [("editor", 2), ("viewer", 1)])⟩
    let table : RoleTable := ⟨[("viewer", []), ("editor", [first])]⟩
    let context : Context :=
      ⟨some ⟨.int 7, ["viewer", "editor"], .null, [("teams", .tuple [.int 3, .int 4])]⟩, none⟩
    let inputs : Value := .dict [(.text "owner", .text "currentUser.id")]
    let p : Policy := ⟨some "editor", some first, [.group ⟨[
      ⟨.text "owner", .eq, .text "currentUser.id"⟩,
      ⟨.text "team", .isIn, .list [.int 3, .int 4]⟩,
      ⟨.text "state", .notIn, .list [.text "draft", .text "gone"]⟩], .or⟩]⟩
    (r.resolve context inputs).outcome = .ok p ∧ RoleTable.Revises "editor" r.table table ∧
      { r with table }.resolve context inputs = r.resolve context inputs := by
  intro owner team state first r table context inputs p
  have resolved : (r.resolve context inputs).outcome = .ok p := by cbv
  have revises : RoleTable.Revises "editor" r.table table :=
    .cons ⟨rfl, by simp⟩ (.cons ⟨rfl, fun _ => rfl⟩ .nil)
  obtain ⟨_, _, _, _, _, _, _, same⟩ :=
    policy_keeps_every_condition r context inputs p "editor" first _ resolved rfl rfl
  exact ⟨resolved, revises, same table revises⟩

end ScopedSql
