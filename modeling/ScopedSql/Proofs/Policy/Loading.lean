import ScopedSql.Configuration
import ScopedSql.Proofs.Filter
import ScopedSql.Proofs.Items
import ScopedSql.Proofs.Policy.Replacement
import ScopedSql.Proofs.Policy.Selection

/-! Restrictions that are loaded with a configuration, and the same ones given to a resolver.

The check of a configuration writes the entries of a role table under their names and then checks
each; a resolver reads each and writes what it has read under its name. Where the check accepts
what a role is given, a resolver reads the same restrictions from it, and both write what comes
under one name into one place. So the tables are the same, and so are the answers.
-/

set_option autoImplicit false

namespace ScopedSql

/-! ## What checks accept -/

namespace Checked

variable {α β : Type}

theorem both_eq_valid {f : Checked (α → β)} {x : Checked α} {b : β} :
    both f x = .valid b ↔ ∃ g a, f = .valid g ∧ x = .valid a ∧ g a = b := by
  cases f <;> cases x <;> simp [both]

theorem map_eq_valid {f : α → β} {x : Checked α} {b : β} :
    f <$> x = .valid b ↔ ∃ a, x = .valid a ∧ f a = b := by
  have mapped : f <$> x = both (.valid f) x := rfl
  rw [mapped, both_eq_valid]
  simp

theorem seq_eq_valid {f : Checked (α → β)} {x : Checked α} {b : β} :
    f <*> x = .valid b ↔ ∃ g a, f = .valid g ∧ x = .valid a ∧ g a = b :=
  both_eq_valid

theorem under_eq_valid {step : Step} {x : Checked α} {a : α} :
    x.under step = .valid a ↔ x = .valid a := by
  cases x <;> simp [under]

theorem andThen_eq_valid {x : Checked α} {next : α → Checked β} {b : β} :
    x.andThen next = .valid b ↔ ∃ a, x = .valid a ∧ next a = .valid b := by
  cases x <;> simp [andThen]

theorem toExcept_eq_ok {x : Checked α} {a : α} : x.toExcept = .ok a ↔ x = .valid a := by
  cases x <;> simp [toExcept]

theorem ofExcept_eq_valid {x : Except Fault α} {a : α} : ofExcept x = .valid a ↔ x = .ok a := by
  cases x with
  | ok b => simp [ofExcept]
  | error fault =>
    simp only [reduceCtorEq, iff_false]
    unfold ofExcept
    split
    · next same => cases same
    · exact fun same => by cases same
    · exact fun same => by cases same

theorem eachFrom_eq_valid {check : Value → Checked α} {position : Nat} {xs : List Value}
    {ys : List α} :
    eachFrom check position xs = .valid ys ↔
      List.Forall₂ (fun x y => check x = .valid y) xs ys := by
  induction xs generalizing position ys with
  | nil => cases ys <;> simp [eachFrom]
  | cons x xs ih =>
    simp only [eachFrom, both_eq_valid, under_eq_valid, ih, List.forall₂_cons_left_iff]
    constructor
    · rintro ⟨_, rest, ⟨_, y, pairs, first, rfl⟩, later, rfl⟩
      cases pairs
      exact ⟨y, rest, first, later, rfl⟩
    · rintro ⟨y, rest, first, later, rfl⟩
      exact ⟨_, rest, ⟨_, y, rfl, first, rfl⟩, later, rfl⟩

end Checked

namespace Configuration

/-- What a configuration accepts for one role a resolver reads as the same restrictions. -/
theorem readRestrictions_of_checkRestrictions [Check] {x : Value} {restrictions : List Restriction}
    (checked : checkRestrictions x = .valid restrictions) :
    RoleTable.readRestrictions x = .ok restrictions := by
  simp only [checkRestrictions, Check.sequenceOf, Checked.andThen_eq_valid, Checked.each,
    Checked.eachFrom_eq_valid] at checked
  obtain ⟨groups, walked, each⟩ := checked
  have found : RoleTable.groups x = .ok groups := by
    by_cases single : RoleTable.isSingle x
    · rw [if_pos single] at walked
      cases Check.elements_of_sequence walked
      rw [RoleTable.groups, if_pos single]
    · rw [if_neg single] at walked
      rw [RoleTable.groups, if_neg single]
      exact Check.elements_of_sequence walked
  rw [RoleTable.readRestrictions_eq, found]
  change groups.mapM _ = _
  rw [Except.mapM_eq_ok]
  exact each.imp fun _ _ checked => Checked.toExcept_eq_ok.mpr checked

theorem alike_of_checked [Check] {items : List (String × Value)}
    {found : List (String × List Restriction)}
    (checked : (Dict.ofItems items).foldr (fun entry rest =>
      (fun restrictions rest => (entry.1.plain, restrictions) :: rest)
        <$> (checkRestrictions entry.2).under (.key entry.1.plain) <*> rest) (.valid []) =
      .valid found) :
    Item.Alike (fun x restrictions => checkRestrictions x = .valid restrictions) items found := by
  induction items generalizing found with
  | nil =>
    cases checked
    exact .nil
  | cons item rest ih =>
    rw [Dict.ofItems, List.map_cons, List.foldr_cons, Checked.seq_eq_valid] at checked
    obtain ⟨_, later, put, others, rfl⟩ := checked
    obtain ⟨restrictions, first, rfl⟩ := Checked.map_eq_valid.mp put
    exact .cons ⟨rfl, Checked.under_eq_valid.mp first⟩ (ih others)

-- The names are settled before any check, so the checks go over what was collected.
theorem eq_of_nameRoles {es named : Dict} (written : nameRoles es = .ok named) :
    named = Dict.ofItems (collected (es.map fun entry => (entry.1.plain, entry.2))) := by
  simp only [nameRoles, Except.bind_eq_ok, Except.mapM_eq_ok, Except.pure_eq_ok] at written
  obtain ⟨pairs, each, rfl⟩ := written
  have plain : es.map (fun entry => (Value.text entry.1.plain, entry.2)) = pairs := by
    rw [← List.forall₂_eq_eq_eq, List.forall₂_map_left_iff]
    refine each.imp ?_
    rintro entry _ ⟨name, written, rfl⟩
    rw [(Value.written_eq_ok.mp written).2]
  rw [← Dict.ofEntries_ofItems, Dict.ofItems, List.map_map, ← plain]
  rfl

theorem entries_of_checkRoleTable [Check] {es : Dict} {table : RoleTable}
    (checked : checkRoleTable (.dict es) = .valid table) :
    Item.Alike (fun x restrictions => checkRestrictions x = .valid restrictions)
      (collected (es.map fun entry => (entry.1.plain, entry.2))) table.entries := by
  obtain ⟨_, entered, made⟩ := Checked.andThen_eq_valid.mp checked
  cases entered
  obtain ⟨named, written, made⟩ := Checked.andThen_eq_valid.mp made
  obtain ⟨entries, each, rfl⟩ := Checked.map_eq_valid.mp made
  rw [eq_of_nameRoles (Checked.ofExcept_eq_valid.mp written)] at each
  exact alike_of_checked each

end Configuration

namespace RoleTable

theorem ofEntries_eq (entries : List (String × List Restriction)) :
    ofEntries entries = ⟨collected entries⟩ := by
  have putting : @put = @putItem (List Restriction) := by
    funext role restrictions table
    induction table with
    | nil => rfl
    | cons entry rest ih => rw [put, putItem, ih]
  rw [ofEntries, putting]
  rfl

theorem entries_of_ofValue [Check] {es : Dict} {table : RoleTable}
    (read : ofValue (.dict es) = .ok table) :
    Item.Alike (fun x restrictions => readRestrictions x = .ok restrictions)
      (collected (es.map fun entry => (entry.1.plain, entry.2))) table.entries := by
  cases es with
  | nil =>
    cases read
    exact .nil
  | cons entry rest =>
    have described : ofValue (.dict (entry :: rest)) =
        (do return ofEntries (← (entry :: rest).mapM readEntry)) := rfl
    rw [described] at read
    simp only [Except.bind_eq_ok, Except.mapM_eq_ok, Except.pure_eq_ok, readEntry_eq_ok] at read
    obtain ⟨pairs, each, rfl⟩ := read
    -- all entries are read, and then what was read is collected
    rw [ofEntries_eq]
    refine Item.Alike.collected ?_
    rw [Item.Alike, List.forall₂_map_left_iff]
    refine each.imp ?_
    rintro entry pair ⟨written, read⟩
    exact ⟨(Value.written_eq_ok.mp written).2, read⟩

end RoleTable

theorem RoleTable.eq_of_checkRoleTable [Check] {x : Value} {table table' : RoleTable}
    (checked : Configuration.checkRoleTable x = .valid table) (read : ofValue x = .ok table') :
    table = table' := by
  obtain ⟨es, entered, _⟩ := Checked.andThen_eq_valid.mp checked
  cases x with
  | dict entries =>
    have same := (Configuration.entries_of_checkRoleTable checked).unique
      (fun groups found found' accepted read => ?_) (entries_of_ofValue read)
    · exact congrArg RoleTable.mk same
    · have read' := Configuration.readRestrictions_of_checkRestrictions accepted
      exact Except.ok.inj (read'.symm.trans read)
  | _ => cases entered

/-! ## Tables that were read before -/

theorem Constraint.ofRecord?_toValue (c : Constraint) : ofRecord? c.toValue = some c := by
  have bound : ∀ x : Option Double, bound? (boundValue x) = x := by
    intro x
    cases x <;> rfl
  have words : options? ((c.options.map fun words => Value.tuple (words.map .text)).getD .null) =
      c.options := by
    cases c.options with
    | none => rfl
    | some words => simp [options?, List.filterMap_map, Function.comp_def, Value.asText?]
  rw [toValue, ofRecord?, bound, bound, words]

theorem Condition.ofRecord?_toValue (c : Condition) : ofRecord? c.toValue = some c := by
  have constraint : Constraint.ofRecord? ((c.constraint.map Constraint.toValue).getD .null) =
      c.constraint := by
    cases c.constraint with
    | none => rfl
    | some constraint => exact constraint.ofRecord?_toValue
  rw [toValue, ofRecord?, constraint]

theorem Restriction.ofRecord?_toValue (r : Restriction) : ofRecord? r.toValue = some r := by
  have conditions := mapM_of_read_back Condition.ofRecord?_toValue r.conditions
  rw [toValue, ofRecord?, conditions]
  rfl

theorem Restriction.check_toValue [Check] (r : Restriction) : check r.toValue = .valid r := by
  rw [check, Check.model, ofRecord?_toValue]

namespace RoleTable

def toValue (table : RoleTable) : Value :=
  .dict (Dict.ofItems (table.entries.map fun entry =>
    (entry.1, .tuple (entry.2.map Restriction.toValue))))

theorem readRestrictions_toValue [Check] (restrictions : List Restriction) :
    readRestrictions (.tuple (restrictions.map Restriction.toValue)) = .ok restrictions := by
  have walked : groups (.tuple (restrictions.map Restriction.toValue)) =
      .ok (restrictions.map Restriction.toValue) := rfl
  rw [readRestrictions_eq, walked]
  change (restrictions.map Restriction.toValue).mapM _ = _
  rw [Except.mapM_eq_ok, List.forall₂_map_left_iff, List.forall₂_same]
  exact fun r _ => Checked.toExcept_eq_ok.mpr r.check_toValue

theorem ofValue_toValue [Check] {table : RoleTable} (once : table.roles.Nodup) :
    ofValue table.toValue = .ok table := by
  obtain ⟨entries⟩ := table
  cases entries with
  | nil => rfl
  | cons first rest =>
    have each : (Dict.ofItems ((first :: rest).map fun entry =>
        (entry.1, Value.tuple (entry.2.map Restriction.toValue)))).mapM readEntry =
        .ok (first :: rest) := by
      rw [Except.mapM_eq_ok, Dict.ofItems, List.map_map, List.forall₂_map_left_iff,
        List.forall₂_same]
      intro entry _
      exact readEntry_eq_ok.mpr ⟨Value.written_text entry.1, readRestrictions_toValue entry.2⟩
    change (_ >>= fun pairs => pure (ofEntries pairs)) = _
    rw [each]
    change Except.ok (ofEntries (first :: rest)) = _
    rw [ofEntries_eq, Item.collected_of_nodup once]

theorem nodup_of_ofValue [Check] {x : Value} {table : RoleTable} (read : ofValue x = .ok table) :
    table.roles.Nodup := by
  unfold ofValue at read
  split at read
  · split at read
    · obtain ⟨pairs, _, made⟩ := Except.bind_eq_ok.mp read
      cases made
      rw [ofEntries_eq]
      exact Item.nodup_collected pairs
    · simp [Value.lacking, Value.misused] at read
  · cases read
    exact .nil

end RoleTable

/-! ## The gateway of a configuration -/

theorem Priority.ofEntries_eq (entries : List (String × Int)) :
    ofEntries entries =
      ⟨.dict (Dict.ofItems ((collected entries).map fun entry => (entry.1, .int entry.2)))⟩ := by
  rw [← Item.collected_map, ← Dict.ofEntries_ofItems, ofEntries, Dict.ofItems, List.map_map]
  rfl

theorem PrioritySetting.ofValue_toValue (s : PrioritySetting) :
    Priority.ofValue s.toValue = .ok (some s.priority) := by
  cases s with
  | order roles =>
    have described : Priority.ofValue (toValue (order roles)) =
        (do return some (.ofOrder (← (roles.map Value.text).mapM Value.written))) := rfl
    have names : (roles.map Value.text).mapM Value.written = .ok roles := by
      rw [Except.mapM_eq_ok, List.forall₂_map_left_iff, List.forall₂_same]
      exact fun role _ => Value.written_text role
    rw [described, names]
    rfl
  | ranks entries =>
    have once : collected (collected entries) = collected entries :=
      Item.collected_of_nodup (Item.nodup_collected entries)
    rw [toValue, priority, Priority.ofEntries_eq, Priority.ofValue_dict_eq_ok]
    refine ⟨collected entries, ?_, ?_⟩
    · rw [Dict.ofItems, List.map_map, List.forall₂_map_left_iff, List.forall₂_same]
      exact fun _ _ => ⟨rfl, rfl⟩
    · rw [Priority.ofEntries_eq, once]

namespace Configuration

def restrictionsGiven? (settings : Dict) : Option Value :=
  (settings.at? "roleRestrictions").orElse fun _ => settings.at? "role_restrictions"

def priorityValue (c : Configuration) : Value :=
  (c.priority.map PrioritySetting.toValue).getD .null

theorem ofValue_priorityValue (c : Configuration) :
    Priority.ofValue c.priorityValue = .ok (c.priority.map PrioritySetting.priority) := by
  unfold priorityValue
  cases c.priority with
  | none => rfl
  | some s => exact s.ofValue_toValue

theorem ofValue_eq_ok [Check] {settings : Dict} {c : Configuration}
    (configured : ofValue (.dict settings) = .ok c) :
    Check.optional settings "dialect" "postgres" checkDialect = .valid c.dialect ∧
      Check.aliased settings "roleRestrictions" "role_restrictions" .empty checkRoleTable =
        .valid c.restrictions := by
  have checked := Checked.toExcept_eq_ok.mp configured
  obtain ⟨_, entered, made⟩ := Checked.andThen_eq_valid.mp checked
  cases entered
  simp only [ofSettings, Checked.seq_eq_valid, Checked.map_eq_valid] at made
  obtain ⟨_, _, ⟨_, _, ⟨_, _, ⟨_, _, ⟨_, dialect, rfl⟩, _, rfl⟩, restrictions, rfl⟩, _, rfl⟩, _,
    rfl⟩ := made
  exact ⟨dialect, restrictions⟩

theorem find_name (d : Dialect) : (DialectTable.standard id).find d.name = .ok d := by
  cases d <;> rfl

theorem find_of_checked [Check] {settings : Dict} {name : String}
    (checked : Check.optional settings "dialect" "postgres" checkDialect = .valid name) :
    ∃ d, (DialectTable.standard id).find name = .ok d := by
  unfold Check.optional at checked
  split at checked
  · obtain ⟨asked, _, named⟩ := Checked.andThen_eq_valid.mp (Checked.under_eq_valid.mp checked)
    obtain ⟨d, _, rfl⟩ := Except.map_eq_ok.mp (Checked.ofExcept_eq_valid.mp named)
    exact ⟨d, find_name d⟩
  · cases checked
    exact ⟨.postgres, find_name .postgres⟩

theorem checkRoleTable_of_aliased [Check] {settings : Dict} {restrictions : Value}
    {table : RoleTable}
    (given : restrictionsGiven? settings = some restrictions)
    (checked : Check.aliased settings "roleRestrictions" "role_restrictions" .empty
      checkRoleTable = .valid table) : checkRoleTable restrictions = .valid table := by
  unfold restrictionsGiven? at given
  unfold Check.aliased at checked
  cases first : settings.at? "roleRestrictions" with
  | some x =>
    rw [first] at given checked
    cases given
    exact Checked.under_eq_valid.mp checked
  | none =>
    rw [first] at given checked
    have second : settings.at? "role_restrictions" = some restrictions := given
    rw [Check.optional, second] at checked
    exact Checked.under_eq_valid.mp checked

end Configuration

/-- Restrictions that both a configuration and a resolver accept come to the same table, which is
read back as it is. With the priority of the configuration the resolver is that of its gateway, so
both answer every context and all inputs alike. -/
theorem configuration_and_resolver_agree [Check] (settings : Dict) (restrictions priority : Value)
    (c : Configuration) (r : Resolver)
    (given : Configuration.restrictionsGiven? settings = some restrictions)
    (configured : Configuration.ofValue (.dict settings) = .ok c)
    (made : Resolver.make restrictions priority = .ok r) :
    ∃ g, c.gateway = .ok g ∧ g.access.resolver.table = r.table ∧ c.restrictions = r.table ∧
      RoleTable.ofValue r.table.toValue = .ok r.table ∧
      Resolver.make restrictions c.priorityValue = .ok g.access.resolver ∧
      Resolver.make c.restrictions.toValue c.priorityValue = .ok g.access.resolver ∧
      (r.priority = g.access.resolver.priority → ∀ context inputs,
        r.resolve context inputs = g.access.resolver.resolve context inputs ∧
        r.exposedConditions context = g.access.resolver.exposedConditions context) := by
  obtain ⟨dialect, checked⟩ := Configuration.ofValue_eq_ok configured
  -- the check has found the dialect, so that there is a gateway
  obtain ⟨d, found⟩ := Configuration.find_of_checked dialect
  obtain ⟨read, _⟩ := Resolver.make_eq_ok.mp made
  have same : c.restrictions = r.table :=
    RoleTable.eq_of_checkRoleTable (Configuration.checkRoleTable_of_aliased given checked) read
  have again : RoleTable.ofValue r.table.toValue = .ok r.table :=
    RoleTable.ofValue_toValue (RoleTable.nodup_of_ofValue read)
  have ranked := c.ofValue_priorityValue
  refine ⟨_, by rw [Configuration.gateway, found]; rfl, same, same, again,
    Resolver.make_eq_ok.mpr ⟨same ▸ read, ranked⟩,
    Resolver.make_eq_ok.mpr ⟨same ▸ again, ranked⟩, fun alike context inputs => ?_⟩
  obtain ⟨table, order⟩ := r
  cases same
  cases alike
  exact ⟨rfl, rfl⟩

/-- A role that is named by a number and then by its text, beside one with a single restriction. -/
theorem table_with_role_named_twice_is_loaded_alike :
    let restrictions : Value := .dict
      [(.int 1, .dict [(.text "conditions", .list [.dict [(.text "field", .text "owner")]])]),
        (.text "viewer", .dict []),
        (.text "1", .list [.dict [(.text "combinator", .text "or")]])]
    let table : RoleTable := ⟨[("1", [⟨[], .or⟩]), ("viewer", [⟨[], .and⟩])]⟩
    let c : Configuration := ⟨"postgres", .none, table, none, false⟩
    let r : Resolver := ⟨table, none⟩
    Configuration.ofValue (.dict [(.text "roleRestrictions", restrictions)]) = .ok c ∧
      Resolver.make restrictions .null = .ok r ∧
      ∃ g, c.gateway = .ok g ∧ ∀ context inputs,
        r.resolve context inputs = g.access.resolver.resolve context inputs := by
  intro restrictions table c r
  have configured : Configuration.ofValue (.dict [(.text "roleRestrictions", restrictions)]) =
      .ok c := by rfl
  have made : Resolver.make restrictions .null = .ok r := by rfl
  obtain ⟨g, opened, _, _, _, direct, _, alike⟩ :=
    configuration_and_resolver_agree _ restrictions .null c r rfl configured made
  have same : r = g.access.resolver := Except.ok.inj (made.symm.trans direct)
  exact ⟨configured, made, g, opened, fun context inputs =>
    (alike (congrArg Resolver.priority same) context inputs).1⟩

end ScopedSql
