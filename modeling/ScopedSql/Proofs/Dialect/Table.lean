import ScopedSql.Dialect.Table
import ScopedSql.Proofs.Keys

/-! What is found in a table of dialects after any registrations.

Under a text that dialect counts which was entered last under just that text. A look-up does not go
by the name that it is asked for but by the key of that name, so a registered name finds its dialect
if it is a key itself. If it is not, whatever is registered under its key is found in its place.
-/

set_option autoImplicit false

namespace ScopedSql

variable {δ : Type}

structure Registration (δ : Type) where
  name : String
  dialect : δ
  aliases : List String

namespace Registration

def entries (registrations : List (Registration δ)) : List (String × δ) :=
  registrations.flatMap fun r => (r.name :: r.aliases).map fun name => (name, r.dialect)

def latest? (registrations : List (Registration δ)) (name : String) : Option δ :=
  (entries registrations).reverse.lookup name

theorem latest?_append (earlier later : List (Registration δ)) (name : String) :
    latest? (earlier ++ later) name = (latest? later name).or (latest? earlier name) := by
  rw [latest?, entries, List.flatMap_append, List.reverse_append, List.lookup_append]
  rfl

end Registration

namespace DialectTable

open Registration (latest?)

variable {table : DialectTable δ}

def afterAll (table : DialectTable δ) (registrations : List (Registration δ)) : DialectTable δ :=
  registrations.foldl (fun table r => table.register r.name r.dialect r.aliases) table

def builtIn (form : Dialect → δ) : List (Registration δ) :=
  [⟨"postgres", form .postgres, ["postgresql", "pg"]⟩, ⟨"mysql", form .mysql, ["mariadb"]⟩,
    ⟨"sqlite", form .sqlite, ["sqlite3"]⟩]

theorem standard_eq (form : Dialect → δ) : standard form = afterAll ⟨[]⟩ (builtIn form) := rfl

/-! ## One entry -/

def at? (table : DialectTable δ) (key : String) : Option δ :=
  (table.entries.find? fun entry => entry.1.equal (.text key)).map (·.2)

theorem at?_put (table : DialectTable δ) (name key : String) (d : δ) :
    (table.put (.text name) d).at? key = if name = key then some d else table.at? key := by
  unfold put
  split
  · next taken =>
    -- an entry keeps its name, so the same one is found
    have named : (fun entry : Value × δ => entry.1.equal (.text key)) ∘
        (fun entry : Value × δ => if entry.1.equal (.text name) then (entry.1, d) else entry) =
          fun entry => entry.1.equal (.text key) := by
      funext entry
      by_cases entered : entry.1.equal (.text name) <;> simp [entered]
    rw [at?, at?, List.find?_map, named]
    cases found : table.entries.find? fun entry => entry.1.equal (.text key) with
    | none =>
      have other : name ≠ key := by
        rintro rfl
        obtain ⟨entry, member, entered⟩ := List.any_eq_true.mp taken
        exact List.find?_eq_none.mp found entry member entered
      simp [other]
    | some entry =>
      have keyed : entry.1.equal (.text key) := by simpa using List.find?_some found
      have entered : entry.1.equal (.text name) ↔ name = key := by
        rw [Value.equal_text_iff, Value.equal_text_iff.mp keyed, Option.some_inj]
        exact eq_comm
      by_cases same : name = key
      · subst same
        simp [keyed]
      · simp [entered, same]
  · next free =>
    have last : (Value.text name).equal (.text key) ↔ name = key :=
      Value.equal_text_iff.trans Option.some_inj
    rw [at?, at?, List.find?_append]
    by_cases same : name = key
    · subst same
      have none : table.entries.find? (fun entry => entry.1.equal (.text name)) = none := by
        apply List.find?_eq_none.mpr
        intro entry member entered
        exact free (List.any_eq_true.mpr ⟨entry, member, entered⟩)
      simp [none, last.mpr rfl]
    · simp [last, same]

/-- Whether every name of the table is a text, as a fault that lists the names asks for. -/
def IsNamed (table : DialectTable δ) : Prop :=
  ∀ entry ∈ table.entries, entry.1.asText?.isSome

theorem IsNamed.put (named : table.IsNamed) (name : String) (d : δ) :
    (table.put (.text name) d).IsNamed := by
  unfold DialectTable.put
  split
  · intro entry member
    obtain ⟨entry, among, rfl⟩ := List.mem_map.mp member
    split
    · exact named entry among
    · exact named entry among
  · intro entry member
    rcases List.mem_append.mp member with among | last
    · exact named entry among
    · obtain rfl := List.mem_singleton.mp last
      rfl

/-! ## Any number of registrations -/

theorem afterAll_eq_foldl (table : DialectTable δ) (registrations : List (Registration δ)) :
    table.afterAll registrations = (Registration.entries registrations).foldl
      (fun table entry => table.put (.text entry.1) entry.2) table := by
  rw [afterAll, Registration.entries, List.foldl_flatMap]
  congr
  funext table r
  rw [register, List.foldl_map]

theorem at?_foldl_put (entries : List (String × δ)) (key : String) :
    (entries.foldl (fun table entry => table.put (.text entry.1) entry.2) table).at? key =
      (entries.reverse.lookup key).or (table.at? key) := by
  induction entries using List.reverseRecOn with
  | nil => rfl
  | append_singleton entries last ih =>
    rw [List.foldl_concat, at?_put, ih, List.reverse_concat, List.lookup_cons]
    by_cases same : last.1 = key
    · simp [same]
    · simp [same, beq_eq_false_iff_ne.mpr (Ne.symm same)]

/-- The last registration under a text decides what is there; without one nothing changes. -/
theorem at?_afterAll (table : DialectTable δ) (registrations : List (Registration δ))
    (key : String) :
    (table.afterAll registrations).at? key = (latest? registrations key).or (table.at? key) := by
  rw [afterAll_eq_foldl, at?_foldl_put]
  rfl

theorem IsNamed.afterAll (named : table.IsNamed) (registrations : List (Registration δ)) :
    (table.afterAll registrations).IsNamed := by
  rw [afterAll_eq_foldl]
  induction Registration.entries registrations generalizing table with
  | nil => exact named
  | cons entry rest ih => exact ih (named.put entry.1 entry.2)

theorem isNamed_standard (form : Dialect → δ) : (standard form).IsNamed := by
  have empty : IsNamed (⟨[]⟩ : DialectTable δ) := by simp [IsNamed]
  rw [standard_eq]
  exact empty.afterAll _

theorem at?_standard (form : Dialect → δ) (key : String) :
    (standard form).at? key = latest? (builtIn form) key := by
  rw [standard_eq, at?_afterAll]
  exact Option.or_none

/-! ## Look-ups -/

theorem find_eq (named : table.IsNamed) (name : String) :
    table.find name = match table.at? (lookupKey name) with
      | some d => .ok d
      | none => .error (.unsupportedDialect (.text (lookupKey name)) table.names) := by
  have texts : (table.names.all fun name => name.asText?.isSome) = true := by
    rw [names, List.all_map, List.all_eq_true]
    exact named
  simp only [find, at?, texts, if_true]
  cases table.entries.find? fun entry => entry.1.equal (.text (lookupKey name)) <;> rfl

theorem find_eq_ok_iff (named : table.IsNamed) {name : String} {d : δ} :
    table.find name = .ok d ↔ table.at? (lookupKey name) = some d := by
  rw [find_eq named]
  cases table.at? (lookupKey name) <;> simp

theorem find_eq_error_iff (named : table.IsNamed) {name : String} {fault : Fault} :
    table.find name = .error fault ↔ table.at? (lookupKey name) = none ∧
      fault = .unsupportedDialect (.text (lookupKey name)) table.names := by
  rw [find_eq named]
  cases table.at? (lookupKey name) <;> simp [eq_comm]

/-- A name that was registered finds its dialect just if this is also the last one under the key of
the name, as it is where the name is a key itself. A name whose key was never registered finds what
it found before, and the same fault if that was nothing, with the names as they are now. -/
theorem registered_name_finds_its_dialect_iff (form : Dialect → δ)
    (registrations : List (Registration δ)) :
    (∀ name d, latest? registrations name = some d →
      (((standard form).afterAll registrations).find name = .ok d ↔
        latest? (builtIn form ++ registrations) (lookupKey name) = some d) ∧
      (lookupKey name = name → ((standard form).afterAll registrations).find name = .ok d)) ∧
    ∀ name, latest? registrations (lookupKey name) = none →
      (∀ d, ((standard form).afterAll registrations).find name = .ok d ↔
        (standard form).find name = .ok d) ∧
      ∀ fault, ((standard form).afterAll registrations).find name = .error fault ↔
        (∃ before, (standard form).find name = .error before) ∧
          fault = .unsupportedDialect (.text (lookupKey name))
            ((standard form).afterAll registrations).names := by
  have named := (isNamed_standard form).afterAll registrations
  have found : ∀ key, ((standard form).afterAll registrations).at? key =
      latest? (builtIn form ++ registrations) key := by
    intro key
    rw [at?_afterAll, at?_standard, Registration.latest?_append]
  constructor
  · intro name d last
    have law : ((standard form).afterAll registrations).find name = .ok d ↔
        latest? (builtIn form ++ registrations) (lookupKey name) = some d := by
      rw [find_eq_ok_iff named, found]
    refine ⟨law, fun key => law.mpr ?_⟩
    rw [key, Registration.latest?_append, last, Option.some_or]
  · intro name absent
    have kept : ((standard form).afterAll registrations).at? (lookupKey name) =
        (standard form).at? (lookupKey name) := by
      rw [at?_afterAll, absent, Option.none_or]
    constructor
    · intro d
      rw [find_eq_ok_iff named, find_eq_ok_iff (isNamed_standard form), kept]
    · intro fault
      simp only [find_eq_error_iff named, find_eq_error_iff (isNamed_standard form), kept,
        exists_and_left, exists_eq, and_true]

theorem second_registration_of_pg_counts :
    let registrations : List (Registration Dialect) :=
      [⟨"mysql", .mysql, ["pg"]⟩, ⟨"sqlite", .sqlite, ["lite", "pg"]⟩]
    ((standard id).afterAll registrations).find "pg" = .ok .sqlite ∧
      ((standard id).afterAll registrations).find "MariaDB" = .ok .mysql := by
  intro registrations
  obtain ⟨last, others⟩ := registered_name_finds_its_dialect_iff id registrations
  have key : lookupKey "pg" = "pg" := by cbv
  have free : latest? registrations (lookupKey "MariaDB") = none := by cbv
  refine ⟨(last "pg" .sqlite (by cbv)).2 key, ?_⟩
  rw [(others "MariaDB" free).1]
  cbv

theorem name_in_capitals_is_not_found :
    let registrations : List (Registration Dialect) := [⟨"mysql", .mysql, ["Maria"]⟩]
    latest? registrations "Maria" = some .mysql ∧
      ((standard id).afterAll registrations).find "Maria" =
        .error (.unsupportedDialect (.text "maria")
          (["postgres", "postgresql", "pg", "mysql", "mariadb", "sqlite", "sqlite3",
            "Maria"].map .text)) := by
  intro registrations
  constructor
  · cbv
  · cbv

end DialectTable

end ScopedSql
