import ScopedSql.Proofs.Keys
import ScopedSql.Proofs.Policy.Resolution

/-! Which of a caller's roles wins.

A role stands at the rank that the priority gives it or, without a priority, at the integer that its
name writes; a role that has neither stands below all others. The role that wins is the first one in
the caller's order that none in the table stands above. So the order of the caller's roles counts
only among those that stand equally high.
-/

set_option autoImplicit false

namespace ScopedSql

def Value.whole? (x : Value) : Option Int :=
  match x.asNumber? with
  | some (.int n) => some n
  | _ => none

/-- The ranks are whole numbers, as a priority declares them; a rank that is nothing ranks no
role. -/
def Priority.IsWhole (p : Priority) : Prop :=
  ∃ ranks, p.ranks = .dict ranks ∧
    ∀ entry ∈ ranks, entry.2 = .null ∨ ∃ n, entry.2.whole? = some n

def Priority.standing (p : Priority) (role : String) : Option Int :=
  match p.ranks with
  | .dict ranks => (Dict.at? ranks role).bind Value.whole?
  | _ => none

/-- Where a description of a priority puts a role: at its number without a priority; at the integer
of the last entry under its name; in a list at its last place, counted from the end. -/
def Priority.describedStanding (given : Value) (role : String) : Option Int :=
  match given with
  | .null => Numeral.readInt (Text.trim role).toList
  | .dict ranks =>
    (ranks.reverse.find? fun entry => entry.1.plain = role).bind fun entry =>
      entry.2.toInt.toOption
  | order =>
    (((order.elements?.getD []).map Value.plain).reverse.idxOf? role).map fun place =>
      (place : Int) + 1

/-- Where a role stands by what a caller gives for a priority; a role with neither a rank nor a
number stands below all others. -/
def Role.standing (given : Value) (role : String) : WithBot Int :=
  (match Priority.ofRecord? given with
  | some p => p.standing role
  | none => Priority.describedStanding given role : Option Int)

/-! ## The first of the greatest -/

section Greatest

variable {α β : Type} [LinearOrder β]

-- The earliest of the greatest: greater than what comes before it, and not less than what follows.
theorem argmax_eq_some_iff_append [DecidableEq α] {f : α → β} {xs : List α} {best : α} :
    xs.argmax f = some best ↔ ∃ earlier later, xs = earlier ++ best :: later ∧
      (∀ x ∈ earlier, f x < f best) ∧ ∀ x ∈ later, f x ≤ f best := by
  rw [List.argmax_eq_some_iff]
  constructor
  · rintro ⟨member, greatest, first⟩
    obtain ⟨earlier, later, rfl, fresh⟩ := List.eq_append_cons_of_mem member
    refine ⟨earlier, later, rfl, fun x before => ?_, fun x after => greatest x (by simp [after])⟩
    by_contra reached
    have place := first x (by simp [before]) (not_lt.mp reached)
    rw [List.idxOf_append_of_notMem fresh, List.idxOf_append_of_mem before] at place
    have bound := List.idxOf_lt_length_of_mem before
    omega
  · rintro ⟨earlier, later, rfl, below, reached⟩
    have fresh : best ∉ earlier := fun before => lt_irrefl _ (below best before)
    refine ⟨by simp, fun x member => ?_, fun x member reaches => ?_⟩
    · rcases List.mem_append.mp member with before | among
      · exact (below x before).le
      · rcases List.mem_cons.mp among with rfl | after
        · exact le_rfl
        · exact reached x after
    · have late : x ∉ earlier := fun before => (below x before).not_ge reaches
      rw [List.idxOf_append_of_notMem fresh, List.idxOf_append_of_notMem late, List.idxOf_cons_self]
      omega

theorem argmax_filter_eq_some_iff [DecidableEq α] {f : α → β} {p : α → Bool} {xs : List α}
    {best : α} :
    (xs.filter p).argmax f = some best ↔ p best ∧ ∃ earlier later,
      xs = earlier ++ best :: later ∧ (∀ x ∈ earlier, p x → f x < f best) ∧
        ∀ x ∈ later, p x → f x ≤ f best := by
  rw [argmax_eq_some_iff_append]
  constructor
  · rintro ⟨before, after, kept, below, reached⟩
    obtain ⟨start, rest, rfl, rfl, tail⟩ := List.filter_eq_append_iff.mp kept
    obtain ⟨dropped, later, rfl, missed, passes, rfl⟩ := List.filter_eq_cons_iff.mp tail
    refine ⟨passes, start ++ dropped, later, by simp, fun x member holds => ?_,
      fun x member holds => reached x (List.mem_filter.mpr ⟨member, holds⟩)⟩
    rcases List.mem_append.mp member with early | between
    · exact below x (List.mem_filter.mpr ⟨early, holds⟩)
    · exact absurd holds (missed x between)
  · rintro ⟨passes, earlier, later, rfl, below, reached⟩
    refine ⟨earlier.filter p, later.filter p, by simp [passes], fun x member => ?_,
      fun x member => ?_⟩
    · obtain ⟨early, holds⟩ := List.mem_filter.mp member
      exact below x early holds
    · obtain ⟨late, holds⟩ := List.mem_filter.mp member
      exact reached x late holds

theorem argmax_eq_head? [OrderBot β] {f : α → β} {xs : List α} (least : ∀ x ∈ xs, f x = ⊥) :
    xs.argmax f = xs.head? := by
  cases xs with
  | nil => rfl
  | cons x rest =>
    rw [List.argmax_cons]
    cases best : rest.argmax f with
    | none => rfl
    | some y =>
      have lowest : f y = ⊥ := least y (by simp [List.argmax_mem best])
      simp [lowest]

end Greatest

/-! ## Measures of a standing -/

def Role.Measures : Option Value → Option Int → Prop :=
  Option.Rel fun x n => x.whole? = some n

theorem Role.measures_int (n : Option Int) : Measures (n.map Value.int) n := by
  cases n with
  | none => exact .none
  | some n => exact .some rfl

theorem Role.measures_none_iff {standing : Option Int} :
    Measures none standing ↔ standing = none := by
  constructor
  · rintro ⟨⟩
    rfl
  · rintro rfl
    exact .none

theorem Role.measures_some_iff {x : Value} {standing : Option Int} :
    Measures (some x) standing ↔ ∃ n, x.whole? = some n ∧ standing = some n := by
  constructor
  · rintro ⟨whole⟩
    exact ⟨_, whole, rfl⟩
  · rintro ⟨n, whole, rfl⟩
    exact .some whole

namespace Value

theorem asNumber?_of_whole {x : Value} {n : Int} (whole : x.whole? = some n) :
    x.asNumber? = some (.int n) := by
  unfold whole? at whole
  split at whole
  · next number => rw [number, Option.some.inj whole]
  · cases whole

theorem isBelow?_of_whole {x y : Value} {m n : Int} (first : x.whole? = some m)
    (second : y.whole? = some n) : x.isBelow? y = some (decide (m < n)) := by
  have numbers : (Number.int m).isBelow (.int n) = decide (m < n) := by
    simp [Number.isBelow, Number.compare?, Int.compare_eq_lt]
  have firstNumber := asNumber?_of_whole first
  have secondNumber := asNumber?_of_whole second
  -- only truth values and integers are whole numbers, and those are compared by amount
  cases x with
  | bool | int => simp [isBelow?, firstNumber, secondNumber, numbers]
  | _ => simp [asNumber?] at firstNumber

end Value

namespace Priority

theorem rank?_of_dict {p : Priority} {ranks : Dict} (known : p.ranks = .dict ranks)
    (role : String) :
    p.rank? (.text role) = .ok ((ranks.at? role).bind fun rank =>
      match rank with
      | .null => none
      | rank => some rank) := by
  have key : (Value.text role).isKey = true := rfl
  rw [rank?, known]
  simp only [key, if_true, Dict.at?]
  cases found : Dict.get? ranks (.text role) with
  | none => rfl
  | some rank => cases rank <;> rfl

theorem rank?_ofEntries (entries : List (String × Int)) (role : String) :
    (ofEntries entries).rank? (.text role) =
      .ok ((entries.reverse.lookup role).map Value.int) := by
  refine (rank?_of_dict (p := ofEntries entries) rfl role).trans ?_
  rw [Dict.at?_ofEntries]
  cases entries.reverse.lookup role <;> rfl

theorem lookup_descending (labels : List String) (role : String) :
    (descending labels).reverse.lookup role =
      (labels.reverse.idxOf? role).map fun place => (place : Int) + 1 := by
  induction labels with
  | nil => rfl
  | cons label rest ih =>
    simp only [List.idxOf?] at ih ⊢
    rw [descending, List.reverse_cons, List.reverse_cons, List.lookup_append, ih,
      List.findIdx?_append]
    cases rest.reverse.findIdx? (· == role) with
    | some place => rfl
    | none =>
      -- without a later place the first one counts, if it is the role's
      by_cases same : label = role
      · simp [same]
      · simp [List.lookup_cons, same, beq_eq_false_iff_ne.mpr (Ne.symm same)]

-- The last entry under a name is the last one in the description.
theorem lookup_of_read {ranks : Dict} {pairs : List (String × Int)}
    (read : List.Forall₂ (fun entry pair => entry.1.plain = pair.1 ∧ entry.2.toInt = .ok pair.2)
      ranks pairs) (role : String) :
    pairs.lookup role = (ranks.find? fun entry => entry.1.plain = role).bind fun entry =>
      entry.2.toInt.toOption := by
  induction read with
  | nil => rfl
  | @cons entry pair ranks pairs head _ ih =>
    obtain ⟨named, whole⟩ := head
    obtain ⟨label, n⟩ := pair
    rw [List.lookup_cons, List.find?_cons, ih, named]
    by_cases same : label = role
    · simp [same, whole, Except.toOption]
    · simp [same, beq_eq_false_iff_ne.mpr (Ne.symm same)]

end Priority

/-! ## Readings of a description -/

theorem Value.eq_of_mapM_written {items : List Value} {names : List String}
    (written : items.mapM Value.written = .ok names) : items.map Value.plain = names := by
  rw [Except.mapM_eq_ok] at written
  rw [← List.forall₂_eq_eq_eq, List.forall₂_map_left_iff]
  exact written.imp fun _ _ read => (written_eq_ok.mp read).2

namespace Priority

variable {given : Value}

theorem ofValue_ready {p : Priority} (ready : ofRecord? given = some p) :
    ofValue given = .ok (some p) := by
  unfold ofValue
  rw [ready]

theorem readEntry_eq_ok {entry : Value × Value} {pair : String × Int} :
    readEntry entry = .ok pair ↔
      entry.1.written = .ok pair.1 ∧ entry.2.toInt = .ok pair.2 := by
  simp only [readEntry, Except.bind_eq_ok, Except.pure_eq_ok]
  constructor
  · rintro ⟨role, named, rank, whole, rfl⟩
    exact ⟨named, whole⟩
  · rintro ⟨named, whole⟩
    exact ⟨_, named, _, whole, rfl⟩

theorem ofValue_dict_eq_ok {ranks : Dict} {priority : Option Priority} :
    ofValue (.dict ranks) = .ok priority ↔
      ∃ pairs, List.Forall₂ (fun entry pair => entry.1.written = .ok pair.1 ∧
        entry.2.toInt = .ok pair.2) ranks pairs ∧ some (ofEntries pairs) = priority := by
  have described : ofValue (.dict ranks) =
      (do return some (ofEntries (← ranks.mapM readEntry))) := rfl
  simp only [described, Except.bind_eq_ok, Except.mapM_eq_ok, Except.pure_eq_ok, readEntry_eq_ok]

theorem ofValue_order (described : ofRecord? given = none) (present : given ≠ .null)
    (unranked : ∀ ranks, given ≠ .dict ranks) :
    ofValue given = (do return some (ofOrder (← (← given.elements).mapM Value.written))) := by
  unfold ofValue
  rw [described]
  split
  · next ready => cases ready
  · exact absurd rfl present
  · next ranks _ => exact absurd rfl (unranked ranks)
  · rfl

end Priority

namespace Role

variable {given : Value} {priority : Option Priority}

theorem measure_of_ready {p : Priority} (whole : p.IsWhole) (role : String) :
    ∃ measured, measure (some p) (.text role) = .ok measured ∧
      Measures measured (p.standing role) := by
  obtain ⟨ranks, known, each⟩ := whole
  refine ⟨_, Priority.rank?_of_dict known role, ?_⟩
  simp only [Priority.standing, known]
  cases found : Dict.at? ranks role with
  | none => exact .none
  | some rank =>
    obtain ⟨entry, among, same⟩ := Option.map_eq_some_iff.mp found
    have member := List.mem_of_find?_eq_some among
    rcases each entry member with nothing | ⟨n, whole⟩
    · obtain rfl : Value.null = rank := nothing.symm.trans same
      exact .none
    · rw [same] at whole
      rw [Option.bind_some, Option.bind_some, whole]
      cases rank with
      | null => cases whole
      | _ => exact .some whole

theorem measure_of_name (role : String) :
    ∃ measured, measure none (.text role) = .ok measured ∧
      Measures measured (Priority.describedStanding .null role) := by
  rw [Priority.describedStanding, measure, number?]
  simp only [Value.toInt]
  generalize Numeral.readInt (Text.trim role).toList = written
  refine ⟨written.map Value.int, ?_, measures_int written⟩
  cases written <;> rfl

theorem measure_of_entries {ranks : Dict} {pairs : List (String × Int)}
    (described : List.Forall₂ (fun entry pair => entry.1.written = .ok pair.1 ∧
      entry.2.toInt = .ok pair.2) ranks pairs) (role : String) :
    ∃ measured, measure (some (.ofEntries pairs)) (.text role) = .ok measured ∧
      Measures measured (Priority.describedStanding (.dict ranks) role) := by
  have read : List.Forall₂ (fun entry pair => entry.1.plain = pair.1 ∧
      entry.2.toInt = .ok pair.2) ranks pairs :=
    described.imp fun _ _ step => ⟨(Value.written_eq_ok.mp step.1).2, step.2⟩
  refine ⟨_, Priority.rank?_ofEntries pairs role, ?_⟩
  rw [Priority.lookup_of_read (List.forall₂_reverse_iff.mpr read), Priority.describedStanding]
  exact measures_int _

theorem measure_of_order {items : List Value} (walked : given.elements = .ok items)
    (present : given ≠ .null) (unranked : ∀ ranks, given ≠ .dict ranks) (role : String) :
    ∃ measured,
      measure (some (.ofOrder (items.map Value.plain))) (.text role) = .ok measured ∧
      Measures measured (Priority.describedStanding given role) := by
  have listed : given.elements? = some items := by
    cases listed : given.elements? with
    | none => simp [Value.elements, listed, Value.misused] at walked
    | some items' => simpa [Value.elements, listed] using walked
  have place : Priority.describedStanding given role =
      ((items.map Value.plain).reverse.idxOf? role).map fun place => (place : Int) + 1 := by
    unfold Priority.describedStanding
    split
    · exact absurd rfl present
    · exact absurd rfl (unranked _)
    · rw [listed, Option.getD_some]
  refine ⟨_, Priority.rank?_ofEntries _ role, ?_⟩
  rw [Priority.lookup_descending, place]
  exact measures_int _

theorem measure_standing (read : Priority.ofValue given = .ok priority)
    (whole : ∀ p, Priority.ofRecord? given = some p → p.IsWhole) (role : String) :
    ∃ measured, measure priority (.text role) = .ok measured ∧
      Measures measured (standing given role) := by
  cases ready : Priority.ofRecord? given with
  | some p =>
    obtain rfl : some p = priority :=
      Except.ok.inj ((Priority.ofValue_ready ready).symm.trans read)
    rw [standing, ready]
    exact measure_of_ready (whole p ready) role
  | none =>
    rw [standing, ready]
    by_cases absent : given = .null
    · subst absent
      cases read
      exact measure_of_name role
    by_cases ranked : ∃ ranks, given = .dict ranks
    · obtain ⟨ranks, rfl⟩ := ranked
      obtain ⟨pairs, described, rfl⟩ := Priority.ofValue_dict_eq_ok.mp read
      exact measure_of_entries described role
    · have unranked : ∀ ranks, given ≠ .dict ranks := fun ranks same => ranked ⟨ranks, same⟩
      rw [Priority.ofValue_order ready absent unranked] at read
      simp only [Except.bind_eq_ok, Except.pure_eq_ok] at read
      obtain ⟨items, walked, names, written, rfl⟩ := read
      obtain rfl := Value.eq_of_mapM_written written
      exact measure_of_order walked absent unranked role

/-! ## The run over the candidates -/

def better {α : Type} (measure : α → Except Fault (Option Value)) (best : Option (α × Value))
    (role : α) : Except Fault (Option (α × Value)) := do
  match ← measure role, best with
  | none, best => return best
  | some n, none => return some (role, n)
  | some n, some (winner, m) => return some (if ← isBelow m n then (role, n) else (winner, m))

theorem bestFrom_cons {α : Type} (measure : α → Except Fault (Option Value))
    (best : Option (α × Value)) (role : α) (rest : List α) :
    bestFrom measure best (role :: rest) =
      better measure best role >>= fun best => bestFrom measure best rest := by
  rw [bestFrom, better]
  cases measure role with
  | error fault => rfl
  | ok measured =>
    cases measured with
    | none => rfl
    | some n =>
      cases best with
      | none => rfl
      | some best =>
        show (isBelow best.2 n >>= _) = (isBelow best.2 n >>= _) >>= _
        cases isBelow best.2 n <;> rfl

/-- The best so far is the first of those that stand highest among the candidates seen; without one,
all of them stand below all others. -/
def Leads (given : Value) (seen : List String) : Option (String × Value) → Prop
  | none => ∀ role ∈ seen, standing given role = ⊥
  | some (winner, x) =>
    seen.argmax (standing given) = some winner ∧ Measures (some x) (standing given winner)

section

variable {seen : List String} {best : Option (String × Value)} {role : String} {x : Value}

theorem Leads.argmax (leads : Leads given seen best) :
    (best.map (·.1)).orElse (fun _ => seen.head?) = seen.argmax (standing given) := by
  cases best with
  | none => exact (argmax_eq_head? leads).symm
  | some best => exact leads.1.symm

-- A candidate that stands below all others changes nothing.
theorem Leads.pass (leads : Leads given seen best) (low : standing given role = ⊥) :
    Leads given (seen ++ [role]) best := by
  cases best with
  | none =>
    intro other member
    rcases List.mem_append.mp member with before | last
    · exact leads other before
    · exact List.mem_singleton.mp last ▸ low
  | some best =>
    refine ⟨?_, leads.2⟩
    rw [List.argmax_concat, leads.1]
    simp [low]

theorem Leads.first (leads : Leads given seen none)
    (stands : Measures (some x) (standing given role)) :
    Leads given (seen ++ [role]) (some (role, x)) := by
  obtain ⟨n, _, stood⟩ := measures_some_iff.mp stands
  have high : standing given role = n := stood
  refine ⟨?_, stands⟩
  rw [List.argmax_concat]
  cases found : seen.argmax (standing given) with
  | none => rfl
  | some other =>
    have low : standing given other = ⊥ := leads other (List.argmax_mem found)
    simp [low, high]

-- Of two that stand equally high the one before stays.
theorem Leads.contest {winner : String} {y : Value} {m n : Int}
    (leads : Leads given seen (some (winner, y))) (bar : standing given winner = m)
    (stands : Measures (some x) (standing given role)) (high : standing given role = n) :
    Leads given (seen ++ [role]) (some (if m < n then (role, x) else (winner, y))) := by
  obtain ⟨found, measured⟩ := leads
  by_cases higher : m < n
  · rw [if_pos higher]
    refine ⟨?_, stands⟩
    rw [List.argmax_concat, found]
    simp [bar, high, higher]
  · rw [if_neg higher]
    refine ⟨?_, measured⟩
    rw [List.argmax_concat, found]
    simp [bar, high, higher]

end

theorem Leads.concat {seen : List String} {best : Option (String × Value)}
    (leads : Leads given seen best) (read : Priority.ofValue given = .ok priority)
    (whole : ∀ p, Priority.ofRecord? given = some p → p.IsWhole) (role : String) :
    ∃ next, better (fun role => measure priority (.text role)) best role = .ok next ∧
      Leads given (seen ++ [role]) next := by
  obtain ⟨measured, measures, stands⟩ := measure_standing read whole role
  rw [better, measures]
  cases measured with
  | none => exact ⟨best, rfl, leads.pass (measures_none_iff.mp stands)⟩
  | some x =>
    cases best with
    | none => exact ⟨_, rfl, leads.first stands⟩
    | some best =>
      obtain ⟨winner, y⟩ := best
      obtain ⟨n, number, high⟩ := measures_some_iff.mp stands
      obtain ⟨m, numbered, bar⟩ := measures_some_iff.mp leads.2
      have compared : isBelow y x = .ok (decide (m < n)) := by
        rw [isBelow, Value.isBelow?_of_whole numbered number]
      refine ⟨_, ?_, leads.contest bar stands high⟩
      show isBelow y x >>= _ = _
      rw [compared]
      by_cases higher : m < n <;> simp [higher]

theorem bestFrom_leads {seen : List String} {best : Option (String × Value)} (rest : List String)
    (read : Priority.ofValue given = .ok priority)
    (whole : ∀ p, Priority.ofRecord? given = some p → p.IsWhole)
    (leads : Leads given seen best) :
    ∃ last, bestFrom (fun role => measure priority (.text role)) best rest =
        .ok (last.map (·.1)) ∧ Leads given (seen ++ rest) last := by
  induction rest generalizing seen best with
  | nil => exact ⟨best, rfl, by simpa using leads⟩
  | cons role rest ih =>
    obtain ⟨next, step, ahead⟩ := leads.concat read whole role
    obtain ⟨last, run, leads⟩ := ih ahead
    refine ⟨last, ?_, by simpa using leads⟩
    rw [bestFrom_cons, step]
    exact run

theorem winner_eq_argmax (read : Priority.ofValue given = .ok priority)
    (whole : ∀ p, Priority.ofRecord? given = some p → p.IsWhole) (candidates : List String) :
    winner candidates priority = .ok (candidates.argmax (standing given)) := by
  have start : Leads given [] none := by simp [Leads]
  obtain ⟨last, run, leads⟩ := bestFrom_leads candidates read whole start
  rw [winner, run]
  exact congrArg Except.ok leads.argmax

end Role

/-- The role that is selected is the first of the caller's roles in the table that none of the
others in the table stands above; none is selected just if none is in the table. If one role alone
stands that high, it is selected whatever the order of the caller's roles. -/
theorem selected_role_stands_highest (table : RoleTable) (given : Value)
    (priority : Option Priority) (read : Priority.ofValue given = .ok priority)
    (whole : ∀ p, Priority.ofRecord? given = some p → p.IsWhole) (context : Context) :
    ((∀ u, context.user = some u → u.roles = []) → context.roles = ["public"]) ∧
    (∀ u, context.user = some u → u.roles ≠ [] → context.roles = u.roles) ∧
    ∃ found, (Resolver.mk table priority).role? context = .ok found ∧
      (found = none ↔ ∀ role ∈ context.roles, ¬table.has role) ∧
      (∀ winner, found = some winner ↔ table.has winner ∧ ∃ earlier later,
        context.roles = earlier ++ winner :: later ∧
          (∀ other ∈ earlier, table.has other →
            Role.standing given other < Role.standing given winner) ∧
          ∀ other ∈ later, table.has other →
            Role.standing given other ≤ Role.standing given winner) ∧
      ∀ winner, found = some winner →
        (∀ other ∈ context.roles, table.has other →
          Role.standing given other = Role.standing given winner → other = winner) →
        ∀ context' : Context, (∀ role, role ∈ context'.roles ↔ role ∈ context.roles) →
          (Resolver.mk table priority).role? context' = .ok (some winner) := by
  have selects : ∀ context, (Resolver.mk table priority).role? context =
      .ok ((context.roles.filter table.has).argmax (Role.standing given)) := by
    intro context
    exact Role.winner_eq_argmax read whole _
  refine ⟨?_, ?_, _, selects context, ?_, fun winner => argmax_filter_eq_some_iff, ?_⟩
  · intro roleless
    rw [Context.roles]
    cases user : context.user with
    | none => rfl
    | some u => simp [roleless u user, Context.standardRoles]
  · intro u user present
    rw [Context.roles, user]
    simp [present]
  · rw [List.argmax_eq_none, List.filter_eq_nil_iff]
  · intro winner found alone context' same
    rw [selects]
    obtain ⟨mine, highest, _⟩ := List.argmax_eq_some_iff.mp found
    have member : ∀ role, role ∈ context'.roles.filter table.has ↔
        role ∈ context.roles.filter table.has := by
      intro role
      rw [List.mem_filter, List.mem_filter, same]
    cases first : (context'.roles.filter table.has).argmax (Role.standing given) with
    | none =>
      have empty := List.argmax_eq_none.mp first
      rw [← member, empty] at mine
      cases mine
    | some other =>
      -- the two winners stand equally high, so the one that is alone there is both
      have among := (member other).mp (List.argmax_mem first)
      have above := List.le_of_mem_argmax ((member winner).mpr mine) first
      have level := le_antisymm (highest other among) above
      obtain ⟨asked, configured⟩ := List.mem_filter.mp among
      rw [alone other asked configured level]

theorem negative_rank_is_selected_before_number :
    let ranks : Dict := [(.text "editor", .int (-4)), (.text "admin", .int (-1)), (.text "9", .null)]
    let given : Value := .record .priority [("ranks", .dict ranks)]
    Priority.ofValue given = .ok (some ⟨.dict ranks⟩) ∧
      (∀ p, Priority.ofRecord? given = some p → p.IsWhole) ∧
      ∀ context : Context, (∀ role, role ∈ context.roles ↔ role ∈ ["9", "editor", "admin"]) →
        (Resolver.mk ⟨[("9", []), ("admin", []), ("editor", [])]⟩
          (some ⟨.dict ranks⟩)).role? context = .ok (some "admin") := by
  intro ranks given
  have whole : ∀ p, Priority.ofRecord? given = some p → p.IsWhole := by
    rintro p ⟨⟩
    refine ⟨ranks, rfl, fun entry member => ?_⟩
    simp only [ranks, List.mem_cons, List.not_mem_nil, or_false] at member
    rcases member with rfl | rfl | rfl
    · exact .inr ⟨-4, rfl⟩
    · exact .inr ⟨-1, rfl⟩
    · exact .inl rfl
  obtain ⟨_, _, found, _, _, wins, everywhere⟩ := selected_role_stands_highest
    ⟨[("9", []), ("admin", []), ("editor", [])]⟩ given _ rfl whole
    ⟨some ⟨.int 7, ["9", "editor", "admin", "9"], .null, []⟩, none⟩
  have admin := (wins "admin").mpr
    ⟨by decide, ["9", "editor"], ["9"], rfl, by decide +kernel, by decide +kernel⟩
  refine ⟨rfl, whole, fun context same => everywhere "admin" admin (by decide +kernel) context ?_⟩
  intro role
  rw [same]
  show role ∈ _ ↔ role ∈ ["9", "editor", "admin", "9"]
  simp only [List.mem_cons, List.not_mem_nil, or_false]
  tauto

end ScopedSql
