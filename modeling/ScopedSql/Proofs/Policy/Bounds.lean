import ScopedSql.Policy.Input
import ScopedSql.Proofs.Number.Amount
import ScopedSql.Proofs.Outcome

/-! The bounds of numbers that callers put in.

A number is refused where it is below the least or above the greatest one, so every number that is
accepted keeps the bounds, except for a nan: it is neither below nor above anything, and so is
accepted within any bounds.
-/

set_option autoImplicit false

namespace ScopedSql

namespace Number

/-- Both numbers amount to something, the first to no more than the second. -/
def IsAtMost (x y : Number) : Prop :=
  ∃ a b, x.amount? = some a ∧ y.amount? = some b ∧ a ≤ b

structure Within (x : Number) (c : Constraint) : Prop where
  least : ∀ low, c.min = some low → (double low).IsAtMost x
  most : ∀ high, c.max = some high → x.IsAtMost (double high)

theorem toValue_injective : Function.Injective toValue := by
  intro x y same
  cases x <;> cases y <;> cases same <;> rfl

theorem ordinary_bound {bound : Option Double} (ordinary : bound ≠ some .nan) {b : Double}
    (given : bound = some b) : double b ≠ double .nan := by
  intro same
  cases same
  exact ordinary given

theorem isAtMost_iff {x y : Number} (ordinary : x ≠ double .nan) (ordinary' : y ≠ double .nan) :
    x.IsAtMost y ↔ y.isBelow x = false := by
  obtain ⟨a, first⟩ := Option.ne_none_iff_exists'.mp (mt amount?_eq_none_iff.mp ordinary)
  obtain ⟨b, second⟩ := Option.ne_none_iff_exists'.mp (mt amount?_eq_none_iff.mp ordinary')
  rw [← Bool.not_eq_true, isBelow_iff]
  simp [IsAtMost, first, second]

theorem not_isAtMost_nan (x : Number) : ¬ x.IsAtMost (double .nan) := by
  rintro ⟨_, _, _, nothing, _⟩
  cases nothing

theorem not_nan_isAtMost (x : Number) : ¬ (double .nan).IsAtMost x := by
  rintro ⟨_, _, nothing, _⟩
  cases nothing

-- A bound that is given asks for an amount.
theorem nan_within_iff {c : Constraint} :
    (double .nan).Within c ↔ c.min = none ∧ c.max = none := by
  constructor
  · rintro ⟨least, most⟩
    exact ⟨Option.eq_none_iff_forall_ne_some.mpr fun low given =>
        not_isAtMost_nan _ (least low given),
      Option.eq_none_iff_forall_ne_some.mpr fun high given =>
        not_nan_isAtMost _ (most high given)⟩
  · rintro ⟨unbounded, unbounded'⟩
    exact ⟨by simp [unbounded], by simp [unbounded']⟩

theorem isBelow_nan (x : Number) : x.isBelow (double .nan) = false := by
  rw [← Bool.not_eq_true, isBelow_iff]
  rintro ⟨_, _, _, nothing, _⟩
  cases nothing

theorem nan_isBelow (x : Number) : (double .nan).isBelow x = false := by
  rw [← Bool.not_eq_true, isBelow_iff]
  rintro ⟨_, _, nothing, _⟩
  cases nothing

end Number

namespace Input

variable {condition : Condition} {c : Constraint}

theorem checkBounds_eq_ok {field : String} {x : Number} :
    checkBounds field c x = .ok () ↔
      (∀ low, c.min = some low → x.isBelow (.double low) = false) ∧
      ∀ high, c.max = some high → (Number.double high).isBelow x = false := by
  have refuses : ∀ (p : Bool) (fault : Fault),
      (if p then throw fault else pure () : Except Fault Unit) = .ok () ↔ p = false := by
    intro p fault
    cases p with
    | true => simp [throw, throwThe, MonadExceptOf.throw]
    | false => simp [Except.pure_eq_ok]
  unfold checkBounds
  cases c.min with
  | none =>
    cases c.max with
    | none => simp [Except.pure_eq_ok]
    | some high => simp [refuses]
  | some low =>
    cases below : x.isBelow (.double low) with
    | true => simp [below, throw, throwThe, MonadExceptOf.throw, Except.bind_eq_ok]
    | false =>
      cases c.max with
      | none => simp [below, Except.pure_eq_ok]
      | some high => simp [below, refuses]

theorem checkBounds_iff_within (least : c.min ≠ some .nan) (most : c.max ≠ some .nan)
    {field : String} {x : Number} :
    checkBounds field c x = .ok () ↔ (x ≠ .double .nan → x.Within c) := by
  rw [checkBounds_eq_ok]
  by_cases nan : x = .double .nan
  · subst nan
    simp [Number.isBelow_nan, Number.nan_isBelow]
  · constructor
    · rintro ⟨notBelow, notAbove⟩ _
      exact ⟨fun low given =>
          (Number.isAtMost_iff (Number.ordinary_bound least given) nan).mpr (notBelow low given),
        fun high given =>
          (Number.isAtMost_iff nan (Number.ordinary_bound most given)).mpr (notAbove high given)⟩
    · intro within
      obtain ⟨least', most'⟩ := within nan
      exact ⟨fun low given =>
          (Number.isAtMost_iff (Number.ordinary_bound least given) nan).mp (least' low given),
        fun high given =>
          (Number.isAtMost_iff nan (Number.ordinary_bound most given)).mp (most' high given)⟩

theorem check_number (constrained : condition.constraint = some c) (numeric : c.kind = .number)
    {x y : Value} :
    check condition x = .ok y ↔ ∃ numbers,
      (listed x).mapM (readNumber condition.field) = .ok numbers ∧
      (∀ n ∈ numbers, checkBounds condition.field c n = .ok ()) ∧
      shaped x (numbers.map Number.toValue) = y := by
  simp only [check, constrained, numeric, Except.bind_eq_ok, Except.pure_eq_ok]
  constructor
  · rintro ⟨numbers, read, _, kept, shown⟩
    exact ⟨numbers, read, Except.forM_eq_ok.mp kept, shown⟩
  · rintro ⟨numbers, read, kept, shown⟩
    exact ⟨numbers, read, (), Except.forM_eq_ok.mpr kept, shown⟩

-- An input that is no list has one number.
theorem shaped_singleton {x : Value} (single : ∀ xs, x ≠ .list xs) (n : Number) :
    shaped x [n.toValue] = n.toValue := by
  cases x with
  | list xs => exact absurd rfl (single xs)
  | _ => rfl

theorem listed_number (n : Number) : listed n.toValue = [n.toValue] := by
  cases n <;> rfl

theorem listed_single {x : Value} (single : ∀ xs, x ≠ .list xs) : listed x = [x] := by
  cases x with
  | list xs => exact absurd rfl (single xs)
  | _ => rfl

theorem listed_shaped {x : Value} {field : String} {numbers : List Number}
    (read : (listed x).mapM (readNumber field) = .ok numbers) :
    listed (shaped x (numbers.map Number.toValue)) = numbers.map Number.toValue := by
  by_cases several : ∃ xs, x = .list xs
  · obtain ⟨xs, rfl⟩ := several
    rfl
  · have single : ∀ xs, x ≠ .list xs := fun xs same => several ⟨xs, same⟩
    rw [listed_single single, Except.mapM_eq_ok] at read
    obtain _ | ⟨_, _ | _⟩ := read
    rw [List.map_singleton, shaped_singleton single, listed_number]

end Input

/-- A number for a bounded condition is accepted just if it keeps the bounds or is a nan, and of the
numbers that are returned for an input those keep the bounds that are not nans. So all of them do
just if none is a nan or nothing is bounded. -/
theorem accepted_numbers_keep_bounds_iff (condition : Condition) (c : Constraint)
    (constrained : condition.constraint = some c) (numeric : c.kind = .number)
    (least : c.min ≠ some .nan) (most : c.max ≠ some .nan) (x : Value) :
    (∀ y, Input.check condition x = .ok y ↔ ∃ numbers,
      (Input.listed x).mapM (Input.readNumber condition.field) = .ok numbers ∧
      (∀ n ∈ numbers, n ≠ .double .nan → n.Within c) ∧
      Input.shaped x (numbers.map Number.toValue) = y) ∧
    ∀ y, Input.check condition x = .ok y → ∃ numbers : List Number,
      Input.listed y = numbers.map Number.toValue ∧
      ∀ n ∈ numbers, n.Within c ↔ n ≠ .double .nan ∨ c.min = none ∧ c.max = none := by
  have accepts : ∀ y, Input.check condition x = .ok y ↔ ∃ numbers,
      (Input.listed x).mapM (Input.readNumber condition.field) = .ok numbers ∧
      (∀ n ∈ numbers, n ≠ .double .nan → n.Within c) ∧
      Input.shaped x (numbers.map Number.toValue) = y := by
    intro y
    simp only [Input.check_number constrained numeric, Input.checkBounds_iff_within least most]
  refine ⟨accepts, fun y accepted => ?_⟩
  obtain ⟨numbers, read, kept, rfl⟩ := (accepts y).mp accepted
  refine ⟨numbers, Input.listed_shaped read, fun n member => ?_⟩
  by_cases nan : n = .double .nan
  · rw [nan, Number.nan_within_iff]
    simp
  · exact iff_of_true (kept n member nan) (.inl nan)

theorem levels_beside_nan_keep_bounds :
    let c : Constraint := ⟨.number, some (.ofInt 1), some (.ofInt 5), none⟩
    let level : Condition := ⟨"level", .lte, .int 3, true, some c⟩
    c.min ≠ some .nan ∧ c.max ≠ some .nan ∧
      Input.check level (.list [.text " 4 ", .int 5, .text "NaN"]) =
        .ok (.list [.int 4, .int 5, .double .nan]) ∧
      (Number.int 4).Within c ∧ (Number.int 5).Within c ∧ ¬ (Number.double .nan).Within c := by
  intro c level
  have least : c.min ≠ some .nan := by decide +kernel
  have most : c.max ≠ some .nan := by decide +kernel
  have accepted : Input.check level (.list [.text " 4 ", .int 5, .text "NaN"]) =
      .ok (.list [.int 4, .int 5, .double .nan]) := by
    rfl
  obtain ⟨numbers, shown, kept⟩ := (accepted_numbers_keep_bounds_iff level c rfl rfl least most
    (.list [.text " 4 ", .int 5, .text "NaN"])).2 _ accepted
  obtain rfl : [.int 4, .int 5, .double .nan] = numbers :=
    List.map_injective_iff.mpr Number.toValue_injective shown
  refine ⟨least, most, accepted, ?_, ?_, ?_⟩
  · exact (kept (.int 4) (by simp)).mpr (.inl (by simp))
  · exact (kept (.int 5) (by simp)).mpr (.inl (by simp))
  · intro within
    rcases (kept (.double .nan) (by simp)).mp within with ordinary | ⟨unbounded, _⟩
    · exact ordinary rfl
    · cases unbounded

theorem nan_is_accepted_as_level :
    let c : Constraint := ⟨.number, some (.ofInt 1), some (.ofInt 5), none⟩
    Input.check ⟨"level", .lte, .int 3, true, some c⟩ (.text "nan") = .ok (.double .nan) ∧
      ¬ (Number.double (.ofInt 1)).IsAtMost (.double .nan) ∧
      ¬ (Number.double .nan).IsAtMost (.double (.ofInt 5)) :=
  ⟨rfl, Number.not_isAtMost_nan _, Number.not_nan_isAtMost _⟩

end ScopedSql
