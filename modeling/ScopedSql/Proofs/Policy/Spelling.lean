import ScopedSql.Policy.Resolver
import ScopedSql.Proofs.Number.Spelling
import ScopedSql.Proofs.Policy.Bounds

/-! Integers that callers put in as texts.

A text that spells an integer counts as the double nearest to the integer, while the integer itself
is never rounded. So a spelling counts as its integer just if a double holds it, alone or in a list.
-/

set_option autoImplicit false

namespace ScopedSql

namespace Input

/-- The same input, or the spelling of an integer and what the integer comes to as a double. -/
inductive CountsAs : Value → Value → Prop where
  | same (x : Value) : CountsAs x x
  | spelled {s : String} {n : Int} (spelled : Numeral.Spells s n) :
    CountsAs (.text s) (Number.rounded n).toValue

theorem readNumber_toValue (field : String) (n : Number) : readNumber field n.toValue = .ok n := by
  cases n <;> rfl

theorem readNumber_spelled {s : String} {n : Int} (spelled : Numeral.Spells s n) (field : String) :
    readNumber field (.text s) = .ok (.rounded n) := by
  obtain ⟨negative, same, read⟩ := Numeral.readDouble_spelled spelled
  have text : (Value.text s).plain = s := rfl
  rw [← Double.ofDouble_ofRatio same]
  generalize Double.ofRatio negative n.natAbs 1 = y at read ⊢
  simp only [readNumber, text, read, Number.ofDouble]
  cases y.isIntegral <;> cases y.truncate? <;> rfl

theorem CountsAs.readNumber {x y : Value} (counts : CountsAs x y) (field : String) :
    readNumber field x = Input.readNumber field y := by
  cases counts with
  | same x => rfl
  | spelled spelled => rw [readNumber_spelled spelled, readNumber_toValue]

variable {condition : Condition} {c : Constraint} {x y : Value}

-- An input that is no list is checked by the number that is read from it.
theorem check_alone (constrained : condition.constraint = some c) (numeric : c.kind = .number)
    (single : ∀ xs, x ≠ .list xs) :
    check condition x = readNumber condition.field x >>= fun n =>
      (checkBounds condition.field c n).map fun _ => n.toValue := by
  simp only [check, constrained, numeric, listed_single single, List.mapM_cons, List.mapM_nil]
  cases readNumber condition.field x with
  | error fault => rfl
  | ok n =>
    show ([n].forM (checkBounds condition.field c) >>= fun _ =>
      Except.ok (shaped x [n.toValue])) = (checkBounds condition.field c n).map fun _ => n.toValue
    have bounds : [n].forM (checkBounds condition.field c) =
      checkBounds condition.field c n >>= fun _ => .ok () := rfl
    rw [shaped_singleton single, bounds]
    cases checkBounds condition.field c n <;> rfl

theorem check_spelled (constrained : condition.constraint = some c) (numeric : c.kind = .number)
    {s : String} {n : Int} (spelled : Numeral.Spells s n) :
    check condition (.text s) = check condition (Number.rounded n).toValue := by
  have single : ∀ xs, (Number.rounded n).toValue ≠ .list xs := by
    intro xs
    cases Number.rounded n <;> exact Value.noConfusion
  rw [check_alone constrained numeric (by simp), check_alone constrained numeric single,
    readNumber_spelled spelled, readNumber_toValue]

theorem check_list (constrained : condition.constraint = some c) (numeric : c.kind = .number)
    {xs ys : List Value} (counts : List.Forall₂ CountsAs xs ys) :
    check condition (.list xs) = check condition (.list ys) := by
  have read : xs.mapM (readNumber condition.field) = ys.mapM (readNumber condition.field) := by
    induction counts with
    | nil => rfl
    | cons head _ ih => rw [List.mapM_cons, List.mapM_cons, head.readNumber, ih]
  simp only [check, constrained, numeric, listed, read]
  rfl

-- An integer that is accepted is kept, so its spelling gives another result if it is rounded.
theorem check_spelled_eq_iff (constrained : condition.constraint = some c)
    (numeric : c.kind = .number) {s : String} {n : Int} (spelled : Numeral.Spells s n)
    (accepted : check condition (.int n) = .ok y) :
    check condition (.text s) = .ok y ↔ Double.Holds n := by
  constructor
  · intro kept
    have plain : readNumber condition.field (.int n) = .ok (.int n) := rfl
    rw [check_alone constrained numeric (by simp), plain] at accepted
    obtain ⟨_, _, rfl⟩ := Except.map_eq_ok.mp accepted
    rw [check_alone constrained numeric (by simp), readNumber_spelled spelled] at kept
    obtain ⟨_, _, same⟩ := Except.map_eq_ok.mp kept
    exact Double.rounded_eq_iff_holds.mp (Number.toValue_injective same)
  · intro held
    rw [check_spelled constrained numeric spelled, Double.rounded_eq_iff_holds.mpr held]
    exact accepted

end Input

theorem Policy.inputFilter_congr {condition : Condition} {x y : Value}
    (same : Input.check condition x = Input.check condition y) :
    inputFilter condition x = inputFilter condition y := by
  rw [inputFilter, inputFilter, same]

/-- The spelling of an integer counts as the number that the integer comes to as a double: as the
integer itself if a double holds it, and as another number than the integer if none does. The filter
has the value that it counts as, and in a list each element counts by itself. -/
theorem spelled_integer_counts_as_itself_iff (condition : Condition) (c : Constraint)
    (constrained : condition.constraint = some c) (numeric : c.kind = .number) :
    (∀ (n : Int) (s : String), Numeral.Spells s n →
      Input.check condition (.text s) = Input.check condition (Number.rounded n).toValue ∧
      Policy.inputFilter condition (.text s) =
        Policy.inputFilter condition (Number.rounded n).toValue ∧
      ((Number.rounded n).toValue = .int n ↔ Double.Holds n) ∧
      ∀ y, Input.check condition (.int n) = .ok y →
        (Input.check condition (.text s) = .ok y ↔ Double.Holds n)) ∧
    ∀ xs ys, List.Forall₂ Input.CountsAs xs ys →
      Input.check condition (.list xs) = Input.check condition (.list ys) ∧
      Policy.inputFilter condition (.list xs) = Policy.inputFilter condition (.list ys) := by
  refine ⟨fun n s spelled => ?_, fun xs ys counts => ?_⟩
  · have same := Input.check_spelled constrained numeric spelled
    refine ⟨same, Policy.inputFilter_congr same, ?_, fun y accepted => ?_⟩
    · rw [← Double.rounded_eq_iff_holds]
      exact Number.toValue_injective.eq_iff (b := .int n)
    · exact Input.check_spelled_eq_iff constrained numeric spelled accepted
  · have same := Input.check_list constrained numeric counts
    exact ⟨same, Policy.inputFilter_congr same⟩

/-- A padded spelling beyond `2^53` that a double holds, by itself and in a list. -/
theorem even_id_counts_as_itself :
    let id : Condition := ⟨"id", .eq, .null, true, some ⟨.number, some (.ofInt 1), none, none⟩⟩
    Numeral.Spells " +009007199254740994\n" 9007199254740994 ∧
      Input.check id (.text " +009007199254740994\n") = .ok (.int 9007199254740994) ∧
      Input.check id (.list [.text " +009007199254740994\n", .int 7]) =
        .ok (.list [.int 9007199254740994, .int 7]) := by
  intro id
  have spelled : Numeral.Spells " +009007199254740994\n" 9007199254740994 :=
    ⟨false, [' '], ['+'], ['\n'], 2, .plus, rfl, by simp [Text.isBlank, Text.isPlainBlank], by decide +kernel⟩
  have held : Double.Holds 9007199254740994 :=
    ⟨2 ^ 52 + 1, 1, by norm_num, by norm_num, by norm_num⟩
  obtain ⟨alone, listed⟩ := spelled_integer_counts_as_itself_iff id _ rfl rfl
  obtain ⟨same, _, kept, _⟩ := alone _ _ spelled
  have counts : Input.CountsAs (.text " +009007199254740994\n") (.int 9007199254740994) :=
    kept.mpr held ▸ .spelled spelled
  refine ⟨spelled, ?_, ?_⟩
  · rw [same, kept.mpr held]
    rfl
  · rw [(listed _ _ (.cons counts (.cons (.same (.int 7)) .nil))).1]
    rfl

theorem odd_id_is_taken_for_neighbour :
    let id : Condition := ⟨"id", .eq, .null, true, some ⟨.number, none, none, none⟩⟩
    Numeral.Spells "9007199254740993" 9007199254740993 ∧
      Input.check id (.int 9007199254740993) = .ok (.int 9007199254740993) ∧
      Input.check id (.text "9007199254740993") = .ok (.int 9007199254740992) :=
  ⟨⟨false, [], [], [], 0, .none, rfl, by simp, by decide +kernel⟩, rfl, rfl⟩

end ScopedSql
