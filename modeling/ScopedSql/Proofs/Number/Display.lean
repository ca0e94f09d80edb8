import Mathlib
import ScopedSql.Value.Text

/-! The texts of numbers: one word each.

A displayed number has digits, and around them a sign, a point and an exponent at most; the numbers
without digits have names of letters. So there is nothing in it that a reader of words stops at.
-/

set_option autoImplicit false

namespace ScopedSql

def Numeral.isDisplayed (c : Char) : Bool :=
  c.isAlphanum || c = '.' || c = '+' || c = '-'

namespace Decimal

theorem isDigit_of_mem_digitsOf {n : Nat} {c : Char} (member : c ∈ digitsOf n) : c.isDigit :=
  Nat.isDigit_of_mem_toDigits (by decide) (by decide) member

theorem ofDigitChars_zeros {cs : List Char} (zeros : ∀ c ∈ cs, c = '0') :
    Nat.ofDigitChars 10 cs 0 = 0 := by
  induction cs with
  | nil => rfl
  | cons c cs ih =>
    obtain ⟨rfl, later⟩ := List.forall_mem_cons.mp zeros
    exact ih later

theorem digits_stripZeros_ne_nil {n : Nat} (positive : n ≠ 0) (point : Int) :
    (stripZeros ⟨digitsOf n, point⟩).digits ≠ [] := by
  intro none
  apply positive
  have zeros : ∀ c ∈ digitsOf n, c = '0' := by
    simpa [stripZeros] using none
  rw [← Nat.ofDigitChars_ten_toDigits (n := n)]
  exact ofDigitChars_zeros zeros

theorem mem_of_mem_stripZeros {x : Decimal} {c : Char} (member : c ∈ x.stripZeros.digits) :
    c ∈ x.digits := by
  rw [stripZeros, List.mem_reverse] at member
  exact List.mem_reverse.mp ((List.dropWhile_sublist _).mem member)

theorem not_readsBack_zero {mantissa : Nat} (positive : mantissa ≠ 0) (exponent place : Int) :
    ¬ readsBack mantissa exponent 0 place := by
  have low : 0 < (neighbourhood mantissa exponent).1 := by
    simp only [neighbourhood]
    split <;> omega
  have unit : 0 < Nat.pow 2 exponent.toNat * Nat.pow 10 (-place).toNat :=
    Nat.mul_pos (Nat.pow_pos (by decide)) (Nat.pow_pos (by decide))
  have above : ¬ (neighbourhood mantissa exponent).1 *
      (Nat.pow 2 exponent.toNat * Nat.pow 10 (-place).toNat) ≤ 0 :=
    Nat.not_le.mpr (Nat.mul_pos low unit)
  unfold readsBack
  simp only [Nat.mul_zero, Nat.zero_mul, above, decide_false, Bool.false_and, Nat.not_lt_zero]
  split <;> simp

theorem readsBack_of_hitAt {mantissa n : Nat} {exponent place : Int}
    (hit : hitAt mantissa exponent place = some n) : readsBack mantissa exponent n place := by
  have either : ∀ nearest other : Nat,
      (if readsBack mantissa exponent nearest place then some nearest
        else if readsBack mantissa exponent other place then some other else none) = some n →
      readsBack mantissa exponent n place := by
    intro nearest other hit
    split at hit
    · next back => rwa [← Option.some_inj.mp hit]
    · split at hit
      · next back => rwa [← Option.some_inj.mp hit]
      · cases hit
  exact either _ _ hit

theorem digits_firstHit {mantissa : Nat} (positive : mantissa ≠ 0) (exponent places : Int)
    (fuel count : Nat) :
    ∃ n point, n ≠ 0 ∧ firstHit mantissa exponent places fuel count = ⟨digitsOf n, point⟩ := by
  induction fuel generalizing count with
  | zero => exact ⟨mantissa, _, positive, rfl⟩
  | succ fuel ih =>
    simp only [firstHit]
    split
    · next n hit =>
      refine ⟨n, _, ?_, rfl⟩
      rintro rfl
      exact not_readsBack_zero positive _ _ (readsBack_of_hitAt hit)
    · exact ih (count + 1)

theorem digits_shortest {mantissa : Nat} (positive : mantissa ≠ 0) (exponent : Int) :
    (shortest mantissa exponent).digits ≠ [] ∧
      ∀ c ∈ (shortest mantissa exponent).digits, c.isDigit := by
  unfold shortest
  obtain ⟨n, point, some, hit⟩ := digits_firstHit positive exponent
    (integerPlaces (mantissa * Nat.pow 2 exponent.toNat) (Nat.pow 2 (-exponent).toNat)) 17 1
  simp only [hit]
  exact ⟨digits_stripZeros_ne_nil some point, fun c member =>
    isDigit_of_mem_digitsOf (mem_of_mem_stripZeros member)⟩

end Decimal

namespace DecimalStyle

open Numeral (isDisplayed)

theorem isDisplayed_of_isDigit {c : Char} (digit : c.isDigit) : isDisplayed c := by
  simp [isDisplayed, Char.isAlphanum, digit]

theorem displayed_exponentText (exponent : Int) :
    ∀ c ∈ exponentText exponent, isDisplayed c := by
  have digits : ∀ c ∈ Decimal.digitsOf exponent.natAbs, isDisplayed c := fun c member =>
    isDisplayed_of_isDigit (Decimal.isDigit_of_mem_digitsOf member)
  simp only [exponentText, List.forall_mem_cons]
  refine ⟨rfl, ?_, ?_⟩
  · split <;> rfl
  · split
    · exact List.forall_mem_cons.mpr ⟨rfl, digits⟩
    · exact digits

theorem layOut_ne_nil (style : DecimalStyle) {x : Decimal} (some : x.digits ≠ []) :
    style.layOut x ≠ [] := by
  unfold layOut
  obtain ⟨d, rest, digits⟩ := List.exists_cons_of_ne_nil some
  simp only [digits]
  split
  · cases rest <;> simp
  · split
    · simp
    · split <;> simp

theorem displayed_layOut (style : DecimalStyle) {x : Decimal}
    (digits : ∀ c ∈ x.digits, c.isDigit) : ∀ c ∈ style.layOut x, isDisplayed c := by
  have shown : ∀ c ∈ x.digits, isDisplayed c := fun c member =>
    isDisplayed_of_isDigit (digits c member)
  have zeros : ∀ n, ∀ c ∈ List.replicate n '0', isDisplayed c := by
    intro n c member
    rw [List.eq_of_mem_replicate member]
    rfl
  unfold layOut
  simp only
  split
  · -- an exponent behind one digit or a fraction
    split
    · simp
    · next d written =>
      rw [written] at shown
      exact List.forall_mem_cons.mpr ⟨shown d List.mem_cons_self, displayed_exponentText _⟩
    · next d rest _ written =>
      rw [written] at shown
      obtain ⟨first, later⟩ := List.forall_mem_cons.mp shown
      simp only [List.forall_mem_append, List.forall_mem_cons]
      exact ⟨⟨first, rfl, later⟩, displayed_exponentText _⟩
  · split
    · -- zeros between the point and the digits
      simp only [List.forall_mem_append, List.forall_mem_cons]
      exact ⟨⟨rfl, rfl, zeros _⟩, shown⟩
    · split
      · simp only [List.forall_mem_append]
        refine ⟨⟨shown, zeros _⟩, ?_⟩
        split <;> simp [isDisplayed]
      · simp only [List.forall_mem_append, List.forall_mem_cons]
        exact ⟨fun c member => shown c (List.mem_of_mem_take member), rfl,
          fun c member => shown c (List.mem_of_mem_drop member)⟩

end DecimalStyle

namespace Double

def magnitude (m : Nat) (e : Int) : List Char :=
  if m = 0 then ['0', '.', '0'] else DecimalStyle.layOut ⟨16, true⟩ (Decimal.shortest m e)

theorem displayed_magnitude (m : Nat) (e : Int) :
    magnitude m e ≠ [] ∧ ∀ c ∈ magnitude m e, Numeral.isDisplayed c := by
  unfold magnitude
  split
  · exact ⟨by simp, List.all_eq_true.mp rfl⟩
  · next positive =>
    obtain ⟨some, digits⟩ := Decimal.digits_shortest positive e
    exact ⟨DecimalStyle.layOut_ne_nil _ some, DecimalStyle.displayed_layOut _ digits⟩

theorem text_finite (s : Bool) (m : Nat) (e : Int) :
    (finite s m e).text =
      String.ofList (if s then '-' :: magnitude m e else magnitude m e) := rfl

/-- A displayed number is a word: it has characters, and only such as numbers may have. -/
theorem displayed_text (x : Double) :
    x.text ≠ "" ∧ ∀ c ∈ x.text.toList, Numeral.isDisplayed c := by
  cases x with
  | nan =>
    have text : nan.text = "nan" := rfl
    rw [text]
    exact ⟨by decide, List.all_eq_true.mp rfl⟩
  | infinite s =>
    have text : (infinite s).text = if s then "-inf" else "inf" := rfl
    rw [text]
    cases s <;> exact ⟨by decide, List.all_eq_true.mp rfl⟩
  | finite s m e =>
    obtain ⟨some, shown⟩ := displayed_magnitude m e
    rw [text_finite, String.toList_ofList]
    cases s with
    | true => exact ⟨by simp, List.forall_mem_cons.mpr ⟨rfl, shown⟩⟩
    | false => exact ⟨by simpa using some, shown⟩

end Double

theorem Numeral.displayed_repr (n : Nat) :
    Nat.repr n ≠ "" ∧ ∀ c ∈ (Nat.repr n).toList, isDisplayed c := by
  rw [ne_eq, ← String.toList_eq_nil_iff, Nat.toList_repr]
  exact ⟨Nat.toDigits_ne_nil, fun c member =>
    DecimalStyle.isDisplayed_of_isDigit (Decimal.isDigit_of_mem_digitsOf member)⟩

theorem Numeral.displayed_toString (n : Int) :
    toString n ≠ "" ∧ ∀ c ∈ (toString n).toList, isDisplayed c := by
  cases n with
  | ofNat n => exact displayed_repr n
  | negSucc n =>
    have text : toString (Int.negSucc n) = "-" ++ Nat.repr (n + 1) := rfl
    rw [text, String.toList_append]
    refine ⟨by simp, List.forall_mem_append.mpr ⟨?_, (displayed_repr (n + 1)).2⟩⟩
    exact List.all_eq_true.mp rfl

/-! ## Integers that are too long -/

theorem Numeral.isShort_iff {n : Int} : isShort n ↔ n.natAbs < 10 ^ digitLimit := by
  rw [isShort, decide_eq_true_iff, Nat.length_toDigits_le_iff (by decide) (by decide)]

theorem Numeral.isShort_limit : isShort (10 ^ digitLimit) = false := by
  rw [← Bool.not_eq_true, isShort_iff]
  simp [Int.natAbs_pow]

end ScopedSql
