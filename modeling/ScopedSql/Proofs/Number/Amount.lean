import Mathlib
import ScopedSql.Value.Compare

/-! What numbers amount to.

A number that is not a nan stands for a rational or an infinity, and two numbers are compared by
what they stand for, whatever their form and size. A nan amounts to nothing and is neither below nor
above any number.
-/

set_option autoImplicit false

namespace ScopedSql

abbrev Amount := WithBot (WithTop ℚ)

namespace Amount

def ofRational (q : ℚ) : Amount := ((q : WithTop ℚ) : WithBot (WithTop ℚ))

theorem ofRational_strictMono : StrictMono ofRational :=
  WithBot.coe_strictMono.comp WithTop.coe_strictMono

theorem bot_lt_ofRational (q : ℚ) : ⊥ < ofRational q := WithBot.bot_lt_coe _

theorem ofRational_lt_top (q : ℚ) : ofRational q < ⊤ :=
  WithBot.coe_lt_coe.mpr (WithTop.coe_lt_top q)

theorem compare_int (m n : Int) : compare m n = cmp (ofRational m) (ofRational n) := by
  have scale : StrictMono fun k : ℤ => ofRational k :=
    ofRational_strictMono.comp Int.cast_strictMono
  rw [scale.cmp_map_eq, cmp_eq_compare]

end Amount

namespace Double

/-- The rational `±m · 2^e`. -/
def rational (negative : Bool) (mantissa : Nat) (exponent : Int) : ℚ :=
  (if negative then -1 else 1) * mantissa * 2 ^ exponent

def amount? : Double → Option Amount
  | nan => none
  | infinite negative => some (if negative then ⊥ else ⊤)
  | finite s m e => some (.ofRational (rational s m e))

theorem amount?_eq_none_iff {x : Double} : x.amount? = none ↔ x = nan := by
  cases x <;> simp [amount?]

theorem rational_eq_scaled {low exponent : Int} (least : low ≤ exponent) (negative : Bool)
    (mantissa : Nat) :
    rational negative mantissa exponent = scaled low negative mantissa exponent * 2 ^ low := by
  have power : (2 : ℚ) ^ exponent = 2 ^ (exponent - low).toNat * 2 ^ low := by
    rw [← zpow_natCast, Int.toNat_of_nonneg (by omega), ← zpow_add₀ two_ne_zero]
    congr 1
    omega
  cases negative <;> simp [rational, scaled, power, mul_assoc]

-- Both sides are multiples of one power of two.
theorem compare_scaled (s t : Bool) (m n : Nat) (e f : Int) :
    compare (scaled (min e f) s m e) (scaled (min e f) t n f) =
      cmp (Amount.ofRational (rational s m e)) (.ofRational (rational t n f)) := by
  have scale : StrictMono fun k : ℤ => Amount.ofRational (k * 2 ^ min e f) := by
    refine Amount.ofRational_strictMono.comp fun j k below => ?_
    exact mul_lt_mul_of_pos_right (by exact_mod_cast below) (by positivity)
  rw [rational_eq_scaled (min_le_left e f), rational_eq_scaled (min_le_right e f),
    scale.cmp_map_eq, cmp_eq_compare]

theorem compare?_eq (x y : Double) :
    x.compare? y = do return cmp (← x.amount?) (← y.amount?) := by
  cases x with
  | nan => rfl
  | infinite s =>
    cases y with
    | nan => rfl
    | infinite t => cases s <;> cases t <;> decide
    | finite t n f =>
      have below := (cmp_eq_lt_iff _ _).mpr (Amount.bot_lt_ofRational (rational t n f))
      have above := (cmp_eq_gt_iff _ _).mpr (Amount.ofRational_lt_top (rational t n f))
      cases s <;> simp [compare?, amount?, below, above]
  | finite s m e =>
    cases y with
    | nan => rfl
    | infinite t =>
      have above := (cmp_eq_gt_iff _ _).mpr (Amount.bot_lt_ofRational (rational s m e))
      have below := (cmp_eq_lt_iff _ _).mpr (Amount.ofRational_lt_top (rational s m e))
      cases t <;> simp [compare?, amount?, below, above]
    | finite t n f => exact congrArg some (compare_scaled s t m n e f)

theorem compareInt?_eq (x : Double) (n : Int) :
    x.compareInt? n = do return cmp (← x.amount?) (.ofRational n) := by
  have whole : rational (n < 0) n.natAbs 0 = n := by
    rcases lt_or_ge n 0 with negative | natural
    · simp [rational, negative, abs_of_neg]
    · simp [rational, not_lt.mpr natural, abs_of_nonneg natural]
  rw [compareInt?, compare?_eq, ← whole]
  rfl

theorem truncate?_of_amount? {x : Double} {n : Int} (whole : x.amount? = some (.ofRational n)) :
    x.truncate? = some n := by
  cases x with
  | nan => cases whole
  | infinite negative =>
    have finite := Option.some.inj whole
    cases negative
    · exact absurd finite (Amount.ofRational_lt_top n).ne'
    · exact absurd finite (Amount.bot_lt_ofRational n).ne
  | finite s m e =>
    have amount : rational s m e = n :=
      Amount.ofRational_strictMono.injective (Option.some.inj whole)
    -- Both sides are multiples of the power of two that clears the fraction.
    have scale : scaled (min e 0) s m e = n * 2 ^ (-e).toNat := by
      have power : (2 : ℚ) ^ min e 0 * 2 ^ (-e).toNat = 1 := by
        rw [← zpow_natCast, ← zpow_add₀ two_ne_zero]
        have cancel : min e 0 + ((-e).toNat : Int) = 0 := by omega
        rw [cancel, zpow_zero]
      rw [rational_eq_scaled (min_le_left e 0)] at amount
      have cleared := congrArg (· * (2 : ℚ) ^ (-e).toNat) amount
      simp only [mul_assoc, power, mul_one] at cleared
      exact_mod_cast cleared
    have raised : (e - min e 0).toNat = e.toNat := by omega
    simp only [scaled, raised] at scale
    have positive : (2 : Int) ^ (-e).toNat ≠ 0 := by positivity
    cases s with
    | false =>
      have magnitude : ((m * 2 ^ e.toNat / 2 ^ (-e).toNat : Nat) : Int) = n := by
        push_cast
        exact Int.ediv_eq_of_eq_mul_left positive scale
      exact congrArg some magnitude
    | true =>
      have magnitude : ((m * 2 ^ e.toNat / 2 ^ (-e).toNat : Nat) : Int) = -n := by
        push_cast
        exact Int.ediv_eq_of_eq_mul_left positive (by rw [neg_mul, ← scale]; exact (neg_neg _).symm)
      exact congrArg some (show -((m * 2 ^ e.toNat / 2 ^ (-e).toNat : Nat) : Int) = n by omega)

end Double

namespace Number

def amount? : Number → Option Amount
  | int n => some (.ofRational n)
  | double x => x.amount?

theorem amount?_eq_none_iff {x : Number} : x.amount? = none ↔ x = double .nan := by
  cases x <;> simp [amount?, Double.amount?_eq_none_iff]

theorem compare?_eq (x y : Number) :
    x.compare? y = do return cmp (← x.amount?) (← y.amount?) := by
  cases x with
  | int m =>
    cases y with
    | int n => exact congrArg some (Amount.compare_int m n)
    | double y =>
      rw [compare?, Double.compareInt?_eq, amount?, amount?]
      cases y.amount? with
      | none => rfl
      | some b => exact congrArg some (cmp_swap b _)
  | double x =>
    cases y with
    | int n => exact x.compareInt?_eq n
    | double y => exact x.compare?_eq y

/-- A number is below another one if both amount to something, the one to less. -/
theorem isBelow_iff {x y : Number} :
    x.isBelow y ↔ ∃ a b, x.amount? = some a ∧ y.amount? = some b ∧ a < b := by
  rw [isBelow, compare?_eq, decide_eq_true_iff]
  cases x.amount? with
  | none => simp
  | some a =>
    cases y.amount? with
    | none => simp
    | some b => simp

theorem isEqual_int_iff {n : Int} {x : Number} :
    (int n).isEqual x ↔ x.amount? = some (.ofRational n) := by
  rw [isEqual, compare?_eq, decide_eq_true_iff]
  cases x.amount? with
  | none => simp
  | some a =>
    show some (cmp (.ofRational n) a) = some .eq ↔ _
    rw [Option.some.injEq, Option.some.injEq, cmp_eq_eq_iff, eq_comm]

end Number

end ScopedSql
