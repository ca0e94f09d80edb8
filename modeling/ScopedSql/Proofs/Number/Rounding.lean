import Mathlib
import ScopedSql.Value.Compare

/-! Integers of double precision.

A double holds the integers of up to 53 binary digits and those that have only zeros behind their
first 53, as far as its range goes. Reading an integer as a double keeps what is held and rounds all
else to an integer that is held or to an infinity.
-/

set_option autoImplicit false

namespace ScopedSql

def Double.signed (negative : Bool) (magnitude : Nat) : Int :=
  if negative then -(magnitude : Int) else magnitude

namespace Double

/-- The integer is a multiple of a power of two by less than `2^53`, and not too large. -/
def Holds (n : Int) : Prop :=
  ∃ m k : Nat, n.natAbs = m * 2 ^ k ∧ m < 2 ^ 53 ∧ k ≤ 971

theorem holds_of_lt {n : Int} (small : n.natAbs < 2 ^ 53) : Holds n :=
  ⟨n.natAbs, 0, by simp, small, by simp⟩

theorem roundDiv_of_dvd {num den : Nat} (positive : 0 < den) (divides : den ∣ num) :
    roundDiv num den = num / den := by
  have exact : num % den = 0 := Nat.mod_eq_zero_of_dvd divides
  simp [roundDiv, exact, positive]

theorem roundDiv_le (num den : Nat) : roundDiv num den ≤ num / den + 1 := by
  dsimp only [roundDiv]
  split <;> omega

theorem floorLog2_one {n : Nat} (positive : n ≠ 0) : floorLog2 n 1 = n.log2 := by
  have below : 1 * Nat.pow 2 n.log2 ≤ n * Nat.pow 2 0 := by
    simpa using Nat.log2_self_le positive
  have one : (1 : Nat).log2 = 0 := by decide
  have guess : (n.log2 : Int) - ((1 : Nat).log2 : Int) = n.log2 := by rw [one]; omega
  rw [floorLog2, guess, Int.toNat_natCast, Int.toNat_neg_natCast, if_pos below]

/-- The mantissa of an integer has 53 digits: the integer with zeros behind it, or rounded. -/
theorem ofRatio_one (negative : Bool) {n : Nat} (positive : n ≠ 0) :
    ofRatio negative n 1 = ofMantissa negative
      (roundDiv (n * 2 ^ (52 - n.log2)) (2 ^ (n.log2 - 52))) ((n.log2 : Int) - 52) := by
  have exponent : max ((n.log2 : Int) - 52) (-1074) = n.log2 - 52 := by omega
  have raised : (-((n.log2 : Int) - 52)).toNat = 52 - n.log2 := by omega
  have lowered : ((n.log2 : Int) - 52).toNat = n.log2 - 52 := by omega
  rw [ofRatio, if_neg (by simp [positive])]
  simp only [floorLog2_one positive, exponent, raised, lowered, Nat.pow_eq, one_mul]

end Double

namespace Number

def ofDouble (x : Double) : Number :=
  match x.isIntegral, x.truncate? with
  | true, some n => .int n
  | _, _ => .double x

def rounded (n : Int) : Number :=
  ofDouble (.ofInt n)

theorem ofDouble_raised (negative : Bool) (m k : Nat) :
    ofDouble (.finite negative m k) = .int (Double.signed negative (m * 2 ^ k)) := by
  simp [ofDouble, Double.isIntegral, Double.truncate?, Double.signed, Nat.mod_one]

theorem ofDouble_lowered (negative : Bool) (n k : Nat) :
    ofDouble (.finite negative (n * 2 ^ k) (-(k : Int))) = .int (Double.signed negative n) := by
  simp [ofDouble, Double.isIntegral, Double.truncate?, Double.signed]

theorem ofDouble_zero (negative : Bool) :
    ofDouble (.finite negative 0 (-1074)) = .int 0 := by
  have lowered := ofDouble_lowered negative 0 1074
  rw [Nat.zero_mul] at lowered
  cases negative <;> exact lowered

end Number

namespace Double

open Number

variable {n : Nat}

theorem ofDouble_of_short (negative : Bool) (positive : n ≠ 0) (short : n.log2 ≤ 52) :
    ofDouble (ofRatio negative n 1) = .int (signed negative n) := by
  have below : n * 2 ^ (52 - n.log2) < 2 ^ 53 := by
    calc
      n * 2 ^ (52 - n.log2) < 2 ^ (n.log2 + 1) * 2 ^ (52 - n.log2) :=
        Nat.mul_lt_mul_of_pos_right Nat.lt_log2_self (by positivity)
      _ = 2 ^ 53 := by rw [← pow_add]; congr 1; omega
  have mantissa : roundDiv (n * 2 ^ (52 - n.log2)) (2 ^ (n.log2 - 52)) =
      n * 2 ^ (52 - n.log2) := by
    rw [Nat.sub_eq_zero_of_le short, pow_zero, roundDiv_of_dvd one_pos (one_dvd _), Nat.div_one]
  have exponent : (n.log2 : Int) - 52 = -((52 - n.log2 : Nat) : Int) := by omega
  have range : ¬ 971 < -((52 - n.log2 : Nat) : Int) := by omega
  rw [ofRatio_one negative positive, mantissa, exponent, ofMantissa, Nat.pow_eq,
    if_neg (ne_of_lt below)]
  simp only [if_neg range]
  exact ofDouble_lowered negative n _

theorem div_lt_of_long (long : 52 < n.log2) : n / 2 ^ (n.log2 - 52) < 2 ^ 53 := by
  rw [Nat.div_lt_iff_lt_mul (by positivity), ← pow_add]
  have digits : 53 + (n.log2 - 52) = n.log2 + 1 := by omega
  exact digits ▸ Nat.lt_log2_self

theorem ofRatio_of_long (negative : Bool) (long : 52 < n.log2) :
    ofRatio negative n 1 = ofMantissa negative (roundDiv n (2 ^ (n.log2 - 52)))
      (n.log2 - 52 : Nat) := by
  have positive : n ≠ 0 := by
    rintro rfl
    simp at long
  have exponent : (n.log2 : Int) - 52 = (n.log2 - 52 : Nat) := by omega
  rw [ofRatio_one negative positive, Nat.sub_eq_zero_of_le long.le, pow_zero, mul_one, exponent]

-- The power of two in an integer that is held covers all digits behind the first 53.
theorem Holds.lowered (held : Holds n) (long : 52 < n.log2) :
    n.log2 - 52 ≤ 971 ∧ 2 ^ (n.log2 - 52) ∣ n := by
  obtain ⟨m, k, same, small, range⟩ := held
  rw [Int.natAbs_natCast] at same
  have positive : n ≠ 0 := by
    rintro rfl
    simp at long
  have digits : n.log2 < 53 + k := by
    rw [Nat.log2_lt positive, pow_add, same]
    exact Nat.mul_lt_mul_of_pos_right small (by positivity)
  have covered : n.log2 - 52 ≤ k := by omega
  exact ⟨covered.trans range, (pow_dvd_pow 2 covered).trans (same ▸ Dvd.intro_left m rfl)⟩

theorem ofDouble_of_held (negative : Bool) (held : Holds n) :
    ofDouble (ofRatio negative n 1) = .int (signed negative n) := by
  by_cases zero : n = 0
  · subst zero
    cases negative <;> exact ofDouble_zero _
  rcases le_or_gt n.log2 52 with short | long
  · exact ofDouble_of_short negative zero short
  obtain ⟨range, divides⟩ := held.lowered long
  have mantissa := roundDiv_of_dvd (by positivity) divides
  have small : n / 2 ^ (n.log2 - 52) ≠ Nat.pow 2 53 := (div_lt_of_long long).ne
  have within : ¬ (971 : Int) < (n.log2 - 52 : Nat) := by omega
  rw [ofRatio_of_long negative long, mantissa, ofMantissa, if_neg small]
  simp only [if_neg within]
  rw [ofDouble_raised, Nat.div_mul_cancel divides]

/-- What an integer is rounded to is held, or it is an infinity. -/
theorem ofDouble_rounded (negative : Bool) (n : Nat) :
    (∃ m : Nat, Holds m ∧ ofDouble (ofRatio negative n 1) = .int (signed negative m)) ∨
      ofDouble (ofRatio negative n 1) = .double (.infinite negative) := by
  by_cases zero : n = 0
  · subst zero
    exact .inl ⟨0, holds_of_lt (by simp), ofDouble_of_held negative (holds_of_lt (by simp))⟩
  rcases le_or_gt n.log2 52 with short | long
  · have held : Holds n := holds_of_lt ((Nat.log2_lt zero).mp (Nat.lt_succ_of_le short))
    exact .inl ⟨n, held, ofDouble_of_held negative held⟩
  have mantissa := (roundDiv_le n (2 ^ (n.log2 - 52))).trans (div_lt_of_long long)
  rw [ofRatio_of_long negative long, ofMantissa]
  generalize roundDiv n (2 ^ (n.log2 - 52)) = m at mantissa ⊢
  generalize n.log2 - 52 = k
  -- a mantissa that was rounded up to the next power of two is carried
  by_cases carried : m = Nat.pow 2 53
  · rw [if_pos carried]
    by_cases range : (971 : Int) < k + 1
    · exact .inr (by simp only [if_pos range]; rfl)
    · refine .inl ⟨2 ^ 52 * 2 ^ (k + 1), ⟨2 ^ 52, k + 1, Int.natAbs_natCast _, by norm_num,
        by omega⟩, ?_⟩
      simp only [if_neg range]
      exact ofDouble_raised negative (2 ^ 52) (k + 1)
  · rw [if_neg carried]
    by_cases range : (971 : Int) < k
    · exact .inr (by simp only [if_pos range]; rfl)
    · have small : m < 2 ^ 53 := lt_of_le_of_ne mantissa carried
      refine .inl ⟨m * 2 ^ k, ⟨m, k, Int.natAbs_natCast _, small, by omega⟩, ?_⟩
      simp only [if_neg range]
      exact ofDouble_raised negative m k

theorem ofDouble_eq_iff_holds (negative : Bool) (n : Nat) :
    ofDouble (ofRatio negative n 1) = .int (signed negative n) ↔ Holds n := by
  refine ⟨fun kept => ?_, ofDouble_of_held negative⟩
  rcases ofDouble_rounded negative n with ⟨m, held, rounded⟩ | infinite
  · rw [kept, Number.int.injEq] at rounded
    have same : n = m := by
      cases negative <;> simpa [signed] using rounded
    exact same ▸ held
  · rw [kept] at infinite
    cases infinite

theorem signed_natAbs (n : Int) : signed (n < 0) n.natAbs = n := by
  by_cases negative : n < 0
  · simp only [signed, decide_eq_true negative, if_true]
    omega
  · simp only [signed, decide_eq_false negative, Bool.false_eq_true, if_false]
    omega

-- Of zero it does not matter whether it has a minus.
theorem ofDouble_ofRatio {negative : Bool} {n : Int} (same : signed negative n.natAbs = n) :
    ofDouble (ofRatio negative n.natAbs 1) = rounded n := by
  by_cases zero : n = 0
  · subst zero
    exact (ofDouble_zero negative).trans (ofDouble_zero false).symm
  · have sign : decide (n < 0) = negative := by
      cases negative <;> simp only [signed, if_true, Bool.false_eq_true, if_false] at same
      · exact decide_eq_false (by omega)
      · exact decide_eq_true (by omega)
    rw [rounded, ofInt, sign]

theorem rounded_eq_iff_holds {n : Int} : rounded n = .int n ↔ Holds n := by
  have kept := ofDouble_eq_iff_holds (n < 0) n.natAbs
  rw [signed_natAbs] at kept
  rw [rounded, ofInt, kept, Holds, Holds, Int.natAbs_natCast]

end Double

end ScopedSql
