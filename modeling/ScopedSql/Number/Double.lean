/-!
Numbers of double precision, as exact binary fractions. A finite number is a sign, a mantissa below
2^53 and an exponent from -1074 on; the mantissa is at least 2^52 unless the exponent is the least
one. Every operation here is exact integer arithmetic; only `ofRatio` rounds, to the nearest
number and to the even mantissa on a tie.
-/

set_option autoImplicit false

namespace ScopedSql

/-- A number of double precision: `finite s m e` stands for ±m · 2^e. -/
inductive Double where
  | nan
  | infinite (negative : Bool)
  | finite (negative : Bool) (mantissa : Nat) (exponent : Int)
  deriving DecidableEq, Repr, Inhabited

namespace Double

/-- The quotient rounded to the nearest integer, a half to the even one. -/
def roundDiv (num den : Nat) : Nat :=
  let floor := num / den
  let rest := num % den
  if 2 * rest < den ∨ (2 * rest = den ∧ floor % 2 = 0) then floor else floor + 1

/-- The largest `k` with `2^k ≤ num / den`, for positive numbers. -/
def floorLog2 (num den : Nat) : Int :=
  let guess : Int := (num.log2 : Int) - (den.log2 : Int)
  if den * Nat.pow 2 guess.toNat ≤ num * Nat.pow 2 (-guess).toNat then guess else guess - 1

/-- The number with a rounded mantissa, carried to the next exponent or to infinity if it is too
large. -/
def ofMantissa (negative : Bool) (mantissa : Nat) (exponent : Int) : Double :=
  let carried := if mantissa = Nat.pow 2 53 then (Nat.pow 2 52, exponent + 1) else (mantissa, exponent)
  if 971 < carried.2 then infinite negative else finite negative carried.1 carried.2

def ofRatio (negative : Bool) (num den : Nat) : Double :=
  if num = 0 ∨ den = 0 then finite negative 0 (-1074)
  else
    let exponent := max (floorLog2 num den - 52) (-1074)
    ofMantissa negative
      (roundDiv (num * Nat.pow 2 (-exponent).toNat) (den * Nat.pow 2 exponent.toNat)) exponent

def ofInt (n : Int) : Double :=
  ofRatio (n < 0) n.natAbs 1

/-- The integer `±m · 2^(e - low)`, for a finite number and a `low` not above its exponent. -/
def scaled (low : Int) (negative : Bool) (mantissa : Nat) (exponent : Int) : Int :=
  let magnitude : Int := mantissa * Int.pow 2 (exponent - low).toNat
  if negative then -magnitude else magnitude

/-- The order of two numbers; nothing is ordered beside a nan. -/
def compare? : Double → Double → Option Ordering
  | nan, _ => none
  | _, nan => none
  | infinite s, infinite t => some (if s = t then .eq else if s then .lt else .gt)
  | infinite s, finite .. => some (if s then .lt else .gt)
  | finite .., infinite t => some (if t then .gt else .lt)
  | finite s m e, finite t n f => some (compare (scaled (min e f) s m e) (scaled (min e f) t n f))

def compareInt? (x : Double) (n : Int) : Option Ordering :=
  compare? x (finite (n < 0) n.natAbs 0)

/-- The sum, rounded to the nearest number; opposite infinities have none. A sum of zero is
negative only if both parts are. -/
def add : Double → Double → Double
  | nan, _ => nan
  | _, nan => nan
  | infinite s, infinite t => if s = t then infinite s else nan
  | infinite s, finite .. => infinite s
  | finite .., infinite t => infinite t
  | finite s m e, finite t n f =>
    let low := min e f
    let sum := scaled low s m e + scaled low t n f
    if sum = 0 then finite (s && t) 0 (-1074)
    else ofRatio (sum < 0) (sum.natAbs * Nat.pow 2 low.toNat) (Nat.pow 2 (-low).toNat)

def truncate? : Double → Option Int
  | finite s m e =>
    let magnitude : Int := (m * Nat.pow 2 e.toNat / Nat.pow 2 (-e).toNat : Nat)
    some (if s then -magnitude else magnitude)
  | _ => none

def isIntegral : Double → Bool
  | finite _ m e => m * Nat.pow 2 e.toNat % Nat.pow 2 (-e).toNat = 0
  | _ => false

def isZero : Double → Bool
  | finite _ m _ => m = 0
  | _ => false

end Double

end ScopedSql
