import ScopedSql.Number.Double

/-!
Decimal texts of numbers of double precision. Two rules choose the digits: `shortest` takes the
fewest digits that read back as the same number, and among those the nearest to it; `rounded`
takes a fixed count of digits, a half to the even one. A `DecimalStyle` says how digits are laid
out: when an exponent is written, and whether an integral value keeps a fraction.
-/

set_option autoImplicit false

namespace ScopedSql

structure Decimal where
  digits : List Char
  point : Int

namespace Decimal

def stripZeros (x : Decimal) : Decimal :=
  ⟨(x.digits.reverse.dropWhile (· = '0')).reverse, x.point⟩

def digitsOf (n : Nat) : List Char :=
  Nat.toDigits 10 n

/-- The number of digits before the decimal point of the positive fraction `num / den`; zeros
after the point count negatively. -/
def integerPlaces (num den : Nat) : Int :=
  if den ≤ num then (digitsOf (num / den)).length
  else
    let least := (den + num - 1) / num
    1 - ((digitsOf (least - 1)).length : Int)

/-- The fraction as a multiple of `10^place`: numerator and denominator. -/
def onGrid (num den : Nat) (place : Int) : Nat × Nat :=
  (num * Nat.pow 10 (-place).toNat, den * Nat.pow 10 place.toNat)

/-- The interval of the fractions that round to a mantissa and exponent, with the number itself,
all in quarters of its last place: `(low, number, high)` over `2^2`. The gap below a power of two
is half as wide. -/
def neighbourhood (mantissa : Nat) (exponent : Int) : Nat × Nat × Nat :=
  let low :=
    if mantissa = Nat.pow 2 52 ∧ -1074 < exponent then 4 * mantissa - 1 else 4 * mantissa - 2
  (low, 4 * mantissa, 4 * mantissa + 2)

def readsBack (mantissa : Nat) (exponent : Int) (n : Nat) (place : Int) : Bool :=
  let (low, _, high) := neighbourhood mantissa exponent
  -- both sides times 4, cleared of negative powers
  let candidate := 4 * n * Nat.pow 10 place.toNat * Nat.pow 2 (-exponent).toNat
  let unit := Nat.pow 2 exponent.toNat * Nat.pow 10 (-place).toNat
  if mantissa % 2 = 0 then low * unit ≤ candidate && candidate ≤ high * unit
  else low * unit < candidate && candidate < high * unit

/-- The nearest reading back among the two neighbours of the number on the grid of one place. -/
def hitAt (mantissa : Nat) (exponent place : Int) : Option Nat :=
  let (num, den) :=
    onGrid (mantissa * Nat.pow 2 exponent.toNat) (Nat.pow 2 (-exponent).toNat) place
  let below := num / den
  let nearest := Double.roundDiv num den
  let other := if nearest = below then below + 1 else below
  if readsBack mantissa exponent nearest place then some nearest
  else if readsBack mantissa exponent other place then some other
  else none

/-- The first hit on the grids of `count`, `count + 1`, … digits. -/
def firstHit (mantissa : Nat) (exponent places : Int) : Nat → Nat → Decimal
  | 0, count =>
    ⟨digitsOf mantissa, places + count⟩
  | fuel + 1, count =>
    let place := places - count
    match hitAt mantissa exponent place with
    | some n => ⟨digitsOf n, (digitsOf n).length + place⟩
    | none => firstHit mantissa exponent places fuel (count + 1)

/-- The fewest digits that read back as a positive number; seventeen always do. A hit on the next
power of ten has a zero at its end. -/
def shortest (mantissa : Nat) (exponent : Int) : Decimal :=
  let places :=
    integerPlaces (mantissa * Nat.pow 2 exponent.toNat) (Nat.pow 2 (-exponent).toNat)
  (firstHit mantissa exponent places 17 1).stripZeros

def rounded (count : Nat) (mantissa : Nat) (exponent : Int) : Decimal :=
  let num := mantissa * Nat.pow 2 exponent.toNat
  let den := Nat.pow 2 (-exponent).toNat
  let place := integerPlaces num den - count
  let (n, d) := onGrid num den place
  let digits := digitsOf (Double.roundDiv n d)
  ⟨digits, digits.length + place⟩

end Decimal

structure DecimalStyle where
  /-- The largest exponent of ten that is written positionally, plus one. -/
  positionalBelow : Int
  keepsFraction : Bool

namespace DecimalStyle

def exponentText (exponent : Int) : List Char :=
  let digits := Decimal.digitsOf exponent.natAbs
  'e' :: (if exponent < 0 then '-' else '+') ::
    (if digits.length < 2 then '0' :: digits else digits)

/-- The digits with a point or an exponent. Exponents below -4 are always written out. -/
def layOut (style : DecimalStyle) (x : Decimal) : List Char :=
  let exponent := x.point - 1
  if exponent < -4 ∨ style.positionalBelow ≤ exponent then
    match x.digits with
    | [] => []
    | [d] => d :: exponentText exponent
    | d :: rest => d :: '.' :: rest ++ exponentText exponent
  else if x.point ≤ 0 then
    '0' :: '.' :: List.replicate (-x.point).toNat '0' ++ x.digits
  else
    let whole := x.point.toNat
    if x.digits.length ≤ whole then
      x.digits ++ List.replicate (whole - x.digits.length) '0' ++
        (if style.keepsFraction then ['.', '0'] else [])
    else x.digits.take whole ++ '.' :: x.digits.drop whole

end DecimalStyle

namespace Double

def textBy (style : DecimalStyle) (digits : Nat → Int → Decimal) : Double → String
  | nan => "nan"
  | infinite s => if s then "-inf" else "inf"
  | finite s m e =>
    let magnitude :=
      if m = 0 then (if style.keepsFraction then ['0', '.', '0'] else ['0'])
      else style.layOut (digits m e)
    String.ofList (if s then '-' :: magnitude else magnitude)

/-- The display form: the shortest digits, positional below 10^16, with a fraction always. -/
def text : Double → String :=
  textBy ⟨16, true⟩ Decimal.shortest

/-- The brief form used for bounds: six digits, positional below 10^6, no trailing zeros. -/
def briefText : Double → String :=
  textBy ⟨6, false⟩ fun m e => (Decimal.rounded 6 m e).stripZeros

end Double

end ScopedSql
