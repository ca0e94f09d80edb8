import ScopedSql.Number.Double
import ScopedSql.Text.Blank
import ScopedSql.Text.DecimalDigit

/-!
Numerals: integers and fractions as people write them. Blanks may surround a numeral, the digits
may come from any script, and single underscores may stand between digits. An integer numeral has
at most 4300 digits, whether it is read or written. A fraction numeral may have a point and an
exponent, or name an infinity or a nan in any letter case.
-/

set_option autoImplicit false

namespace ScopedSql.Numeral

open Text

/-- Blanks that may surround a numeral: the information separators may not. -/
def isMargin (c : Char) : Bool :=
  isPlainBlank c || isWideBlank c

def signed : List Char → Bool × List Char
  | '-' :: rest => (true, rest)
  | '+' :: rest => (false, rest)
  | cs => (false, cs)

/-- The text with each underscore between two digits taken out, or nothing if an underscore
stands elsewhere. `afterDigit` says whether a digit came just before. -/
def withoutUnderscores (isDigit : Char → Bool) : Bool → List Char → Option (List Char)
  | _, [] => some []
  | afterDigit, '_' :: rest =>
    if afterDigit && (rest.head?.map isDigit).getD false then
      withoutUnderscores isDigit false rest
    else none
  | _, c :: rest => (withoutUnderscores isDigit (isDigit c) rest).map (c :: ·)

def digitsValue (start : Nat) (digits : List Nat) : Nat :=
  digits.foldl (fun n d => 10 * n + d) start

def allDigits (cs : List Char) : Option (List Nat) :=
  if cs.isEmpty then none else cs.mapM decimalValue?

def digitLimit : Nat := 4300

/-- Whether an integer has no more digits than a numeral may have. -/
def isShort (n : Int) : Bool :=
  (Nat.toDigits 10 n.natAbs).length ≤ digitLimit

def limitMessage : String :=
  "Exceeds the limit (" ++ toString digitLimit ++ " digits) for integer string conversion; " ++
    "use sys.set_int_max_str_digits() to increase the limit"

/-- The integer of a text: margin, sign, digits. -/
def readInt (cs : List Char) : Option Int := do
  let (negative, body) := signed (strip isMargin cs)
  let digits ← (withoutUnderscores isDecimal false body).bind allDigits
  if digitLimit < digits.length then none
  let magnitude : Int := digitsValue 0 digits
  return if negative then -magnitude else magnitude

/-- A decimal exponent: a mark, a sign, digits; nothing at all stands for zero. -/
def readExponent : List Char → Option Int
  | [] => some 0
  | mark :: rest =>
    if mark = 'e' ∨ mark = 'E' then do
      let (negative, body) := signed rest
      let magnitude : Int := digitsValue 0 (← allDigits body)
      return if negative then -magnitude else magnitude
    else none

/-- The number nearest to `n · 10^exponent`. Far beyond the range it is infinite or zero, so the
power of ten stays small. -/
def scaledByTen (negative : Bool) (n : Nat) (exponent : Int) : Double :=
  let places : Int := (Nat.toDigits 10 n).length + exponent
  if n = 0 then .finite negative 0 (-1074)
  else if 400 < places then .infinite negative
  else if places < -400 then .finite negative 0 (-1074)
  else Double.ofRatio negative (n * Nat.pow 10 exponent.toNat) (Nat.pow 10 (-exponent).toNat)

def readFraction (negative : Bool) (cs : List Char) : Option Double := do
  let whole := cs.takeWhile isDecimal
  let (part, rest) := match cs.dropWhile isDecimal with
    | '.' :: rest => (rest.takeWhile isDecimal, rest.dropWhile isDecimal)
    | rest => ([], rest)
  let digits ← allDigits (whole ++ part)
  let exponent ← readExponent rest
  return scaledByTen negative (digitsValue 0 digits) (exponent - (part.length : Int))

def readUnsigned (negative : Bool) (cs : List Char) : Option Double :=
  let word := String.ofList (cs.map Char.toLower)
  if word = "nan" then some .nan
  else if word = "inf" ∨ word = "infinity" then some (.infinite negative)
  else readFraction negative cs

def readDouble (cs : List Char) : Option Double := do
  let body ← withoutUnderscores isDecimal false (strip isMargin cs)
  let (negative, rest) := signed body
  readUnsigned negative rest

end ScopedSql.Numeral
