import ScopedSql.Number.Numeral

/-!
Numerals in the texts of models. Only the ten basic digits count. A strict integer is a minus or
nothing, then a zero alone or digits that start with another one. A text that is no strict integer
is tidied before it is read again: blanks at its ends, a plus, leading zeros (behind a minus too),
a fraction of zeros and underscores between other characters are taken out. An integer with too
many digits is told as such where the text stands for it as it is; a tidied one is unreadable. A
fraction numeral is read between its blanks or, if it cannot be, without its underscores.
-/

set_option autoImplicit false

namespace ScopedSql.ModelNumeral

open Numeral (isMargin digitLimit)

inductive Reading where
  | integer (n : Int)
  | tooLong
  | unreadable
  deriving DecidableEq, Repr

/-- The digits of a strict integer. A run of too many digits is told whatever follows it. -/
def strictDigits (negative : Bool) (cs : List Char) : Reading :=
  let digits := cs.takeWhile Char.isDigit
  if digitLimit < digits.length then .tooLong
  else if digits.isEmpty || digits.length < cs.length then .unreadable
  else
    let magnitude : Int := Numeral.digitsValue 0 (digits.map fun c => c.toNat - '0'.toNat)
    .integer (if negative then -magnitude else magnitude)

def strictBody (negative : Bool) : List Char → Reading
  | ['0'] => .integer 0
  | '0' :: _ => .unreadable
  | cs => strictDigits negative cs

def strict : List Char → Reading
  | '-' :: rest => strictBody true rest
  | cs => strictBody false cs

def isOpening (c : Char) : Bool :=
  c = '-' || (c.isDigit && c ≠ '0')

/-- The text behind leading zeros, underscores among them; `before` is the character just passed.
Before a point the last one stays, and so it does at the end. -/
def behindZeros (before : Char) : List Char → Option (List Char)
  | [] => some [before]
  | c :: rest =>
    if c = '0' ∨ c = '_' then behindZeros c rest
    else if c = '.' then some (before :: c :: rest)
    else if isOpening c then some (c :: rest)
    else none

def withoutLeadingZeros : List Char → Option (List Char)
  | [] => none
  | c :: rest =>
    if c = '0' then behindZeros c rest
    else if isOpening c then some (c :: rest)
    else none

def withoutSignedZeros : List Char → Option (List Char)
  | '-' :: rest => (withoutLeadingZeros rest).map ('-' :: ·)
  | cs => withoutLeadingZeros cs

def withoutZeroFraction (cs : List Char) : List Char :=
  match cs.dropWhile (· ≠ '.') with
  | _ :: c :: rest => if (c :: rest).all (· = '0') then cs.takeWhile (· ≠ '.') else cs
  | _ => cs

def hasDoubleUnderscore : List Char → Bool
  | '_' :: '_' :: _ => true
  | _ :: rest => hasDoubleUnderscore rest
  | [] => false

/-- The text without its underscores, if it has some and each stands alone between other
characters. -/
def withoutUnderscores? (cs : List Char) : Option (List Char) :=
  if cs.contains '_' && cs.head? ≠ some '_' && cs.getLast? ≠ some '_' &&
      !hasDoubleUnderscore cs then
    some (cs.filter (· ≠ '_'))
  else none

/-- The text without one plus at its start; no minus may follow it. -/
def withoutPlus : List Char → Option (List Char)
  | '+' :: '-' :: _ => none
  | '+' :: rest => some rest
  | cs => some cs

def tidied (cs : List Char) : Option (List Char) := do
  let body ← withoutSignedZeros (← withoutPlus (Text.strip isMargin cs))
  let body := withoutZeroFraction body
  return (withoutUnderscores? body).getD body

/-- The integer of a text: read strictly as it stands, or else in its tidy form. -/
def readInt (cs : List Char) : Reading :=
  match strict cs with
  | .unreadable =>
    match (tidied cs).map strict with
    | some (.integer n) => .integer n
    | _ => .unreadable
  | reading => reading

def plainDouble (cs : List Char) : Option Double :=
  if cs.all fun c => c.toNat < 0x80 then
    let (negative, rest) := Numeral.signed cs
    Numeral.readUnsigned negative rest
  else none

/-- The number of a text: between its blanks, or else as it is without its underscores. -/
def readDouble (cs : List Char) : Option Double :=
  (plainDouble (Text.strip isMargin cs)).orElse fun _ =>
    (withoutUnderscores? cs).bind plainDouble

end ScopedSql.ModelNumeral
