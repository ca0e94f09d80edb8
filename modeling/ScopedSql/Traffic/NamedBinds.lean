import ScopedSql.Text.DecimalDigit
import ScopedSql.Value.Dict

/-!
Named binds: the placeholders of a text, `$1` and the question mark, become `:p0`, `:p1` and so on.
Quoted regions are left as they are, whatever they hold. A single or double quote is written
twice inside its region; a region that would not be closed otherwise ends at the first quote of
its last double one, and a quote that opens no region is left alone. The number of a placeholder
may have leading zeros and digits of any script, but not too many of them.
-/

set_option autoImplicit false

namespace ScopedSql.NamedBinds

/-- How many characters after an opening quote belong to its region, the closing one included. -/
def regionLength (quote : Char) : List Char → Option Nat
  | [] => none
  | c :: rest =>
    if c ≠ quote then (regionLength quote rest).map (· + 1)
    else match rest with
      | [] => some 1
      | d :: after =>
        if d = quote then
          match regionLength quote after with
          | some n => some (n + 2)
          | none => some 1
        else some 1

/-- The same for a quote that cannot stand inside its region. -/
def plainRegionLength (quote : Char) : List Char → Option Nat
  | [] => none
  | c :: rest => if c = quote then some 1 else (plainRegionLength quote rest).map (· + 1)

/-- The length of the region that a character opens before the rest of the text; a character that
opens none has a region of no length. -/
def opened (c : Char) (rest : List Char) : Nat :=
  if c = '\'' ∨ c = '"' then (regionLength c rest).getD 0
  else if c = '`' then (plainRegionLength c rest).getD 0
  else 0

def leadingDigits : List Char → List Nat
  | [] => []
  | c :: rest =>
    match Text.decimalValue? c with
    | some d => d :: leadingDigits rest
    | none => []

def numberOf (digits : List Nat) : Nat :=
  digits.foldl (fun n d => 10 * n + d) 0

def bindName (position : Int) : String :=
  "p" ++ toString position

def reference (position : Int) : List Char :=
  ':' :: (bindName position).toList

/-- What is found in a text: a character that stays, a placeholder with the digits of its number,
or one that stands for the next parameter. -/
inductive Mark where
  | kept (c : Char)
  | numbered (digits : List Nat)
  | next
  deriving DecidableEq, Repr

/-- The marks of a text: `kept` characters are left as they are, then `dropped` ones left out. -/
def marksFrom : Nat → Nat → List Char → List Mark
  | _, _, [] => []
  | kept + 1, dropped, c :: rest => .kept c :: marksFrom kept dropped rest
  | 0, dropped + 1, _ :: rest => marksFrom 0 dropped rest
  | 0, 0, c :: rest =>
    if c = '?' then .next :: marksFrom 0 0 rest
    else if c = '$' then
      match leadingDigits rest with
      | [] => .kept c :: marksFrom 0 0 rest
      | digits => .numbered digits :: marksFrom 0 digits.length rest
    else .kept c :: marksFrom (opened c rest) 0 rest

def marks (sql : String) : List Mark :=
  marksFrom 0 0 sql.toList

def Mark.isReadable : Mark → Bool
  | kept _ | next => true
  | numbered digits => digits.length ≤ Numeral.digitLimit

/-- The text of marks with the placeholders named; `seen` question marks came before. -/
def textFrom : Nat → List Mark → List Char
  | _, [] => []
  | seen, .kept c :: rest => c :: textFrom seen rest
  | seen, .numbered digits :: rest =>
    reference ((numberOf digits : Int) - 1) ++ textFrom seen rest
  | seen, .next :: rest => reference seen ++ textFrom (seen + 1) rest

def named (sql : String) : Except Fault String :=
  if (marks sql).all Mark.isReadable then .ok (String.ofList (textFrom 0 (marks sql)))
  else Value.misused .unreadable

def bindsFrom : Nat → List Value → Dict
  | _, [] => []
  | position, value :: rest =>
    (.text (bindName position), value) :: bindsFrom (position + 1) rest

def ofStatement (sql : String) (params : List Value) : Except Fault (String × Dict) := do
  return (← named sql, bindsFrom 0 params)

/-- The same for a statement and parameters as a caller hands them in: the parameters are walked
first, and only a text can be searched for placeholders. -/
def ofValues (sql params : Value) : Except Fault (String × Dict) := do
  let params ← params.elements
  match sql.asText? with
  | some sql => ofStatement sql params
  | none => Value.misused .wrongType

end ScopedSql.NamedBinds
