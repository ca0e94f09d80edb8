import ScopedSql.Sorting
import ScopedSql.Value.Text

/-!
Equality and order of values. Numbers are equal if they have the same amount, whatever their type,
and truth values count as 0 and 1; a member equals its word; sets of both kinds are equal if they
have the same elements. Only numbers among themselves, texts, byte strings, sequences of one kind
and sets by inclusion are ordered.
-/

set_option autoImplicit false

namespace ScopedSql

inductive Number where
  | int (n : Int)
  | double (x : Double)
  deriving DecidableEq, Repr

namespace Number

def compare? : Number → Number → Option Ordering
  | int m, int n => some (compare m n)
  | int m, double y => (y.compareInt? m).map Ordering.swap
  | double x, int n => x.compareInt? n
  | double x, double y => x.compare? y

def isBelow (x y : Number) : Bool :=
  compare? x y = some .lt

def isEqual (x y : Number) : Bool :=
  compare? x y = some .eq

def toValue : Number → Value
  | int n => .int n
  | double x => .double x

end Number

namespace Value

def asNumber? : Value → Option Number
  | bool b => some (.int (if b then 1 else 0))
  | int n => some (.int n)
  | double x => some (.double x)
  | _ => none

/-- Equality of scalars: by amount, by text, byte by byte. -/
def equalScalar (x y : Value) : Bool :=
  match x.asNumber?, y.asNumber? with
  | some m, some n => m.isEqual n
  | _, _ =>
    match x.asText?, y.asText? with
    | some s, some t => s == t
    | _, _ =>
      match x, y with
      | null, null => true
      | bytes bs, bytes cs => bs == cs
      | _, _ => false

mutual

def equal : Value → Value → Bool
  | list xs, y => match y with
    | list ys => equalAll xs ys
    | _ => false
  | tuple xs, y => match y with
    | tuple ys => equalAll xs ys
    | _ => false
  | set xs, y => match y with
    | set ys | frozenSet ys => xs.length == ys.length && eachIn xs ys
    | _ => false
  | frozenSet xs, y => match y with
    | set ys | frozenSet ys => xs.length == ys.length && eachIn xs ys
    | _ => false
  | dict xs, y => match y with
    | dict ys => xs.length == ys.length && eachEntryIn xs ys
    | _ => false
  | record kind xs, y => match y with
    | record kind' ys => kind.isComparable kind' && xs.length == ys.length && eachFieldIn xs ys
    | _ => false
  | x, y => equalScalar x y
termination_by structural x => x

def equalAll : List Value → List Value → Bool
  | [], ys => ys.isEmpty
  | x :: xs, ys => match ys with
    | [] => false
    | y :: ys => equal x y && equalAll xs ys
termination_by structural x => x

def eachIn : List Value → List Value → Bool
  | [], _ => true
  | x :: xs, ys => ys.any (fun y => equal x y) && eachIn xs ys
termination_by structural x => x

def eachEntryIn : List (Value × Value) → List (Value × Value) → Bool
  | [], _ => true
  | (key, x) :: xs, ys =>
    ys.any (fun entry => equal key entry.1 && equal x entry.2) && eachEntryIn xs ys
termination_by structural x => x

def eachFieldIn : List (String × Value) → List (String × Value) → Bool
  | [], _ => true
  | (name, x) :: xs, ys =>
    (match ys.lookup name with
      | some y => equal x y
      | none => false) && eachFieldIn xs ys
termination_by structural x => x

end

def isAmong (x : Value) (ys : List Value) : Bool :=
  ys.any fun y => equal x y

mutual

/-- Whether the first value is below the second; nothing if the two cannot be compared. -/
def isBelow? : Value → Value → Option Bool
  | list xs, y => match y with
    | list ys => isBelowAll? xs ys
    | _ => none
  | tuple xs, y => match y with
    | tuple ys => isBelowAll? xs ys
    | _ => none
  | set xs, y | frozenSet xs, y => match y with
    | set ys | frozenSet ys => some (xs.length < ys.length && eachIn xs ys)
    | _ => none
  | x, y =>
    match x.asNumber?, y.asNumber? with
    | some m, some n => some (m.isBelow n)
    | _, _ =>
      match x.asText?, y.asText? with
      | some s, some t => some (s < t)
      | _, _ =>
        match x, y with
        | bytes bs, bytes cs => some (bs < cs)
        | _, _ => none
termination_by structural x => x

/-- The order of two sequences: the first elements that differ decide. -/
def isBelowAll? : List Value → List Value → Option Bool
  | [], ys => some (!ys.isEmpty)
  | x :: xs, ys => match ys with
    | [] => some false
    | y :: ys => if equal x y then isBelowAll? xs ys else isBelow? x y
termination_by structural x => x

end

/-- The values in their natural order, if any two that are compared can be. -/
def sorted? (xs : List Value) : Option (List Value) :=
  Sorting.sorted? isBelow? xs

def sortedByLiteral (xs : List Value) : List Value :=
  xs.mergeSort fun x y => literal x ≤ literal y

end Value

end ScopedSql
