import ScopedSql.Fault
import ScopedSql.Value.Compare

/-!
Readings of a value: as an integer, as a sequence of elements, as a dictionary. Each reading says
which values it takes and which misuse the others are.
-/

set_option autoImplicit false

namespace ScopedSql.Value

def misused {α : Type} (kind : Misuse) : Except Fault α :=
  .error (.misuse kind)

def written (x : Value) : Except Fault String :=
  if x.isWritable then .ok x.plain else misused .unreadable

@[simp] theorem written_text (s : String) : (text s).written = .ok s := rfl

theorem written_eq_ok {x : Value} {s : String} :
    x.written = .ok s ↔ x.isWritable ∧ x.plain = s := by
  rw [written]
  split
  · next writable => simp [writable]
  · next unwritable => simp [unwritable, misused]

theorem written_eq_error {x : Value} {fault : Fault} :
    x.written = .error fault ↔ x.isWritable = false ∧ .misuse .unreadable = fault := by
  rw [written]
  split
  · next writable => simp [writable]
  · next unwritable => simp [unwritable, misused]

/-- An attribute of an object by name: a field of a record, the value that a member stands for. -/
def attribute? : Value → String → Option Value
  | member m, name => if name = "value" then some (text m.word) else none
  | record _ fields, name => fields.lookup name
  | _, _ => none

/-- The fault of asking a value for an operation that it does not have; an attribute of that name
is no operation. -/
def lacking {α : Type} (x : Value) (operation : String) : Except Fault α :=
  misused (if (x.attribute? operation).isSome then .wrongType else .noSuchMember)

/-- The integer of a number, truncated, or of a numeral. -/
def toInt : Value → Except Fault Int
  | bool b => .ok (if b then 1 else 0)
  | int n => .ok n
  | double x =>
    match x, x.truncate? with
    | _, some n => .ok n
    | .nan, _ => misused .unreadable
    | _, _ => misused .outOfRange
  | text s => ofNumeral (Numeral.readInt s.toList)
  | member m => ofNumeral (Numeral.readInt m.word.toList)
  | bytes bs =>
    if bs.all (· < 0x80) then
      ofNumeral (Numeral.readInt (bs.map fun byte => Char.ofNat byte.toNat))
    else misused .unreadable
  | _ => misused .wrongType
where
  ofNumeral : Option Int → Except Fault Int
    | some n => .ok n
    | none => misused .unreadable

/-- The elements of a collection: the keys of a dictionary, the characters of a text, the numbers
of a byte string, the named fields of a checked model. -/
def elements? : Value → Option (List Value)
  | list items | tuple items | set items | frozenSet items => some items
  | dict entries => some (entries.map (·.1))
  | text s => some (characters s)
  | member m => some (characters m.word)
  | bytes bs => some (bs.map fun byte => int byte.toNat)
  | record kind fields =>
    if kind.isModel then some (fields.map fun field => tuple [text field.1, field.2]) else none
  | null | bool _ | int _ | double _ => none
where
  characters (s : String) : List Value :=
    s.toList.map fun c => text (String.singleton c)

def elements (x : Value) : Except Fault (List Value) :=
  match x.elements? with
  | some items => .ok items
  | none => misused .wrongType

/-- The elements of a set in an order of their own: the natural one, or else that of their
literals. -/
def arranged (xs : List Value) : Except Fault (List Value) :=
  match sorted? xs with
  | some ys => .ok ys
  | none => if allWritable xs then .ok (sortedByLiteral xs) else misused .unreadable

mutual

/-- Whether a value can be the key of a dictionary or an element of a set. A record can be one if
the values of its own fields can; what was added to a user does not count. -/
def isKey : Value → Bool
  | list _ | set _ | dict _ => false
  | tuple items => allKeys items
  | record kind fields => fieldKeys kind fields
  | _ => true

def allKeys : List Value → Bool
  | [] => true
  | item :: rest => isKey item && allKeys rest

def fieldKeys (kind : RecordKind) : List (String × Value) → Bool
  | [] => true
  | (name, value) :: rest => (kind.isAdded name || isKey value) && fieldKeys kind rest

end

end ScopedSql.Value
