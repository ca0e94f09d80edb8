import ScopedSql.Model.Check
import ScopedSql.Model.Numeral

/-!
The checks of fields where types are taken loosely: a number may be written as a text, a text may be
encoded in bytes, a truth value may be a word, and any plain collection is a sequence.
-/

set_option autoImplicit false

namespace ScopedSql.Coercion

variable {α : Type}

def decodeBytes (bs : List UInt8) : Option String :=
  String.fromUTF8? ⟨bs.toArray⟩

/-- A text; a member counts as its word, and bytes as the text that they encode. -/
def text : Value → Checked String
  | .text s => .valid s
  | .member m => .valid m.word
  | .bytes bs =>
    match decodeBytes bs with
    | some s => .valid s
    | none => .issue .stringUnicode
  | _ => .issue .stringType

def truthWords : List (String × Bool) := [
  ("0", false), ("off", false), ("f", false), ("false", false), ("n", false), ("no", false),
  ("1", true), ("on", true), ("t", true), ("true", true), ("y", true), ("yes", true)]

def flagOfText (s : String) : Checked Bool :=
  match truthWords.lookup (String.ofList (s.toList.map Char.toLower)) with
  | some b => .valid b
  | none => .issue .boolParsing

def flagOfInt (n : Int) : Checked Bool :=
  if n = 0 then .valid false
  else if n = 1 then .valid true
  else .issue (if Check.isWord n then .boolParsing else .boolType)

/-- The integer of a number without a fraction that is well inside 64 bits: the least word is not,
since a number of double precision may have been rounded to it. -/
def wordOfDouble? (x : Double) : Option Int :=
  match x.isIntegral, x.truncate? with
  | true, some n => if -Int.pow 2 63 < n ∧ n < Int.pow 2 63 then some n else none
  | _, _ => none

/-- A truth value: itself, 0 or 1, or a word. -/
def flag : Value → Checked Bool
  | .bool b => .valid b
  | .int n => flagOfInt n
  | .double x => ((wordOfDouble? x).map flagOfInt).getD (.issue .boolType)
  | .text s => flagOfText s
  | .member m => flagOfText m.word
  | .bytes bs => ((decodeBytes bs).map flagOfText).getD (.issue .boolParsing)
  | _ => .issue .boolType

def doubleOfText (s : String) : Checked Double :=
  match ModelNumeral.readDouble s.toList with
  | some x => .valid x
  | none => .issue .floatParsing

/-- A number: itself, a truth value as 0 or 1, or a text that writes it. -/
def double : Value → Checked Double
  | .double x => .valid x
  | .int n =>
    match Double.ofInt n with
    | .infinite _ => .issue .floatType
    | x => .valid x
  | .bool b => .valid (Double.ofInt (if b then 1 else 0))
  | .text s => doubleOfText s
  | .member m => doubleOfText m.word
  | .bytes bs => ((decodeBytes bs).map doubleOfText).getD (.issue .floatParsing)
  | _ => .issue .floatType

def intOfText (s : String) : Checked Int :=
  match ModelNumeral.readInt s.toList with
  | .integer n => .valid n
  | .tooLong => .issue .intParsingSize
  | .unreadable => .issue .intParsing

/-- An integer: itself, a truth value as 0 or 1, a number without fraction, or a text that writes
it. -/
def int : Value → Checked Int
  | .int n => .valid n
  | .bool b => .valid (if b then 1 else 0)
  | .double x =>
    if x.truncate?.isNone then .issue .finiteNumber
    else if !x.isIntegral then .issue .intFromFloat
    else ((wordOfDouble? x).map .valid).getD (.issue .intParsingSize)
  | .text s => intOfText s
  | .member m => intOfText m.word
  | .bytes bs => ((decodeBytes bs).map intOfText).getD (.issue .intParsing)
  | _ => .issue .intType

def member [Vocabulary α] (x : Value) : Checked α :=
  match text x with
  | .valid word => ((Vocabulary.ofWord? word).map .valid).getD (.issue .notMember)
  | _ => .issue .notMember

def sequence (otherwise : IssueKind) : Value → Checked (List Value)
  | .list xs | .tuple xs | .set xs | .frozenSet xs => .valid xs
  | .record kind fields => ((Value.record kind fields).elements?.map .valid).getD (.issue otherwise)
  | _ => .issue otherwise

theorem elements_of_sequence {otherwise : IssueKind} {x : Value} {xs : List Value}
    (walked : sequence otherwise x = .valid xs) : x.elements = .ok xs := by
  cases x with
  | list | tuple | set | frozenSet =>
    cases walked
    rfl
  | record kind fields =>
    rw [sequence] at walked
    rw [Value.elements]
    cases named : (Value.record kind fields).elements? with
    | none =>
      rw [named] at walked
      cases walked
    | some items =>
      rw [named] at walked
      cases walked
      rfl
  | _ => cases walked

instance : Check where
  text := text
  flag := flag
  double := double
  int := int
  member := member
  sequence := sequence
  elements_of_sequence := elements_of_sequence

end ScopedSql.Coercion
