import ScopedSql.Value.Dict

/-!
Checking untyped input against models. A check gives a value, or all issues that it found with
their places, or a fault that ends the whole check at once. Checks of several fields run in order
and collect their issues; the first fault among them wins over all issues. How a single value is
taken for a text, a number or another type of field is left to the library of the models.
-/

set_option autoImplicit false

namespace ScopedSql

inductive Checked (α : Type) where
  | valid (a : α)
  | issues (found : List Issue)
  | fault (f : Fault)

namespace Checked

variable {α β : Type}

def both (f : Checked (α → β)) (x : Checked α) : Checked β :=
  match f, x with
  | fault e, _ => fault e
  | _, fault e => fault e
  | issues is, issues js => issues (is ++ js)
  | issues is, valid _ => issues is
  | valid _, issues js => issues js
  | valid g, valid a => valid (g a)

instance : Applicative Checked where
  pure := valid
  seq f x := both f (x ())

def issue (kind : IssueKind) : Checked α :=
  issues [⟨[], kind⟩]

def under (step : Step) : Checked α → Checked α
  | issues found => issues (found.map fun i => { i with place := step :: i.place })
  | x => x

def andThen (x : Checked α) (next : α → Checked β) : Checked β :=
  match x with
  | valid a => next a
  | issues found => issues found
  | fault e => fault e

/-- A computation inside a check: what cannot be written is an issue, and other faults end the
check. -/
def ofExcept : Except Fault α → Checked α
  | .ok a => valid a
  | .error (.misuse .unreadable) => issue (.rejected Numeral.limitMessage)
  | .error e => fault e

def toExcept : Checked α → Except Fault α
  | valid a => .ok a
  | issues found => .error (.badModel found)
  | fault e => .error e

def eachFrom (check : Value → Checked α) : Nat → List Value → Checked (List α)
  | _, [] => valid []
  | position, x :: rest =>
    both ((check x |>.under (.index position)) |> both (valid List.cons))
      (eachFrom check (position + 1) rest)

def each (check : Value → Checked α) (xs : List Value) : Checked (List α) :=
  eachFrom check 0 xs

def orNull (check : Value → Checked α) : Value → Checked (Option α)
  | .null => valid none
  | x => both (valid some) (check x)

end Checked

/-- The checks that a library of models has for the types of fields. All that is relied on is that a
sequence which it takes is made of the elements that the value is walked by. -/
class Check where
  text : Value → Checked String
  flag : Value → Checked Bool
  double : Value → Checked Double
  int : Value → Checked Int
  member : {α : Type} → [Vocabulary α] → Value → Checked α
  sequence : IssueKind → Value → Checked (List Value)
  elements_of_sequence : ∀ {otherwise : IssueKind} {x : Value} {xs : List Value},
    sequence otherwise x = .valid xs → x.elements = .ok xs

namespace Check

variable {α : Type}

def anything (x : Value) : Checked Value :=
  .valid x

def sequenceOf [Check] (otherwise : IssueKind) (check : Value → Checked α) (x : Value) :
    Checked (List α) :=
  (sequence otherwise x).andThen (Checked.each check)

def entries (otherwise : IssueKind) : Value → Checked Dict
  | .dict es => .valid es
  | _ => .issue otherwise

def isWord (n : Int) : Bool :=
  -Int.pow 2 63 ≤ n && n < Int.pow 2 63

/-- A key as a step: a position if it is a number of 64 bits, else its word or its literal. -/
def stepOf (x : Value) : Step :=
  match x with
  | .bool b => .index (if b then 1 else 0)
  | .int n => if isWord n then .index n else .key (toString n)
  | x => .key (x.asText?.getD x.literal)

/-- A model: an object that was checked before, or the dictionary of its fields. -/
def model (ofRecord? : Value → Option α) (fields : Dict → Checked α) (x : Value) : Checked α :=
  match ofRecord? x with
  | some a => .valid a
  | none => (entries .modelType x).andThen fields

def required (es : Dict) (name : String) (check : Value → Checked α) : Checked α :=
  match es.at? name with
  | some x => (check x).under (.key name)
  | none => (Checked.issue .missing).under (.key name)

def optional (es : Dict) (name : String) (default : α) (check : Value → Checked α) : Checked α :=
  match es.at? name with
  | some x => (check x).under (.key name)
  | none => .valid default

/-- A field with two names that may be left out; the first name goes before the second. -/
def aliased (es : Dict) (first second : String) (default : α) (check : Value → Checked α) :
    Checked α :=
  match es.at? first with
  | some x => (check x).under (.key first)
  | none => optional es second default check

end Check

end ScopedSql
