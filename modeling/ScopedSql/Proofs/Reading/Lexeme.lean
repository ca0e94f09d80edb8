import Mathlib
import ScopedSql.Sql

/-! Lexemes of SQL text, read from left to right by a machine with one unfinished lexeme.

A dotted name is one lexeme, without its quotes; a quote written twice stands for itself inside
them. What stands for a bound value is a parameter of the type: first the placeholder as it is
written, then, once the statement's values are known, the value itself. A dialect with numbered
placeholders takes the number, the others the next value in order.
-/

set_option autoImplicit false

namespace ScopedSql

/-- A lexeme; an operand is what stands in the place of a bound value. -/
inductive Lexeme (α : Type) where
  | name (segments : List String)
  | word (letters : String)
  | symbol (signs : String)
  | opening
  | closing
  | comma
  | operand (x : α)
  deriving DecidableEq, Repr

namespace Lexeme

variable {α β : Type}

def mapM (f : α → Option β) : Lexeme α → Option (Lexeme β)
  | .name segments => some (.name segments)
  | .word letters => some (.word letters)
  | .symbol signs => some (.symbol signs)
  | .opening => some .opening
  | .closing => some .closing
  | .comma => some .comma
  | .operand x => (f x).map .operand

def withOperand (y : β) : Lexeme α → Lexeme β
  | .name segments => .name segments
  | .word letters => .word letters
  | .symbol signs => .symbol signs
  | .opening => .opening
  | .closing => .closing
  | .comma => .comma
  | .operand _ => .operand y

def operands : List (Lexeme α) → List α
  | [] => []
  | .operand x :: rest => x :: operands rest
  | _ :: rest => operands rest

@[simp] theorem operands_append (first rest : List (Lexeme α)) :
    operands (first ++ rest) = operands first ++ operands rest := by
  induction first with
  | nil => rfl
  | cons lexeme _ ih => cases lexeme <;> simp [operands, ih]

end Lexeme

-- The quote of a dialect's names as a character.
def Dialect.quoteChar : Dialect → Char
  | .mysql => '`'
  | .postgres | .sqlite => '"'

/-- The lexeme that the last characters have begun. A name keeps its finished segments apart. -/
inductive Pending where
  | nothing
  | word (cs : List Char)
  | symbol (cs : List Char)
  | mark (cs : List Char)
  | segment (before : List String) (cs : List Char)
  | segmentEnd (before : List String) (cs : List Char)
  | dot (before : List String)
  | refused
  deriving DecidableEq, Repr

namespace Pending

def isSign (c : Char) : Bool :=
  c = '=' || c = '!' || c = '<' || c = '>' || c = '*' || c = '-'

def isMark : Dialect → Char → Bool
  | .postgres, c => c = '$'
  | .mysql, c | .sqlite, c => c = '?'

def continued (d : Dialect) : Pending → Char → Option Pending
  | .word cs, c => if Identifier.isRest c then some (.word (cs ++ [c])) else none
  | .symbol cs, c => if isSign c then some (.symbol (cs ++ [c])) else none
  | .mark ('$' :: digits), c =>
    if c.isDigit then some (.mark ('$' :: digits ++ [c])) else none
  | .segment before cs, c =>
    some (if c = d.quoteChar then .segmentEnd before cs else .segment before (cs ++ [c]))
  | .segmentEnd before cs, c =>
    if c = d.quoteChar then some (.segment before (cs ++ [c]))
    else if c = '.' then some (.dot (before ++ [String.ofList cs]))
    else none
  | .dot before, c => some (if c = d.quoteChar then .segment before [] else .refused)
  | .refused, _ => some .refused
  | .nothing, _ | .mark _, _ => none

-- What the unfinished lexeme comes to if it ends here; an open quote, a dot and a numbered
-- placeholder without its number cannot end.
def finished : Pending → Option (List (Lexeme String))
  | .nothing => some []
  | .word cs => some [.word (String.ofList cs)]
  | .symbol cs => some [.symbol (String.ofList cs)]
  | .mark ['$'] => none
  | .mark cs => some [.operand (String.ofList cs)]
  | .segmentEnd before cs => some [.name (before ++ [String.ofList cs])]
  | .segment .. | .dot _ | .refused => none

-- What a character begins that belongs to no unfinished lexeme.
def begun (d : Dialect) (c : Char) : List (Lexeme String) × Pending :=
  if c = ' ' then ([], .nothing)
  else if c = '(' then ([.opening], .nothing)
  else if c = ')' then ([.closing], .nothing)
  else if c = ',' then ([.comma], .nothing)
  else if Identifier.isRest c then ([], .word [c])
  else if isSign c then ([], .symbol [c])
  else if c = d.quoteChar then ([], .segment [] [])
  else if isMark d c then ([], .mark [c])
  else ([], .refused)

end Pending

structure Scan where
  lexemes : List (Lexeme String)
  pending : Pending
  deriving DecidableEq, Repr

namespace Scan

def step (d : Dialect) (s : Scan) (c : Char) : Scan :=
  match s.pending.continued d c with
  | some pending => ⟨s.lexemes, pending⟩
  | none =>
    match s.pending.finished with
    | some last => ⟨s.lexemes ++ last ++ (Pending.begun d c).1, (Pending.begun d c).2⟩
    | none => ⟨s.lexemes, .refused⟩

def run (d : Dialect) (s : Scan) (cs : List Char) : Scan :=
  cs.foldl (step d) s

def start : Scan := ⟨[], .nothing⟩

def result (s : Scan) : Option (List (Lexeme String)) :=
  s.pending.finished.map fun last => s.lexemes ++ last

def after (before : List (Lexeme String)) (s : Scan) : Scan :=
  ⟨before ++ s.lexemes, s.pending⟩

theorem run_append (d : Dialect) (s : Scan) (first rest : List Char) :
    run d s (first ++ rest) = run d (run d s first) rest :=
  List.foldl_append

theorem step_after (d : Dialect) (before : List (Lexeme String)) (s : Scan) (c : Char) :
    step d (after before s) c = after before (step d s c) := by
  unfold step after
  cases s.pending.continued d c with
  | some pending => rfl
  | none => cases s.pending.finished <;> simp

-- What was read before does not change what is read next.
theorem run_after (d : Dialect) (before : List (Lexeme String)) (s : Scan) (cs : List Char) :
    run d (after before s) cs = after before (run d s cs) := by
  induction cs generalizing s with
  | nil => rfl
  | cons c cs ih => exact (congrArg (run d · cs) (step_after d before s c)).trans (ih _)

end Scan

namespace Lexeme

variable {α : Type}

def scan (d : Dialect) (text : String) : Option (List (Lexeme String)) :=
  (Scan.run d .start text.toList).result

/-- The parameter that a placeholder stands for, counted from zero, after `seen` others. -/
def position? (seen : Nat) (mark : String) : Option Nat :=
  match mark.toList with
  | ['?'] => some seen
  | '$' :: digits =>
    match Nat.ofDigitChars 10 digits 0 with
    | 0 => none
    | number + 1 => some number
  | _ => none

/-- Puts the parameters in for their placeholders, `seen` of which came before. -/
def bind (params : List α) : Nat → List (Lexeme String) → Option (List (Lexeme α))
  | _, [] => some []
  | seen, lexeme :: rest => do
    let bound ← lexeme.mapM fun mark => do params[← position? seen mark]?
    return bound :: (← bind params (seen + (operands [lexeme]).length) rest)

def ofText (d : Dialect) (text : String) (params : List α) :
    Option (List (Lexeme α)) :=
  (scan d text).bind (bind params 0)

end Lexeme

end ScopedSql
