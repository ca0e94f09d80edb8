import ScopedSql.Predicate.Basic
import ScopedSql.Proofs.Reading.Lexeme

/-! Formulas on rows and how they are read from lexemes.

The strength of a formula is part of its type: a disjunction has conjunctions for its members, a
conjunction has factors, and a factor is an atom or a disjunction between parentheses. So `OR`
binds weaker than `AND` in every formula there is, and writing a formula out and reading it
again gives the same formula.
-/

set_option autoImplicit false

namespace ScopedSql

namespace Lexeme

variable {α β : Type}

def afterWord (letters : String) : List (Lexeme α) → Option (List (Lexeme α))
  | .word other :: rest => if other = letters then some rest else none
  | _ => none

-- One or more items with commas between them, `fuel` at most.
def listed (item : List (Lexeme α) → Option (β × List (Lexeme α))) :
    Nat → List (Lexeme α) → Option ((β × List β) × List (Lexeme α))
  | 0, _ => none
  | fuel + 1, input => do
    let (first, rest) ← item input
    match rest with
    | .comma :: rest => do
      let ((second, more), rest) ← listed item fuel rest
      return ((first, second :: more), rest)
    | rest => return ((first, []), rest)

def list (item : List (Lexeme α) → Option (β × List (Lexeme α))) (input : List (Lexeme α)) :
    Option ((β × List β) × List (Lexeme α)) :=
  listed item (input.length + 1) input

def operand? : List (Lexeme α) → Option (α × List (Lexeme α))
  | .operand x :: rest => some (x, rest)
  | _ => none

def operandsToClose (input : List (Lexeme α)) : Option ((α × List α) × List (Lexeme α)) := do
  let (xs, rest) ← list operand? input
  match rest with
  | .closing :: rest => return (xs, rest)
  | _ => none

theorem length_le_intercalate (separator : Lexeme α) (lists : List (List (Lexeme α))) :
    lists.length ≤ ([separator].intercalate lists).length + 1 := by
  induction lists with
  | nil => exact Nat.zero_le _
  | cons first rest ih =>
    cases rest with
    | nil => simp
    | cons second rest =>
      rw [List.intercalate_cons_cons]
      simp only [List.length_append, List.length_cons, List.length_nil] at ih ⊢
      omega

variable (item : List (Lexeme α) → Option (β × List (Lexeme α))) (print : β → List (Lexeme α))

theorem listed_intercalate (reads : ∀ y rest, item (print y ++ rest) = some (y, rest)) (y : β)
    (ys : List β) {rest : List (Lexeme α)} (ends : rest.head? ≠ some .comma) {fuel : Nat}
    (enough : ys.length < fuel) :
    listed item fuel ([.comma].intercalate ((y :: ys).map print) ++ rest) =
      some ((y, ys), rest) := by
  induction ys generalizing y fuel with
  | nil =>
    obtain ⟨fuel, rfl⟩ := Nat.exists_eq_add_one_of_ne_zero (Nat.ne_zero_of_lt enough)
    simp only [List.map_cons, List.map_nil, List.intercalate_singleton, listed, reads]
    cases rest with
    | nil => rfl
    | cons lexeme rest => cases lexeme <;> first | rfl | exact absurd rfl ends
  | cons second ys ih =>
    obtain ⟨fuel, rfl⟩ := Nat.exists_eq_add_one_of_ne_zero (Nat.ne_zero_of_lt enough)
    have more := ih second (Nat.lt_of_succ_lt_succ enough)
    rw [List.map_cons] at more
    rw [List.map_cons, List.map_cons, List.intercalate_cons_cons]
    simp [listed, reads, more]

-- A list that is written with commas is read back, if no comma follows.
theorem list_intercalate (reads : ∀ y rest, item (print y ++ rest) = some (y, rest)) (y : β)
    (ys : List β) (rest : List (Lexeme α)) (ends : rest.head? ≠ some .comma) :
    list item ([.comma].intercalate ((y :: ys).map print) ++ rest) = some ((y, ys), rest) := by
  have long := length_le_intercalate .comma ((y :: ys).map print)
  refine listed_intercalate item print reads y ys ends ?_
  simp only [List.length_map, List.length_cons, List.length_append] at long ⊢
  omega

def operandList (xs : List α) : List (Lexeme α) :=
  [.comma].intercalate (xs.map fun x => [.operand x])

theorem operandsToClose_operandList (x : α) (xs : List α) (rest : List (Lexeme α)) :
    operandsToClose (operandList (x :: xs) ++ .closing :: rest) = some ((x, xs), rest) := by
  have reads : ∀ (y : α) (rest : List (Lexeme α)), operand? ([.operand y] ++ rest) = some (y, rest) :=
    fun _ _ => rfl
  have read := list_intercalate operand? (fun y => [.operand y]) reads x xs (.closing :: rest) (by simp)
  rw [operandsToClose, operandList, read]
  rfl

end Lexeme

open Lexeme

variable {α : Type}

/-! ## Atoms -/

/-- A predicate without parts, over what stands for its bound values. -/
inductive Atom (α : Type) where
  | compare (column : List String) (comparison : Comparison) (x : α)
  | isIn (column : List String) (x : α) (xs : List α)
  | notIn (column : List String) (x : α) (xs : List α)
  | isNull (column : List String)
  | isNotNull (column : List String)
  | never
  | always
  deriving DecidableEq, Repr

def Comparison.lexeme : Comparison → Lexeme α
  | eq => .symbol "="
  | neq => .symbol "!="
  | gt => .symbol ">"
  | lt => .symbol "<"
  | gte => .symbol ">="
  | lte => .symbol "<="
  | like => .word "LIKE"

def Comparison.ofLexeme? : Lexeme α → Option Comparison
  | .symbol "=" => some .eq
  | .symbol "!=" => some .neq
  | .symbol ">" => some .gt
  | .symbol "<" => some .lt
  | .symbol ">=" => some .gte
  | .symbol "<=" => some .lte
  | .word "LIKE" => some .like
  | _ => none

namespace Atom

def lexemes : Atom α → List (Lexeme α)
  | compare column comparison x => [.name column, comparison.lexeme, .operand x]
  | isIn column x xs =>
    [.name column, .word "IN", .opening] ++ operandList (x :: xs) ++ [.closing]
  | notIn column x xs =>
    [.name column, .word "NOT", .word "IN", .opening] ++ operandList (x :: xs) ++ [.closing]
  | isNull column => [.name column, .word "IS", .word "NULL"]
  | isNotNull column => [.name column, .word "IS", .word "NOT", .word "NULL"]
  | never => [.word "1", .symbol "=", .word "0"]
  | always => [.word "1", .symbol "=", .word "1"]

def read : List (Lexeme α) → Option (Atom α × List (Lexeme α))
  | .name column :: .word "IN" :: .opening :: rest => do
    let ((x, xs), rest) ← operandsToClose rest
    return (.isIn column x xs, rest)
  | .name column :: .word "NOT" :: .word "IN" :: .opening :: rest => do
    let ((x, xs), rest) ← operandsToClose rest
    return (.notIn column x xs, rest)
  | .name column :: .word "IS" :: .word "NULL" :: rest => some (.isNull column, rest)
  | .name column :: .word "IS" :: .word "NOT" :: .word "NULL" :: rest =>
    some (.isNotNull column, rest)
  | .name column :: comparison :: .operand x :: rest => do
    return (.compare column (← Comparison.ofLexeme? comparison) x, rest)
  | .word "1" :: .symbol "=" :: .word "0" :: rest => some (.never, rest)
  | .word "1" :: .symbol "=" :: .word "1" :: rest => some (.always, rest)
  | _ => none

theorem read_lexemes (a : Atom α) (rest : List (Lexeme α)) :
    read (a.lexemes ++ rest) = some (a, rest) := by
  cases a with
  | compare column comparison x => cases comparison <;> rfl
  | isIn column x xs => simp [lexemes, read, operandsToClose_operandList]
  | notIn column x xs => simp [lexemes, read, operandsToClose_operandList]
  | isNull column => rfl
  | isNotNull column => rfl
  | never => rfl
  | always => rfl

end Atom

/-! ## Formulas -/

/-- How strongly the outermost connective of a formula binds. -/
inductive Strength where
  | factor
  | conjunction
  | disjunction

-- The steps that a strength adds to those of a factor.
def Strength.extra : Strength → Nat
  | .factor => 0
  | .conjunction => 1
  | .disjunction => 2

/-- What may follow a formula of some strength: no connective that would go on with it. -/
def Strength.Ends : Strength → List (Lexeme α) → Prop
  | .factor, _ => True
  | .conjunction, rest => afterWord "AND" rest = none
  | .disjunction, rest => afterWord "AND" rest = none ∧ afterWord "OR" rest = none

inductive Formula (α : Type) : Strength → Type where
  | atom (a : Atom α) : Formula α .factor
  | group (inner : Formula α .disjunction) : Formula α .factor
  | factor (f : Formula α .factor) : Formula α .conjunction
  | and (f : Formula α .factor) (rest : Formula α .conjunction) : Formula α .conjunction
  | conjunction (c : Formula α .conjunction) : Formula α .disjunction
  | or (c : Formula α .conjunction) (rest : Formula α .disjunction) : Formula α .disjunction

namespace Formula

def holds (truth : Atom α → Bool) : {k : Strength} → Formula α k → Bool
  | _, .atom a => truth a
  | _, .group inner => inner.holds truth
  | _, .factor f => f.holds truth
  | _, .and f rest => f.holds truth && rest.holds truth
  | _, .conjunction c => c.holds truth
  | _, .or c rest => c.holds truth || rest.holds truth

/-- The factors that a formula joins by `AND`; a disjunction is one of its own. -/
def conjuncts : {k : Strength} → Formula α k → List (Formula α .factor)
  | _, .atom a => [.atom a]
  | _, .group inner => [.group inner]
  | _, .factor f => [f]
  | _, .and f rest => f :: rest.conjuncts
  | _, .conjunction c => c.conjuncts
  | _, .or c rest => [.group (.or c rest)]

def lexemes : {k : Strength} → Formula α k → List (Lexeme α)
  | _, .atom a => a.lexemes
  | _, .group inner => .opening :: inner.lexemes ++ [.closing]
  | _, .factor f => f.lexemes
  | _, .and f rest => f.lexemes ++ .word "AND" :: rest.lexemes
  | _, .conjunction c => c.lexemes
  | _, .or c rest => c.lexemes ++ .word "OR" :: rest.lexemes

/-- The formula of a strength that a text begins with, as far as the fuel lasts. -/
def readWithin : Nat → (k : Strength) → List (Lexeme α) →
    Option (Formula α k × List (Lexeme α))
  | 0, _, _ => none
  | fuel + 1, .factor, .opening :: rest => do
    let (inner, rest) ← readWithin fuel .disjunction rest
    match rest with
    | .closing :: rest => return (.group inner, rest)
    | _ => none
  | _ + 1, .factor, input => do
    let (a, rest) ← Atom.read input
    return (.atom a, rest)
  | fuel + 1, .conjunction, input => do
    let (f, rest) ← readWithin fuel .factor input
    match afterWord "AND" rest with
    | some rest => do
      let (more, rest) ← readWithin fuel .conjunction rest
      return (.and f more, rest)
    | none => return (.factor f, rest)
  | fuel + 1, .disjunction, input => do
    let (c, rest) ← readWithin fuel .conjunction input
    match afterWord "OR" rest with
    | some rest => do
      let (more, rest) ← readWithin fuel .disjunction rest
      return (.or c more, rest)
    | none => return (.conjunction c, rest)

/-- The formula that a text begins with; three steps at most are taken for one lexeme. -/
def read (input : List (Lexeme α)) : Option (Formula α .disjunction × List (Lexeme α)) :=
  readWithin (3 * input.length + 2) .disjunction input

def rank : {k : Strength} → Formula α k → Nat
  | _, .atom _ => 1
  | _, .group inner => inner.rank + 1
  | _, .factor f => f.rank + 1
  | _, .and f rest => max f.rank rest.rank + 1
  | _, .conjunction c => c.rank + 1
  | _, .or c rest => max c.rank rest.rank + 1

theorem rank_le {k : Strength} (c : Formula α k) :
    c.rank ≤ 3 * c.lexemes.length + Strength.extra k := by
  induction c with
  | atom a =>
    have positive : 0 < a.lexemes.length := by cases a <;> simp [Atom.lexemes]
    simp only [rank, lexemes, Strength.extra]
    omega
  | group inner ih =>
    simp only [rank, lexemes, Strength.extra, List.length_append, List.length_cons] at ih ⊢
    omega
  | factor f ih | conjunction c ih =>
    simp only [rank, lexemes, Strength.extra] at ih ⊢
    omega
  | and f rest ihF ihRest | or f rest ihF ihRest =>
    simp only [rank, lexemes, Strength.extra, List.length_append, List.length_cons] at ihF ihRest ⊢
    omega

theorem readWithin_lexemes {k : Strength} (c : Formula α k) (rest : List (Lexeme α))
    (ends : Strength.Ends k rest) {fuel : Nat} (enough : c.rank ≤ fuel) :
    readWithin fuel k (c.lexemes ++ rest) = some (c, rest) := by
  -- on the fuel: a formula of one strength is read through formulas of the others
  induction fuel generalizing k rest with
  | zero => cases c <;> simp [rank] at enough
  | succ fuel ih =>
    cases c with
    | atom a =>
      have noBracket : readWithin (fuel + 1) .factor (a.lexemes ++ rest) =
          (Atom.read (a.lexemes ++ rest)).bind fun (a, rest) => some (.atom a, rest) := by
        cases a <;> rfl
      rw [lexemes, noBracket, Atom.read_lexemes]
      rfl
    | group inner =>
      have read := ih inner (.closing :: rest) ⟨rfl, rfl⟩ (by simp only [rank] at enough; omega)
      simp [lexemes, readWithin, read]
    | factor f =>
      have read := ih f rest trivial (by simp only [rank] at enough; omega)
      rw [Strength.Ends] at ends
      simp [lexemes, readWithin, read, ends]
    | and f more =>
      have readF := ih f (.word "AND" :: (more.lexemes ++ rest)) trivial
        (by simp only [rank] at enough; omega)
      have readMore := ih more rest ends (by simp only [rank] at enough; omega)
      simp [lexemes, readWithin, readF, readMore, afterWord]
    | conjunction c =>
      obtain ⟨noAnd, noOr⟩ := ends
      have read := ih c rest noAnd (by simp only [rank] at enough; omega)
      simp [lexemes, readWithin, read, noOr]
    | or c more =>
      have readC := ih c (.word "OR" :: (more.lexemes ++ rest)) rfl
        (by simp only [rank] at enough; omega)
      have readMore := ih more rest ends (by simp only [rank] at enough; omega)
      simp [lexemes, readWithin, readC, readMore, afterWord]

theorem read_lexemes (c : Formula α .disjunction) (rest : List (Lexeme α))
    (ends : Strength.Ends .disjunction rest) : read (c.lexemes ++ rest) = some (c, rest) := by
  refine readWithin_lexemes c rest ends ?_
  have bound := c.rank_le
  simp only [Strength.extra, List.length_append] at bound ⊢
  omega

theorem holds_eq_conjuncts (truth : Atom α → Bool) {k : Strength} (c : Formula α k) :
    c.holds truth = c.conjuncts.all (·.holds truth) := by
  induction c with
  | atom a => simp [holds, conjuncts]
  | group inner => simp [holds, conjuncts]
  | factor f => simp [holds, conjuncts]
  | and f rest _ ih => simp [holds, conjuncts, ih]
  | conjunction c ih => simp [holds, conjuncts, ih]
  | or c rest => simp [holds, conjuncts]

/-! ### Lists of members -/

def ofFactors (f : Formula α .factor) :
    List (Formula α .factor) → Formula α .conjunction
  | [] => .factor f
  | g :: rest => .and f (ofFactors g rest)

def anyOf (f : Formula α .factor) : List (Formula α .factor) → Formula α .disjunction
  | [] => .conjunction (.factor f)
  | g :: rest => .or (.factor f) (anyOf g rest)

variable (f : Formula α .factor) (fs : List (Formula α .factor))

theorem lexemes_ofFactors :
    (ofFactors f fs).lexemes = [.word "AND"].intercalate ((f :: fs).map lexemes) := by
  induction fs generalizing f with
  | nil => simp [ofFactors, lexemes]
  | cons g fs ih => simp [ofFactors, lexemes, ih, List.intercalate_cons_cons]

theorem lexemes_anyOf :
    (anyOf f fs).lexemes = [.word "OR"].intercalate ((f :: fs).map lexemes) := by
  induction fs generalizing f with
  | nil => simp [anyOf, lexemes]
  | cons g fs ih => simp [anyOf, lexemes, ih, List.intercalate_cons_cons]

@[simp] theorem conjuncts_ofFactors : (ofFactors f fs).conjuncts = f :: fs := by
  induction fs generalizing f with
  | nil => rfl
  | cons g fs ih => simp [ofFactors, conjuncts, ih]

@[simp] theorem holds_ofFactors (truth : Atom α → Bool) :
    (ofFactors f fs).holds truth = (f :: fs).all (·.holds truth) := by
  rw [holds_eq_conjuncts, conjuncts_ofFactors]

@[simp] theorem holds_anyOf (truth : Atom α → Bool) :
    (anyOf f fs).holds truth = (f :: fs).any (·.holds truth) := by
  induction fs generalizing f with
  | nil => simp [anyOf, holds]
  | cons g fs ih => simp [anyOf, holds, ih]

end Formula

/-! ## Scopes -/

/-- The rows that a statement is about: those of a formula, or all. -/
abbrev Scope (α : Type) := Option (Formula α .disjunction)

namespace Scope

def conjuncts : Scope α → List (Formula α .factor)
  | none => []
  | some c => c.conjuncts

def holds (truth : Atom α → Bool) : Scope α → Bool
  | none => true
  | some c => c.holds truth

def ofFactors : List (Formula α .factor) → Scope α
  | [] => none
  | f :: fs => some (.conjunction (Formula.ofFactors f fs))

def lexemes : Scope α → List (Lexeme α)
  | none => []
  | some c => .word "WHERE" :: c.lexemes

def read (input : List (Lexeme α)) : Option (Scope α × List (Lexeme α)) :=
  match afterWord "WHERE" input with
  | some rest => (Formula.read rest).map fun (c, rest) => (some c, rest)
  | none => some (none, input)

def ofText (d : Dialect) (text : String) (params : List α) : Option (Scope α) := do
  let (scope, rest) ← read (← Lexeme.ofText d text params)
  if rest.isEmpty then return scope else none

theorem holds_eq_conjuncts (truth : Atom α → Bool) (scope : Scope α) :
    scope.holds truth = scope.conjuncts.all (·.holds truth) := by
  cases scope with
  | none => rfl
  | some c => exact c.holds_eq_conjuncts truth

@[simp] theorem conjuncts_ofFactors (fs : List (Formula α .factor)) :
    (ofFactors fs).conjuncts = fs := by
  cases fs <;> simp [ofFactors, conjuncts, Formula.conjuncts]

@[simp] theorem holds_ofFactors (truth : Atom α → Bool) (fs : List (Formula α .factor)) :
    (ofFactors fs).holds truth = fs.all (·.holds truth) := by
  rw [holds_eq_conjuncts, conjuncts_ofFactors]

def Ends (rest : List (Lexeme α)) : Prop :=
  afterWord "WHERE" rest = none ∧ Strength.Ends .disjunction rest

theorem read_lexemes (scope : Scope α) (rest : List (Lexeme α)) (ends : Ends rest) :
    read (scope.lexemes ++ rest) = some (scope, rest) := by
  obtain ⟨noWhere, ends⟩ := ends
  cases scope with
  | none => simp [lexemes, read, noWhere]
  | some c => simp [lexemes, read, afterWord, Formula.read_lexemes c rest ends]

end Scope

end ScopedSql
