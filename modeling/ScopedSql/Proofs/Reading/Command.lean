import ScopedSql.Proofs.Reading.Formula
import ScopedSql.Vocabulary

/-! Statements on rows and how they are read from lexemes.

A command says what is to be done, to which rows and with which values, without a word of how it is
written. Writing a command out and reading it again gives the same command.
-/

set_option autoImplicit false

namespace ScopedSql

open Lexeme

variable {α : Type}

inductive Projection where
  | everything
  | number
  | columns (first : List String) (rest : List (List String))
  deriving DecidableEq, Repr

/-- A statement on rows, over what stands for its bound values. -/
inductive Command (α : Type) where
  | select (shown : Projection) (table : List String) (scope : Scope α)
      (order : List (List String × SortDirection)) (limit offset : Option Int)
  | insert (table : List String) (row : List (List String × α)) (returned : Bool)
  | update (table : List String) (changes : List (List String × α)) (scope : Scope α)
  | delete (table : List String) (scope : Scope α)

/-! ## Parts -/

namespace Lexeme

def name? : List (Lexeme α) → Option (List String × List (Lexeme α))
  | .name segments :: rest => some (segments, rest)
  | _ => none

def assignment? : List (Lexeme α) → Option ((List String × α) × List (Lexeme α))
  | .name column :: .symbol "=" :: .operand x :: rest => some ((column, x), rest)
  | _ => none

def orderTerm? : List (Lexeme α) → Option ((List String × SortDirection) × List (Lexeme α))
  | .name column :: .word "ASC" :: rest => some ((column, .ascending), rest)
  | .name column :: .word "DESC" :: rest => some ((column, .descending), rest)
  | _ => none

def natural? (digits : String) : Option Nat :=
  if digits.toList ≠ [] ∧ digits.toList.all Char.isDigit then
    some (Nat.ofDigitChars 10 digits.toList 0)
  else none

def numeral? : List (Lexeme α) → Option (Int × List (Lexeme α))
  | .word digits :: rest => (natural? digits).map fun n => (Int.ofNat n, rest)
  | .symbol "-" :: .word digits :: rest => (natural? digits).map fun n => (-Int.ofNat n, rest)
  | _ => none

def numeralAfter (keyword : String) (input : List (Lexeme α)) :
    Option (Option Int × List (Lexeme α)) :=
  match afterWord keyword input with
  | some rest => (numeral? rest).map fun (n, rest) => (some n, rest)
  | none => some (none, input)

def returned? : List (Lexeme α) → Option Bool
  | [] => some false
  | [.word "RETURNING", .symbol "*"] => some true
  | _ => none

def nameList (names : List (List String)) : List (Lexeme α) :=
  [.comma].intercalate (names.map fun segments => [.name segments])

def ofAssignment (change : List String × α) : List (Lexeme α) :=
  [.name change.1, .symbol "=", .operand change.2]

def ofOrderTerm (term : List String × SortDirection) : List (Lexeme α) :=
  [.name term.1, .word term.2.word]

def ofNumeral : Int → List (Lexeme α)
  | .ofNat n => [.word (Nat.repr n)]
  | .negSucc n => [.symbol "-", .word (Nat.repr (n + 1))]

def ofNumeralAfter (keyword : String) : Option Int → List (Lexeme α)
  | none => []
  | some n => .word keyword :: ofNumeral n

def ofReturned (returned : Bool) : List (Lexeme α) :=
  if returned then [.word "RETURNING", .symbol "*"] else []

theorem returned?_ofReturned (returned : Bool) :
    returned? (ofReturned (α := α) returned) = some returned := by
  cases returned <;> rfl

theorem natural?_repr (n : Nat) : natural? (Nat.repr n) = some n := by
  have digits : ∀ c ∈ Nat.toDigits 10 n, c.isDigit := fun c member =>
    Nat.isDigit_of_mem_toDigits (by decide) (by decide) member
  have written : (Nat.repr n).toList ≠ [] ∧ (Nat.repr n).toList.all Char.isDigit := by
    rw [Nat.toList_repr]
    exact ⟨Nat.toDigits_ne_nil, List.all_eq_true.mpr digits⟩
  rw [natural?, if_pos written, Nat.toList_repr, Nat.ofDigitChars_ten_toDigits]

theorem numeral?_ofNumeral (n : Int) (rest : List (Lexeme α)) :
    numeral? (ofNumeral n ++ rest) = some (n, rest) := by
  cases n with
  | ofNat n =>
    show (natural? (Nat.repr n)).map (fun n => (Int.ofNat n, rest)) = _
    rw [natural?_repr]
    rfl
  | negSucc n =>
    show (natural? (Nat.repr (n + 1))).map (fun n => (-Int.ofNat n, rest)) = _
    rw [natural?_repr]
    rfl

theorem numeralAfter_ofNumeralAfter (keyword : String) (n : Option Int) (rest : List (Lexeme α))
    (ends : afterWord keyword rest = none) :
    numeralAfter keyword (ofNumeralAfter keyword n ++ rest) = some (n, rest) := by
  cases n with
  | none => simp [ofNumeralAfter, numeralAfter, ends]
  | some n => simp [ofNumeralAfter, numeralAfter, afterWord, numeral?_ofNumeral]

end Lexeme

namespace Projection

def lexemes : Projection → List (Lexeme α)
  | everything => [.symbol "*"]
  | number => [.word "COUNT", .opening, .symbol "*", .closing, .word "as", .word "count"]
  | columns first rest => nameList (first :: rest)

def read : List (Lexeme α) → Option (Projection × List (Lexeme α))
  | .symbol "*" :: rest => some (.everything, rest)
  | .word "COUNT" :: .opening :: .symbol "*" :: .closing :: .word "as" :: .word "count" :: rest =>
    some (.number, rest)
  | input => do
    let ((first, more), rest) ← list name? input
    return (.columns first more, rest)

theorem read_lexemes (shown : Projection) (rest : List (Lexeme α))
    (ends : rest.head? ≠ some .comma) : read (shown.lexemes ++ rest) = some (shown, rest) := by
  cases shown with
  | everything => rfl
  | number => rfl
  | columns first more =>
    have names := list_intercalate (α := α) name? (fun segments => [.name segments])
      (fun _ _ => rfl) first more rest ends
    have noKeyword : read (nameList (first :: more) ++ rest) =
        (list name? (nameList (first :: more) ++ rest)).bind fun ((first, more), rest) =>
          some (.columns first more, rest) := by
      cases more <;> rfl
    rw [lexemes, noKeyword, nameList, names]
    rfl

end Projection

def Lexeme.ordering? (input : List (Lexeme α)) :
    Option (List (List String × SortDirection) × List (Lexeme α)) :=
  match (afterWord "ORDER" input).bind (afterWord "BY") with
  | some rest => do
    let ((first, more), rest) ← list orderTerm? rest
    return (first :: more, rest)
  | none => some ([], input)

def Lexeme.ofOrdering : List (List String × SortDirection) → List (Lexeme α)
  | [] => []
  | terms => [.word "ORDER", .word "BY"] ++ [.comma].intercalate (terms.map ofOrderTerm)

namespace Command

/-- The rows that a command is about; a new row is about none that are there. -/
def scope : Command α → Scope α
  | select _ _ scope _ _ _ => scope
  | insert .. => none
  | update _ _ scope => scope
  | delete _ scope => scope

def lexemes : Command α → List (Lexeme α)
  | select shown table scope order limit offset =>
    [.word "SELECT"] ++ shown.lexemes ++ [.word "FROM", .name table] ++ scope.lexemes ++
      ofOrdering order ++ ofNumeralAfter "LIMIT" limit ++ ofNumeralAfter "OFFSET" offset
  | insert table row returned =>
    [.word "INSERT", .word "INTO", .name table, .opening] ++ nameList (row.map (·.1)) ++
      [.closing, .word "VALUES", .opening] ++ operandList (row.map (·.2)) ++ [.closing] ++
      ofReturned returned
  | update table changes scope =>
    [.word "UPDATE", .name table, .word "SET"] ++
      [.comma].intercalate (changes.map ofAssignment) ++ scope.lexemes
  | delete table scope => [.word "DELETE", .word "FROM", .name table] ++ scope.lexemes

def whole {β : Type} (c : β) (rest : List (Lexeme α)) : Option β :=
  if rest.isEmpty then some c else none

def readSelect (input : List (Lexeme α)) : Option (Command α) := do
  let (shown, rest) ← Projection.read input
  let (table, rest) ← name? (← afterWord "FROM" rest)
  let (scope, rest) ← Scope.read rest
  let (order, rest) ← ordering? rest
  let (limit, rest) ← numeralAfter "LIMIT" rest
  let (offset, rest) ← numeralAfter "OFFSET" rest
  whole (.select shown table scope order limit offset) rest

-- There is a value for each column.
def readInsert (table : List String) (input : List (Lexeme α)) : Option (Command α) := do
  let ((column, columns), rest) ← list name? input
  match rest with
  | .closing :: .word "VALUES" :: .opening :: rest =>
    let ((x, xs), rest) ← operandsToClose rest
    if columns.length = xs.length then
      return .insert table ((column, x) :: columns.zip xs) (← returned? rest)
    else none
  | _ => none

def readUpdate (table : List String) (input : List (Lexeme α)) : Option (Command α) := do
  let ((first, more), rest) ← list assignment? input
  let (scope, rest) ← Scope.read rest
  whole (.update table (first :: more) scope) rest

def read : List (Lexeme α) → Option (Command α)
  | .word "SELECT" :: rest => readSelect rest
  | .word "INSERT" :: .word "INTO" :: .name table :: .opening :: rest => readInsert table rest
  | .word "UPDATE" :: .name table :: .word "SET" :: rest => readUpdate table rest
  | .word "DELETE" :: .word "FROM" :: .name table :: rest => do
    let (scope, rest) ← Scope.read rest
    whole (.delete table scope) rest
  | _ => none

def ofText (d : Dialect) (text : String) (params : List α) : Option (Command α) :=
  (Lexeme.ofText d text params).bind read

/-- A row that is written has a column. -/
def HasColumns : Command α → Prop
  | insert _ row _ => row ≠ []
  | update _ changes _ => changes ≠ []
  | select .. | delete .. => True

/-! ## Reading what was written -/

-- A text that is empty or begins with one of these keywords.
def Opens (keywords : List String) : List (Lexeme α) → Prop
  | [] => True
  | .word letters :: _ => letters ∈ keywords
  | _ => False

section Opens

variable {keywords : List String} {rest : List (Lexeme α)}

theorem Opens.afterWord (opens : Opens keywords rest) {letters : String}
    (absent : letters ∉ keywords) : Lexeme.afterWord letters rest = none := by
  match rest, opens with
  | [], _ => rfl
  | .word other :: rest, among =>
    have different : other ≠ letters := fun same => absent (same ▸ among)
    simp [Lexeme.afterWord, different]

theorem Opens.noComma (opens : Opens keywords rest) : rest.head? ≠ some .comma := by
  match rest, opens with
  | [], _ => simp
  | .word other :: rest, _ => simp

theorem Opens.nothing : Opens (α := α) [] [] := trivial

theorem Opens.widen (opens : Opens keywords rest) (keyword : String) :
    Opens (keyword :: keywords) rest := by
  match rest, opens with
  | [], _ => trivial
  | .word other :: rest, among => exact List.mem_cons_of_mem _ among

theorem Opens.scopeEnds (opens : Opens keywords rest)
    (absent : "WHERE" ∉ keywords ∧ "AND" ∉ keywords ∧ "OR" ∉ keywords) : Scope.Ends rest :=
  ⟨opens.afterWord absent.1, opens.afterWord absent.2.1, opens.afterWord absent.2.2⟩

theorem Opens.scope (opens : Opens keywords rest) (scope : Scope α) :
    Opens ("WHERE" :: keywords) (scope.lexemes ++ rest) := by
  cases scope with
  | none => exact opens.widen _
  | some c => exact List.mem_cons_self

theorem Opens.numeral (opens : Opens keywords rest) (keyword : String) (n : Option Int) :
    Opens (keyword :: keywords) (ofNumeralAfter keyword n ++ rest) := by
  cases n with
  | none => exact opens.widen _
  | some n => exact List.mem_cons_self

theorem Opens.ordering (opens : Opens keywords rest)
    (order : List (List String × SortDirection)) :
    Opens ("ORDER" :: keywords) (ofOrdering order ++ rest) := by
  cases order with
  | nil => exact opens.widen _
  | cons first more => exact List.mem_cons_self

end Opens

theorem ordering?_ofOrdering (order : List (List String × SortDirection))
    {rest : List (Lexeme α)} (ends : afterWord "ORDER" rest = none)
    (noComma : rest.head? ≠ some .comma) :
    ordering? (ofOrdering order ++ rest) = some (order, rest) := by
  cases order with
  | nil => simp [ofOrdering, ordering?, ends]
  | cons first more =>
    have reads : ∀ (term : List String × SortDirection) (rest : List (Lexeme α)),
        orderTerm? (ofOrderTerm term ++ rest) = some (term, rest) := by
      rintro ⟨column, direction⟩ rest
      cases direction <;> rfl
    have terms := list_intercalate orderTerm? ofOrderTerm reads first more rest noComma
    rw [List.map_cons] at terms
    simp [ofOrdering, ordering?, afterWord, terms]

theorem read_select (shown : Projection) (table : List String) (scope : Scope α)
    (order : List (List String × SortDirection)) (limit offset : Option Int) :
    read (select shown table scope order limit offset).lexemes =
      some (.select shown table scope order limit offset) := by
  let page := ofNumeralAfter (α := α) "LIMIT" limit ++ ofNumeralAfter "OFFSET" offset
  have opensOffset := (Opens.nothing (α := α)).numeral "OFFSET" offset
  have opensPage := opensOffset.numeral "LIMIT" limit
  have opensOrder := opensPage.ordering order
  rw [List.append_nil] at opensOffset opensPage opensOrder
  have readShown := Projection.read_lexemes (α := α) shown
    (.word "FROM" :: .name table :: (scope.lexemes ++ (ofOrdering order ++ page))) (by simp)
  have readScope := Scope.read_lexemes scope _ (opensOrder.scopeEnds (by decide))
  have readOrder := ordering?_ofOrdering order (opensPage.afterWord (by decide)) opensPage.noComma
  have readLimit := numeralAfter_ofNumeralAfter "LIMIT" limit _ (opensOffset.afterWord (by decide))
  have readOffset := numeralAfter_ofNumeralAfter (α := α) "OFFSET" offset [] rfl
  rw [List.append_nil] at readOffset
  have flat : (select shown table scope order limit offset).lexemes = .word "SELECT" ::
      (shown.lexemes ++ .word "FROM" :: .name table ::
        (scope.lexemes ++ (ofOrdering order ++ page))) := by
    simp [lexemes, page]
  rw [flat, read, readSelect, readShown]
  simp [afterWord, name?, readScope, readOrder, readLimit, readOffset, page, whole]

theorem read_insert (table : List String) (column : List String × α)
    (more : List (List String × α)) (returned : Bool) :
    read (insert table (column :: more) returned).lexemes =
      some (.insert table (column :: more) returned) := by
  let values := operandList (column.2 :: more.map (·.2)) ++ .closing :: ofReturned returned
  have names := list_intercalate (α := α) name? (fun segments => [.name segments])
    (fun _ _ => rfl) column.1 (more.map (·.1))
    (.closing :: .word "VALUES" :: .opening :: values) (by simp)
  have operands : operandsToClose values =
      some ((column.2, more.map (·.2)), ofReturned returned) :=
    operandsToClose_operandList column.2 (more.map (·.2)) (ofReturned returned)
  have row : (more.map (·.1)).zip (more.map (·.2)) = more := by simp [List.zip_map']
  have flat : (insert table (column :: more) returned).lexemes =
      .word "INSERT" :: .word "INTO" :: .name table :: .opening ::
        (nameList (column.1 :: more.map (·.1)) ++
          .closing :: .word "VALUES" :: .opening :: values) := by
    simp [lexemes, values]
  rw [flat, read, readInsert, nameList, names]
  simp [operands, row, returned?_ofReturned]

theorem read_update (table : List String) (change : List String × α)
    (more : List (List String × α)) (scope : Scope α) :
    read (update table (change :: more) scope).lexemes =
      some (.update table (change :: more) scope) := by
  have opensScope := Opens.nothing.scope scope
  have changes := list_intercalate assignment? ofAssignment (fun _ _ => rfl)
    change more _ opensScope.noComma
  have readScope := Scope.read_lexemes scope _ (Opens.nothing.scopeEnds (by decide))
  rw [List.append_nil] at changes readScope
  rw [lexemes, List.append_assoc, List.cons_append, List.cons_append, List.cons_append,
    List.nil_append, read, readUpdate, changes]
  simp [readScope, whole]

theorem read_delete (table : List String) (scope : Scope α) :
    read (delete table scope).lexemes = some (.delete table scope) := by
  have readScope := Scope.read_lexemes scope _ (Opens.nothing.scopeEnds (by decide))
  rw [List.append_nil] at readScope
  simp [lexemes, read, readScope, whole]

theorem read_lexemes (command : Command α) (written : command.HasColumns) :
    read command.lexemes = some command := by
  cases command with
  | select shown table scope order limit offset =>
    exact read_select shown table scope order limit offset
  | insert table row returned =>
    obtain ⟨first, more, rfl⟩ := List.exists_cons_of_ne_nil written
    exact read_insert table first more returned
  | update table changes scope =>
    obtain ⟨first, more, rfl⟩ := List.exists_cons_of_ne_nil written
    exact read_update table first more scope
  | delete table scope => exact read_delete table scope

end Command

end ScopedSql
