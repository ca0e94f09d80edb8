import ScopedSql.Proofs.Keys
import ScopedSql.Proofs.Number.Numeral
import ScopedSql.Proofs.Reading.Separation
import ScopedSql.Proofs.Traffic.Regions

/-! Rendered text with its placeholders named.

The search for placeholders goes through a rendered text piece by piece: fixed text and quoted names
are kept as they are, and each bound value has the next name in the place of its placeholder. So
the text with names depends on a dialect by its quotes only.
-/

set_option autoImplicit false

namespace ScopedSql.NamedBinds

open Sql

variable {d : Dialect} {cs rest : List Char}

/-! ## Text that is kept -/

theorem kept_inert (inert : cs.all isInert) : Kept cs := by
  refine kept_ordinary fun c member => ?_
  have inert : isInert c := List.all_eq_true.mp inert c member
  simp only [isInert, Lexeme.isPlaceholderSign, Bool.and_eq_true, Bool.not_eq_true',
    Bool.or_eq_false_iff, decide_eq_true_eq, decide_eq_false_iff_not] at inert
  obtain ⟨⟨⟨⟨single, double⟩, back⟩, -⟩, mark, sign⟩ := inert
  simp [isOrdinary, single, double, back, mark, sign]

theorem kept_quotedSegment {segment : String} (valid : Identifier.isSegment segment) :
    Kept (Scan.quotedSegment d segment) := by
  have absent : d.quoteChar ∉ segment.toList := fun member =>
    Scan.ne_quoteChar (Identifier.isRest_of_mem valid member) rfl
  cases d with
  | mysql => exact kept_backticked absent
  | postgres | sqlite =>
    have region := kept_quoted (.inr rfl) segment.toList
    have plain : Quoting.doubled '"' segment.toList = segment.toList :=
      Quoting.doubled_of_absent absent
    rw [plain] at region
    exact region

theorem kept_quote (n : Identifier) : Kept (d.quote n).toList := by
  have dot : Kept ['.'] := kept_ordinary (by simp [isOrdinary])
  rw [Scan.quote_toList]
  refine dot.intercalate fun part member => ?_
  obtain ⟨segment, among, rfl⟩ := List.mem_map.mp member
  exact kept_quotedSegment (List.all_eq_true.mp n.wellFormed segment among)

/-! ## Numbers of placeholders -/

theorem marksFrom_dropped (cs rest : List Char) :
    marksFrom 0 cs.length (cs ++ rest) = marksFrom 0 0 rest := by
  induction cs with
  | nil => rfl
  | cons c cs ih => rw [List.length_cons, List.cons_append, marksFrom, ih]

theorem leadingDigits_decimal {digits : List Char} (decimal : ∀ c ∈ digits, Text.isDecimal c)
    (follows : ∀ c ∈ rest.head?, Text.isDecimal c = false) :
    leadingDigits (digits ++ rest) = digits.map Text.digitWorth := by
  induction digits with
  | nil =>
    cases rest with
    | nil => rfl
    | cons c rest =>
      have none : Text.decimalValue? c = none :=
        Option.isNone_iff_eq_none.mp (Option.isSome_eq_false_iff.mp (follows c rfl))
      simp [leadingDigits, none]
  | cons c digits ih =>
    obtain ⟨digit, decimal⟩ := List.forall_mem_cons.mp decimal
    simp [leadingDigits, Text.decimalValue?_eq_some digit, ih decimal]

theorem marksFrom_numbered {digits : List Char} (nonempty : digits ≠ [])
    (decimal : ∀ c ∈ digits, Text.isDecimal c)
    (follows : ∀ c ∈ rest.head?, Text.isDecimal c = false) :
    marksFrom 0 0 ('$' :: (digits ++ rest)) =
      .numbered (digits.map Text.digitWorth) :: marksFrom 0 0 rest := by
  have read := leadingDigits_decimal decimal follows
  have dropped := marksFrom_dropped digits rest
  obtain ⟨first, more, rfl⟩ := List.exists_cons_of_ne_nil nonempty
  rw [marksFrom, if_neg (by decide), if_pos rfl, read]
  simpa using dropped

theorem not_isDecimal_of_isDelimiter {c : Char} (delimiter : Scan.isDelimiter c) :
    Text.isDecimal c = false := by
  rcases (by simpa [Scan.isDelimiter, or_assoc] using delimiter : c = ' ' ∨ c = ')' ∨ c = ',')
    with rfl | rfl | rfl <;> decide

theorem digitWorth_of_isDigit {c : Char} (digit : c.isDigit) :
    Text.digitWorth c = c.toNat - '0'.toNat := by
  rw [Text.digitWorth, Numeral.decimalValue?_digit digit]
  rfl

theorem numberOf_toDigits (n : Nat) :
    numberOf ((Nat.toDigits 10 n).map fun c => c.toNat - '0'.toNat) = n := by
  have read : Nat.ofDigitChars 10 (Nat.toDigits 10 n) 0 = n := Nat.ofDigitChars_ten_toDigits
  rw [numberOf, List.foldl_map]
  exact read

/-! ## Rendered pieces -/

def markAt : Dialect → Nat → Mark
  | .postgres, position =>
    .numbered ((Nat.toDigits 10 (position + 1)).map fun c => c.toNat - '0'.toNat)
  | .mysql, _ | .sqlite, _ => .next

def marksOf (d : Dialect) : Nat → Sql → List Mark
  | _, [] => []
  | position, .text t :: rest => t.toList.map .kept ++ marksOf d position rest
  | position, .name n :: rest => (d.quote n).toList.map .kept ++ marksOf d position rest
  | position, .bound _ :: rest => markAt d position :: marksOf d (position + 1) rest

def namedOf (d : Dialect) : Nat → Sql → List Char
  | _, [] => []
  | position, .text t :: rest => t.toList ++ namedOf d position rest
  | position, .name n :: rest => (d.quote n).toList ++ namedOf d position rest
  | position, .bound _ :: rest => reference position ++ namedOf d (position + 1) rest

section

variable {first last : Edge} {sql : Sql}

theorem head?_append {p : Char → Bool} (begins : cs.head?.any p) (more : List Char) :
    (cs ++ more).head?.all p := by
  cases cs with
  | nil => cases begins
  | cons c cs => exact begins

-- After a loose edge a text goes on with a delimiter, if it goes on.
theorem delimited_render (apart : Apart .loose last sql) (position : Nat) :
    (sql.render d position).toList.head?.all Scan.isDelimiter := by
  cases apart with
  | nil _ => rfl
  | delimited _ begins _ =>
    rw [render, String.toList_append]
    exact head?_append begins _

theorem delimited_namedOf (apart : Apart .loose last sql) (position : Nat) :
    (namedOf d position sql).head?.all Scan.isDelimiter := by
  cases apart with
  | nil _ => rfl
  | delimited _ begins _ =>
    rw [namedOf]
    exact head?_append begins _

theorem marksFrom_placeholder (position : Nat) (follows : rest.head?.all Scan.isDelimiter) :
    marksFrom 0 0 ((d.placeholder position).toList ++ rest) =
      markAt d position :: marksFrom 0 0 rest := by
  cases d with
  | postgres =>
    have digits : ∀ c ∈ Nat.toDigits 10 (position + 1), c.isDigit := fun c member =>
      Sql.isDigit_of_mem_repr member
    have decimal : ∀ c ∈ Nat.toDigits 10 (position + 1), Text.isDecimal c := fun c member =>
      Numeral.isDecimal_of_isDigit (digits c member)
    have ends : ∀ c ∈ rest.head?, Text.isDecimal c = false := fun c head => by
      rw [head] at follows
      exact not_isDecimal_of_isDelimiter follows
    rw [placeholder_postgres, List.cons_append, marksFrom_numbered Nat.toDigits_ne_nil decimal ends,
      markAt, List.map_congr_left fun c member => digitWorth_of_isDigit (digits c member)]
  | mysql | sqlite =>
    have mark : "?".toList = ['?'] := rfl
    rw [Dialect.placeholder, mark, List.singleton_append, marksFrom, if_pos rfl, markAt]

theorem marksFrom_render (apart : Apart first last sql) (position : Nat) :
    marksFrom 0 0 (sql.render d position).toList = marksOf d position sql := by
  induction apart generalizing position with
  | nil _ => rfl
  | text inert _ ih | delimited inert _ _ ih =>
    rw [render, String.toList_append, kept_inert inert, ih, marksOf]
  | name _ ih => rw [render, String.toList_append, kept_quote, ih, marksOf]
  | @bound _ x rest tail ih =>
    rw [render, String.toList_append, marksFrom_placeholder position (delimited_render tail _), ih,
      marksOf]

theorem textFrom_kept (seen : Nat) (cs : List Char) (marks : List Mark) :
    textFrom seen (cs.map .kept ++ marks) = cs ++ textFrom seen marks := by
  induction cs with
  | nil => rfl
  | cons c cs ih => rw [List.map_cons, List.cons_append, textFrom, ih, List.cons_append]

/-- In each of the three forms of a placeholder a bound value has the name of its position. -/
theorem textFrom_marksOf {seen position : Nat} (counted : d = .postgres ∨ seen = position)
    (sql : Sql) : textFrom seen (marksOf d position sql) = namedOf d position sql := by
  induction sql generalizing seen position with
  | nil => rfl
  | cons piece rest ih =>
    cases piece with
    | text t => rw [marksOf, textFrom_kept, ih counted, namedOf]
    | name n => rw [marksOf, textFrom_kept, ih counted, namedOf]
    | bound x =>
      rw [marksOf, namedOf]
      cases d with
      | postgres =>
        have number : ((position + 1 : Nat) : Int) - 1 = position := by omega
        rw [markAt, textFrom, numberOf_toDigits, number, ih (.inl rfl)]
      | mysql | sqlite =>
        obtain rfl : seen = position := by
          rcases counted with other | same
          · cases other
          · exact same
        rw [markAt, textFrom, ih (.inr rfl)]

end

/-! ## Numbers that can be read -/

/-- Whether the numbers of so many placeholders are short enough to be read, where they have
numbers. -/
def readsAll (d : Dialect) (count : Nat) : Bool :=
  match d with
  | .postgres => decide (count < 10 ^ Numeral.digitLimit)
  | .mysql | .sqlite => true

theorem isReadable_markAt (position : Nat) :
    (markAt .postgres position).isReadable = decide (position + 1 < 10 ^ Numeral.digitLimit) := by
  have limit : 0 < Numeral.digitLimit := by decide
  rw [markAt, Mark.isReadable, List.length_map, decide_eq_decide]
  exact Nat.length_toDigits_le_iff (by decide) limit

theorem all_isReadable_kept (cs : List Char) : (cs.map Mark.kept).all Mark.isReadable := by
  simp [Mark.isReadable]

theorem all_isReadable_unnumbered (unnumbered : d ≠ .postgres) (position : Nat) (sql : Sql) :
    (marksOf d position sql).all Mark.isReadable := by
  induction sql generalizing position with
  | nil => rfl
  | cons piece rest ih =>
    cases piece with
    | text t => rw [marksOf, List.all_append, all_isReadable_kept, ih, Bool.and_self]
    | name n => rw [marksOf, List.all_append, all_isReadable_kept, ih, Bool.and_self]
    | bound x =>
      rw [marksOf, List.all_cons, ih, Bool.and_true]
      cases d with
      | postgres => exact absurd rfl unnumbered
      | mysql | sqlite => rfl

theorem all_isReadable_postgres {position : Nat} (short : position < 10 ^ Numeral.digitLimit)
    (sql : Sql) :
    (marksOf .postgres position sql).all Mark.isReadable =
      decide (position + sql.values.length < 10 ^ Numeral.digitLimit) := by
  induction sql generalizing position with
  | nil => simpa [marksOf, values] using short
  | cons piece rest ih =>
    cases piece with
    | text t =>
      rw [marksOf, List.all_append, all_isReadable_kept, Bool.true_and, ih short, values]
    | name n =>
      rw [marksOf, List.all_append, all_isReadable_kept, Bool.true_and, ih short, values]
    | bound x =>
      rw [marksOf, List.all_cons, isReadable_markAt, values, List.length_cons]
      by_cases next : position + 1 < 10 ^ Numeral.digitLimit
      · rw [decide_eq_true next, Bool.true_and, ih next, Nat.add_right_comm, Nat.add_assoc]
      · -- the placeholder here cannot be read, so the last one cannot either
        have later : ¬position + ((values rest).length + 1) < 10 ^ Numeral.digitLimit := by omega
        rw [decide_eq_false next, Bool.false_and, decide_eq_false later]

theorem all_isReadable_marksOf (d : Dialect) (sql : Sql) :
    (marksOf d 0 sql).all Mark.isReadable = readsAll d sql.values.length := by
  cases d with
  | postgres =>
    have short : 0 < 10 ^ Numeral.digitLimit := Nat.pow_pos (by decide)
    rw [all_isReadable_postgres short, Nat.zero_add, readsAll]
  | mysql | sqlite => exact all_isReadable_unnumbered (by decide) 0 sql

/-- A statement of pieces that keep apart has its text with names, if its numbers can be read. -/
theorem ofStatement_render {last : Edge} {sql : Sql} (apart : Apart .clear last sql)
    (d : Dialect) :
    ofStatement (sql.render d 0) sql.values =
      if readsAll d sql.values.length then
        .ok (String.ofList (namedOf d 0 sql), bindsFrom 0 sql.values)
      else Value.misused .unreadable := by
  rw [ofStatement, named, marks, marksFrom_render apart, all_isReadable_marksOf,
    textFrom_marksOf (.inr rfl)]
  split
  · rfl
  · rfl

/-! ## Names of binds -/

/-- The names behind the colons of a text, as far as word characters go. -/
def bindNames (isWord : Char → Bool) : List Char → List String
  | [] => []
  | c :: rest =>
    if c = ':' then String.ofList (rest.takeWhile isWord) :: bindNames isWord rest
    else bindNames isWord rest

section

variable {isWord : Char → Bool}

theorem bindNames_append (free : ∀ c ∈ cs, c ≠ ':') (rest : List Char) :
    bindNames isWord (cs ++ rest) = bindNames isWord rest := by
  induction cs with
  | nil => rfl
  | cons c cs ih =>
    have head : c ≠ ':' := free c (by simp)
    rw [List.cons_append, bindNames, if_neg head, ih fun c member => free c (by simp [member])]

theorem bindName_toList (position : Nat) :
    (bindName position).toList = 'p' :: Nat.toDigits 10 position := by
  have number : toString (position : Int) = toString position := rfl
  simp [bindName, number]

theorem isRest_of_mem_bindName {position : Nat} {c : Char}
    (member : c ∈ (bindName position).toList) : Identifier.isRest c := by
  rw [bindName_toList] at member
  rcases List.mem_cons.mp member with rfl | digit
  · rfl
  · exact Sql.isRest_of_mem_repr digit

theorem bindNames_reference (letters : ∀ c, Identifier.isRest c → isWord c)
    (delimiters : ∀ c, Scan.isDelimiter c → isWord c = false) (position : Nat)
    (follows : rest.head?.all Scan.isDelimiter) :
    bindNames isWord (reference position ++ rest) = bindName position :: bindNames isWord rest := by
  have word : ∀ c ∈ (bindName position).toList, isWord c := fun c member =>
    letters c (isRest_of_mem_bindName member)
  have ends : rest.takeWhile isWord = [] := by
    cases rest with
    | nil => rfl
    | cons c rest =>
      have other := delimiters c (by simpa using follows)
      simp [other]
  have free : ∀ c ∈ (bindName position).toList, c ≠ ':' := by
    rintro c member rfl
    cases isRest_of_mem_bindName member
  rw [reference, List.cons_append, bindNames, if_pos rfl, List.takeWhile_append_of_pos word, ends,
    List.append_nil, String.ofList_toList, bindNames_append free]

theorem bindNames_namedOf (letters : ∀ c, Identifier.isRest c → isWord c)
    (delimiters : ∀ c, Scan.isDelimiter c → isWord c = false) {first last : Edge} {sql : Sql}
    (apart : Apart first last sql) (position : Nat) :
    bindNames isWord (namedOf d position sql) =
      (List.range' position sql.values.length).map fun k : Nat => bindName k := by
  induction apart generalizing position with
  | nil _ => rfl
  | @text _ t _ inert _ ih | @delimited _ t _ inert _ _ ih =>
    have free : ∀ c ∈ t.toList, c ≠ ':' := by
      rintro c member rfl
      cases List.all_eq_true.mp inert ':' member
    rw [namedOf, bindNames_append free, ih, values]
  | @name _ n _ _ ih =>
    have free : ∀ c ∈ (d.quote n).toList, c ≠ ':' := by
      rintro c member rfl
      rcases mem_quote member with dot | quote | letter
      · cases dot
      · cases d <;> cases quote
      · cases letter
    rw [namedOf, bindNames_append free, ih, values]
  | bound tail ih =>
    rw [namedOf, bindNames_reference letters delimiters position (delimited_namedOf tail _), ih,
      values, List.length_cons, List.range'_succ, List.map_cons]

end

/-! ## Values of binds -/

theorem bindName_injective {i k : Nat} (same : bindName i = bindName k) : i = k := by
  have characters := congrArg String.toList same
  rw [bindName_toList, bindName_toList, List.cons.injEq] at characters
  have read : ∀ n, Nat.ofDigitChars 10 (Nat.toDigits 10 n) 0 = n := fun n =>
    Nat.ofDigitChars_ten_toDigits
  rw [← read i, characters.2, read k]

theorem keys_bindsFrom (position : Nat) (xs : List Value) :
    (bindsFrom position xs).map (·.1) =
      (List.range' position xs.length).map fun k : Nat => .text (bindName k) := by
  induction xs generalizing position with
  | nil => rfl
  | cons x xs ih =>
    rw [bindsFrom, List.map_cons, ih, List.length_cons, List.range'_succ, List.map_cons]

theorem at?_bindsFrom (xs : List Value) (position i : Nat) :
    Dict.at? (bindsFrom position xs) (bindName (position + i : Nat)) = xs[i]? := by
  induction xs generalizing position i with
  | nil => rfl
  | cons x xs ih =>
    cases i with
    | zero => rw [bindsFrom, Dict.at?_cons_text, Nat.add_zero, if_pos rfl, List.getElem?_cons_zero]
    | succ i =>
      -- a later value has another name
      have other : bindName position ≠ bindName (position + (i + 1) : Nat) := by
        intro same
        have := bindName_injective same
        omega
      have position_eq : position + (i + 1) = position + 1 + i := by omega
      rw [bindsFrom, Dict.at?_cons_text, if_neg other, position_eq, ih, List.getElem?_cons_succ]

/-! ## Quotes -/

theorem namedOf_postgres (position : Nat) (sql : Sql) :
    namedOf .postgres position sql = namedOf .sqlite position sql := by
  induction sql generalizing position with
  | nil => rfl
  | cons piece rest ih =>
    cases piece with
    | text t => rw [namedOf, namedOf, ih]
    | name n =>
      rw [namedOf, namedOf, ih]
      rfl
    | bound x => rw [namedOf, namedOf, ih]

def respelled (c : Char) : Char :=
  if c = '`' then '"' else c

theorem map_respelled (free : ∀ c ∈ cs, c ≠ '`') : cs.map respelled = cs :=
  calc
    cs.map respelled = cs.map id := List.map_congr_left fun c member => if_neg (free c member)
    _ = cs := List.map_id cs

theorem respelled_quotedSegment {segment : String} (valid : Identifier.isSegment segment) :
    (Scan.quotedSegment .mysql segment).map respelled = Scan.quotedSegment .sqlite segment := by
  have inside := map_respelled fun c member =>
    Scan.ne_quoteChar (d := .mysql) (Identifier.isRest_of_mem valid member)
  rw [Scan.quotedSegment, Scan.quotedSegment, List.map_cons, List.map_append, inside]
  rfl

theorem respelled_quote (n : Identifier) :
    (Dialect.quote .mysql n).toList.map respelled = (Dialect.quote .sqlite n).toList := by
  have valid : ∀ segment ∈ n.segments, Identifier.isSegment segment :=
    List.all_eq_true.mp n.wellFormed
  rw [Scan.quote_toList, Scan.quote_toList]
  generalize n.segments = segments at valid
  induction segments with
  | nil => rfl
  | cons first segments ih =>
    have head := respelled_quotedSegment (valid first (by simp))
    cases segments with
    | nil => simpa using head
    | cons second segments =>
      have tail := ih fun segment member => valid segment (by simp [member])
      simp only [List.map_cons] at tail ⊢
      rw [List.intercalate_cons_cons, List.intercalate_cons_cons, List.map_append, List.map_append,
        head, tail]
      rfl

/-- With the backticks replaced, text with names has the quotes of the other dialects. -/
theorem respelled_namedOf {first last : Edge} {sql : Sql} (apart : Apart first last sql)
    (position : Nat) :
    (namedOf .mysql position sql).map respelled = namedOf .sqlite position sql := by
  induction apart generalizing position with
  | nil _ => rfl
  | @text _ t _ inert _ ih | @delimited _ t _ inert _ _ ih =>
    have free : ∀ c ∈ t.toList, c ≠ '`' := by
      rintro c member rfl
      cases List.all_eq_true.mp inert '`' member
    rw [namedOf, namedOf, List.map_append, map_respelled free, ih]
  | name _ ih => rw [namedOf, namedOf, List.map_append, respelled_quote, ih]
  | bound _ ih =>
    have free : ∀ c ∈ reference position, c ≠ '`' := by
      rintro c member rfl
      rcases List.mem_cons.mp member with colon | letter
      · cases colon
      · cases isRest_of_mem_bindName letter
    rw [namedOf, namedOf, List.map_append, map_respelled free, ih]

end ScopedSql.NamedBinds
