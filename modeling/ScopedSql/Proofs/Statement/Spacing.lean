import ScopedSql.Proofs.Predicate.Clause
import ScopedSql.Proofs.Statement.Names

/-! Spaces in the texts of reads: they stand one at a time and at neither end, whichever parts a
read has.
-/

set_option autoImplicit false

namespace ScopedSql

open Sql

/-- No space stands at an end or beside another. -/
structure Tidy (text : String) : Prop where
  leading : text.toList.head? ≠ some ' '
  trailing : text.toList.getLast? ≠ some ' '
  single : ¬[' ', ' '] <:+: text.toList

/-- Whether a space may stand behind some characters, if one may stand in front of them or not.
There is no answer once a space stood where none may. -/
def mayFollow : Bool → List Char → Option Bool
  | may, [] => some may
  | may, c :: rest =>
    if c = ' ' then if may then mayFollow false rest else none else mayFollow true rest

theorem mayFollow_append (may : Bool) (first rest : List Char) :
    mayFollow may (first ++ rest) = (mayFollow may first).bind (mayFollow · rest) := by
  induction first generalizing may with
  | nil => rfl
  | cons c first ih =>
    simp only [List.cons_append, mayFollow]
    split
    · cases may
      · rfl
      · exact ih false
    · exact ih true

theorem mayFollow_solid {cs : List Char} (solid : ∀ c ∈ cs, c ≠ ' ') (some : cs ≠ [])
    (may : Bool) : mayFollow may cs = .some true := by
  induction cs generalizing may with
  | nil => exact absurd rfl some
  | cons c rest ih =>
    have tail := fun c member => solid c (List.mem_cons_of_mem _ member)
    rw [mayFollow, if_neg (solid c List.mem_cons_self)]
    cases rest with
    | nil => rfl
    | cons second rest => exact ih tail (by simp) true

-- A text that may follow a space may follow anything.
theorem mayFollow_of_start {cs : List Char} (starts : mayFollow false cs = some true) :
    mayFollow true cs = some true := by
  cases cs with
  | nil => cases starts
  | cons c rest =>
    rw [mayFollow] at starts ⊢
    split at starts
    · cases starts
    · next letter => rwa [if_neg letter]

theorem Tidy.of_mayFollow {text : String} (tidy : mayFollow false text.toList = some true) :
    Tidy text := by
  refine ⟨fun leads => ?_, fun trails => ?_, fun ⟨before, after, doubled⟩ => ?_⟩
  · obtain ⟨rest, characters⟩ := List.head?_eq_some_iff.mp leads
    rw [characters] at tidy
    cases tidy
  · obtain ⟨rest, characters⟩ := List.getLast?_eq_some_iff.mp trails
    rw [characters, mayFollow_append, Option.bind_eq_some_iff] at tidy
    obtain ⟨may, _, last⟩ := tidy
    cases may <;> cases last
  · rw [← doubled, List.append_assoc, mayFollow_append, Option.bind_eq_some_iff] at tidy
    obtain ⟨may, _, last⟩ := tidy
    cases may <;> cases last

/-! ## Pieces -/

namespace Sql

/-- Wherever its bound values stand, the text goes from a place where a space may stand, or may not,
to one of the second kind. -/
def Spaces (d : Dialect) (first last : Bool) (sql : Sql) : Prop :=
  ∀ position, mayFollow first (sql.render d position).toList = some last

namespace Spaces

variable {d : Dialect} {first middle last : Bool} {s t : Sql}

theorem append (left : Spaces d first middle s) (right : Spaces d middle last t) :
    Spaces d first last (s ++ t) := by
  intro position
  rw [render_append, String.toList_append, mayFollow_append, left position]
  exact right _

theorem text {u : String} (spaces : mayFollow first u.toList = some last) :
    Spaces d first last [.text u] := by
  intro position
  rwa [render, render, String.append_empty]

theorem afterAny (spaces : Spaces d false true s) : Spaces d true true s :=
  fun position => mayFollow_of_start (spaces position)

theorem name (n : Identifier) (named : n.segments ≠ []) : Spaces d first true [.name n] := by
  intro position
  rw [render, render, String.append_empty]
  refine mayFollow_solid (fun c member => ?_) ?_ first
  · rintro rfl
    rcases mem_quote member with dot | mark | letter
    · cases dot
    · cases d <;> cases mark
    · cases letter
  · obtain ⟨segment, rest, segments⟩ := List.exists_cons_of_ne_nil named
    rw [Scan.quote_toList, segments]
    cases rest <;> simp [Scan.quotedSegment, List.intercalate_cons_cons]

theorem bound (x : Value) : Spaces d first true [.bound x] := by
  intro position
  rw [render, render, String.append_empty]
  cases d with
  | postgres =>
    rw [placeholder_postgres]
    refine mayFollow_solid (fun c member => ?_) (by simp) first
    rintro rfl
    rcases List.mem_cons.mp member with sign | digit
    · cases sign
    · cases isDigit_of_mem_repr digit
  | mysql | sqlite =>
    simp only [Dialect.placeholder]
    cases first <;> rfl

theorem joined {separator : String} (separates : mayFollow true separator.toList = some false)
    {parts : List Sql} (each : ∀ part ∈ parts, Spaces d false true part) (some : parts ≠ []) :
    Spaces d false true (joined separator parts) := by
  induction parts with
  | nil => exact absurd rfl some
  | cons part parts ih =>
    obtain ⟨head, tail⟩ := List.forall_mem_cons.mp each
    cases parts with
    | nil => exact head
    | cons second rest =>
      rw [joined_cons_cons]
      exact head.append ((Spaces.text separates).append (ih tail (by simp)))

theorem spaced {parts : List Sql} (each : ∀ part ∈ parts, part = [] ∨ Spaces d false true part)
    (some : ∃ part ∈ parts, part ≠ []) : Spaces d false true (spaced parts) := by
  refine joined rfl (fun part member => ?_) ?_
  · obtain ⟨among, shown⟩ := List.mem_filter.mp member
    exact (each part among).resolve_left (by simpa using shown)
  · obtain ⟨part, among, shown⟩ := some
    exact List.ne_nil_of_mem (List.mem_filter.mpr ⟨among, by simpa using shown⟩)

end Spaces

end Sql

/-! ## Clauses -/

theorem Test.valueTuple_spaces (d : Dialect) (x : Value) (xs : List Value) :
    Spaces d false true (valueTuple (x :: xs)) := by
  have members : Spaces d true true
      (joined ", " ((x :: xs).map fun value => [.bound value])) := by
    refine (Spaces.joined rfl (fun part member => ?_) (by simp)).afterAny
    obtain ⟨y, _, rfl⟩ := List.mem_map.mp member
    exact .bound y
  exact ((Spaces.text rfl : Spaces d false true [.text "("]).append members).append (.text rfl)

theorem Test.sql_spaces (d : Dialect) {name : Identifier} (named : name.segments ≠ [])
    (test : Test) : Spaces d false true (test.sql [.name name]) := by
  have column : Spaces d false true [.name name] := .name name named
  match test with
  | compare comparison x =>
    have sign : Spaces d true false [.text (" " ++ comparison.symbol ++ " ")] := by
      cases comparison <;> exact .text rfl
    exact (column.append sign).append (.bound x)
  | isIn [] | notIn [] => exact .text rfl
  | isIn (x :: xs) | notIn (x :: xs) =>
    exact column.append ((Spaces.text rfl).append (valueTuple_spaces d x xs))
  | isNull | isNotNull => exact column.append (.text rfl)

theorem Filter.sql_spaces (d : Dialect) {f : Filter} {sql : Sql}
    (compiled : f.sql .standard = .ok sql) : Spaces d false true sql := by
  obtain ⟨name, test, segments, _, rfl⟩ := Filter.sql_eq_ok compiled
  exact Test.sql_spaces d (segments ▸ Identifier.segmentsOf_ne_nil _) test

theorem FilterGroup.joinedSql_spaces (d : Dialect) {join : Combinator} {parts : List Sql}
    (each : ∀ part ∈ parts, Spaces d false true part) :
    ∀ sql ∈ joinedSql join parts, Spaces d false true sql := by
  match parts with
  | [] => simp [joinedSql]
  | [part] => simpa [joinedSql] using each
  | first :: second :: rest =>
    rintro sql ⟨⟩
    have between : mayFollow true (" " ++ join.word ++ " ").toList = some false := by
      cases join <;> rfl
    have members := (Spaces.joined between each (by simp)).afterAny
    exact ((Spaces.text rfl : Spaces d false true [.text "("]).append members).append (.text rfl)

theorem FilterItem.sql?_spaces (d : Dialect) {item : FilterItem} {part : Option Sql}
    (compiled : item.sql? .standard = .ok part) : ∀ sql ∈ part, Spaces d false true sql := by
  cases item with
  | single f =>
    simp only [sql?, Except.bind_eq_ok, Except.pure_eq_ok] at compiled
    obtain ⟨sql, compiled, rfl⟩ := compiled
    rintro sql ⟨⟩
    exact Filter.sql_spaces d compiled
  | group g =>
    simp only [sql?, FilterGroup.sql?, Except.bind_eq_ok, Except.pure_eq_ok] at compiled
    obtain ⟨parts, compiled, rfl⟩ := compiled
    refine FilterGroup.joinedSql_spaces d fun part member => ?_
    obtain ⟨f, _, built⟩ := Except.exists_of_mem_mapM compiled member
    exact Filter.sql_spaces d built

theorem Where.ofItems_spaces (d : Dialect) {items : List FilterItem} {sql : Sql}
    (compiled : ofItems .standard items = .ok sql) : sql = [] ∨ Spaces d false true sql := by
  obtain ⟨parts, predicated, rfl⟩ := ofItems_eq_ok compiled
  simp only [predicates, Except.bind_eq_ok, Except.pure_eq_ok] at predicated
  obtain ⟨each, predicated, rfl⟩ := predicated
  have single : ∀ part ∈ each.filterMap id, Spaces d false true part := by
    intro part member
    obtain ⟨shown, among, rfl⟩ := List.mem_filterMap.mp member
    obtain ⟨item, _, built⟩ := Except.exists_of_mem_mapM predicated among
    exact FilterItem.sql?_spaces d built part rfl
  cases parts : each.filterMap id with
  | nil => exact .inl rfl
  | cons part rest =>
    have opens : Spaces d false false [.text "WHERE "] := .text rfl
    exact .inr (opens.append (.joined rfl (parts ▸ single) (by simp)))

/-! ## Reads -/

namespace Assembler

variable {d : Dialect} {table : Value} {items : List FilterItem} {s : Statement}

theorem nameSql_spaces (d : Dialect) {x : Value} {sql : Sql} (compiled : nameSql x = .ok sql) :
    Spaces d false true sql := by
  obtain ⟨n, rfl, segments⟩ := nameSql_eq_ok compiled
  exact .name n (segments ▸ Identifier.segmentsOf_ne_nil _)

theorem projection_spaces (d : Dialect) {fields : List Value} {sql : Sql}
    (compiled : projection fields = .ok sql) : Spaces d false true sql := by
  rcases projection_eq_ok compiled with ⟨_, rfl⟩ | ⟨some, parts, built, rfl⟩
  · exact .text rfl
  · refine .joined rfl (fun part member => ?_) ?_
    · obtain ⟨x, _, named⟩ := Except.exists_of_mem_mapM built member
      exact nameSql_spaces d named
    · rintro rfl
      exact some (List.forall₂_nil_right_iff.mp (Except.mapM_eq_ok.mp built))

theorem orderTerm_spaces (d : Dialect) {term : OrderTerm} {sql : Sql}
    (compiled : orderTerm term = .ok sql) : Spaces d false true sql := by
  obtain ⟨name, named, rfl⟩ := orderTerm_eq_ok compiled
  have direction : Spaces d true true [.text (" " ++ term.direction.word)] := by
    cases term.direction <;> exact .text rfl
  exact (nameSql_spaces d named).append direction

theorem ordering_spaces (d : Dialect) {terms : List OrderTerm} {sql : Sql}
    (compiled : ordering terms = .ok sql) : sql = [] ∨ Spaces d false true sql := by
  rcases ordering_eq_ok compiled with ⟨_, rfl⟩ | ⟨some, parts, built, rfl⟩
  · exact .inl rfl
  · have keyword : Spaces d false false [.text "ORDER BY "] := .text rfl
    refine .inr (keyword.append (.joined rfl (fun part member => ?_) ?_))
    · obtain ⟨term, _, ordered⟩ := Except.exists_of_mem_mapM built member
      exact orderTerm_spaces d ordered
    · rintro rfl
      exact some (List.forall₂_nil_right_iff.mp (Except.mapM_eq_ok.mp built))

theorem mayFollow_count {keyword : String} (word : mayFollow false keyword.toList = some false)
    (n : Int) : mayFollow false (keyword ++ toString n).toList = some true := by
  have digit : ∀ {n : Nat} {c : Char}, c ∈ Nat.toDigits 10 n → c ≠ ' ' := by
    rintro n c member rfl
    cases isDigit_of_mem_repr member
  rw [String.toList_append, mayFollow_append, word, Option.bind_some]
  cases n with
  | ofNat n =>
    show mayFollow false (Nat.repr n).toList = _
    rw [Nat.toList_repr]
    exact mayFollow_solid (fun c => digit) Nat.toDigits_ne_nil false
  | negSucc n =>
    show mayFollow false ("-" ++ Nat.repr (n + 1)).toList = _
    rw [String.toList_append, Nat.toList_repr]
    exact mayFollow_solid (by simpa using fun c => digit) Nat.toDigits_ne_nil true

theorem mayFollow_page (limit offset : Int) :
    mayFollow false (String.intercalate " "
      ["LIMIT " ++ toString limit, "OFFSET " ++ toString offset]).toList = some true := by
  rw [String.intercalate_cons_cons, String.intercalate_singleton, String.toList_append,
    String.toList_append, mayFollow_append, mayFollow_append, mayFollow_count rfl]
  exact mayFollow_count rfl offset

theorem paging_spaces (d : Dialect) (options : Options) :
    pageSql d options = [] ∨ Spaces d false true (pageSql d options) := by
  obtain ⟨orderBy, limit, offset, fields⟩ := options
  match limit, offset with
  | none, none => exact .inl rfl
  | some limit, none =>
    have text : mayFollow false ("LIMIT " ++ toString (limit : Int)).toList = some true :=
      mayFollow_count rfl limit
    exact .inr (.text (by simpa [Dialect.pagingText] using text))
  | some limit, some offset => exact .inr (.text (mayFollow_page limit offset))
  | none, some offset =>
    -- a dialect may have a limit of its own before the offset
    cases d with
    | postgres => exact .inr (.text (mayFollow_count rfl offset))
    | mysql => exact .inr (.text (mayFollow_page _ offset))
    | sqlite => exact .inr (.text (mayFollow_page _ offset))

theorem select_tidy {options : Options}
    (compiled : select ⟨d, .standard⟩ table items options = .ok s) : Tidy s.sql := by
  obtain ⟨scope, columns, name, order, clause, shown, named, ordered, rfl⟩ := select_eq_ok compiled
  have verb : Spaces d false true [.text "SELECT"] := .text rfl
  have source : Spaces d false true [.text "FROM"] := .text rfl
  refine .of_mayFollow (Spaces.spaced (fun part member => ?_) ?_ 0)
  · simp only [List.mem_cons, List.not_mem_nil, or_false] at member
    rcases member with rfl | rfl | rfl | rfl | rfl | rfl | rfl
    · exact .inr verb
    · exact .inr (projection_spaces d shown)
    · exact .inr source
    · exact .inr (nameSql_spaces d named)
    · exact Where.ofItems_spaces d clause
    · exact ordering_spaces d ordered
    · exact paging_spaces d options
  · exact ⟨_, List.mem_cons_self, by simp⟩

end Assembler

end ScopedSql
