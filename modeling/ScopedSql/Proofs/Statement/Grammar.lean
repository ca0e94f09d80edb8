import ScopedSql.Proofs.Statement.Framing

/-! The grammar of reads: what is shown, a table, and then a clause, an ordering, a limit and an
offset, each of which may be absent.

A part that is there stands behind one space and a part that is absent leaves no text. From such a
text all its parts are read back, so no two selections have one text.
-/

set_option autoImplicit false

namespace ScopedSql

open Sql Lexeme

/-- What a read selects, part by part as its text has it; no columns stand for all. -/
structure Selection where
  columns : List (List String)
  table : List String
  clause : String
  order : List (List String × SortDirection)
  limit : Option Int
  offset : Option Int
  deriving DecidableEq, Repr

namespace Selection

/-! ## Texts of the grammar -/

def projectionText (d : Dialect) (columns : List (List String)) : String :=
  if columns = [] then "*" else String.intercalate ", " (columns.map d.spelled)

def orderingText (d : Dialect) (order : List (List String × SortDirection)) : String :=
  if order = [] then ""
  else "ORDER BY " ++
    String.intercalate ", " (order.map fun term => d.spelled term.1 ++ " " ++ term.2.word)

def countText (keyword : String) : Option Int → String
  | none => ""
  | some n => keyword ++ " " ++ toString n

def headText (d : Dialect) (sel : Selection) : String :=
  "SELECT " ++ projectionText d sel.columns ++ " FROM " ++ d.spelled sel.table

def tailText (d : Dialect) (sel : Selection) : String :=
  spacedPart (orderingText d sel.order) ++ spacedPart (countText "LIMIT" sel.limit) ++
    spacedPart (countText "OFFSET" sel.offset)

def text (d : Dialect) (sel : Selection) : String :=
  sel.headText d ++ spacedPart sel.clause ++ sel.tailText d

/-- A text that is empty, or a keyword with a formula behind it. -/
inductive Clause (d : Dialect) : String → Scope String → Prop where
  | absent : Clause d "" none
  | present {body : String} {c : Formula String .disjunction}
    (scanned : Lexeme.scan d ("WHERE" ++ body) = some (.word "WHERE" :: c.lexemes)) :
    Clause d ("WHERE" ++ body) (some c)

structure Named (segments : List String) : Prop where
  some : segments ≠ []
  valid : ∀ segment ∈ segments, Identifier.isSegment segment

structure Grammatical (d : Dialect) (sel : Selection) : Prop where
  table : Named sel.table
  columns : ∀ segments ∈ sel.columns, Named segments
  order : ∀ term ∈ sel.order, Named term.1
  clause : ∃ scope, Clause d sel.clause scope

/-! ## Reading -/

/-- The selection of a command that reads columns, with a clause that is told apart. -/
def ofCommand (clause : String) : Command String → Option Selection
  | .select .everything table _ order limit offset =>
    some ⟨[], table, clause, order, limit, offset⟩
  | .select (.columns first rest) table _ order limit offset =>
    some ⟨first :: rest, table, clause, order, limit, offset⟩
  | .select .number .. | .insert .. | .update .. | .delete .. => none

/-- Reads a text; its clause is what stands in front of the tail that was read. -/
def read (d : Dialect) (text : String) : Option Selection := do
  let sel ← ofCommand "" (← Command.read (← Lexeme.scan d text))
  return { sel with clause := d.clause (sel.tailText d) text }

end Selection

/-! ## Texts without a clause -/

/-- From an edge of the first kind to one of the second the text reads as these lexemes, and no
clause begins in it. -/
structure Bare (d : Dialect) (first last : Edge) (text : String)
    (lexemes : List (Lexeme String)) : Prop where
  run : ∀ (s : Scan) (read : List (Lexeme String)), s.At first read →
    (s.run d text.toList).At last (read ++ lexemes)
  passed : ∀ rest, fromWhere d.quoteChar false (text.toList ++ rest) =
    fromWhere d.quoteChar false rest

namespace Bare

variable {d : Dialect} {first middle last : Edge} {t u : String} {ls ks : List (Lexeme String)}

theorem nil (d : Dialect) : Bare d .loose .loose "" [] where
  run s read reached := by simpa [Scan.run] using reached
  passed rest := rfl

theorem append (left : Bare d first middle t ls) (right : Bare d middle last u ks) :
    Bare d first last (t ++ u) (ls ++ ks) where
  run s read reached := by
    rw [String.toList_append, Scan.run_append, ← List.append_assoc]
    exact right.run _ _ (left.run s read reached)
  passed rest := by
    rw [String.toList_append, List.append_assoc, left.passed, right.passed]

theorem of_scans {sql : Sql} {lexemes : List (Lexeme Value)}
    (scans : Scans d first last sql lexemes) (plain : sql.Plain) :
    Bare d first last (sql.render d 0) (marked d 0 lexemes) where
  run s read reached := scans.run 0 s read reached
  passed rest := plain.fromWhere 0 rest

theorem text {lexemes : List (Lexeme Value)} (scans : Scans d first last [.text t] lexemes)
    (plain : t.toList.all isPlain) : Bare d first last t (marked d 0 lexemes) := by
  have bare := of_scans scans (.text plain)
  rwa [render, render, String.append_empty] at bare

-- Fixed text after a clear edge; what it reads as is a matter of running it.
theorem literal (run : (Scan.run d .start t.toList).At last ls) (plain : t.toList.all isPlain) :
    Bare d .clear last t ls where
  run s read reached := by
    have same : s = Scan.start.after read := by
      rw [Scan.At] at reached
      simp [reached, Scan.start, Scan.after]
    rw [same, Scan.run_after]
    exact run.after read
  passed rest := Dialect.fromWhere_plain plain

theorem space (d : Dialect) : Bare d .loose .clear " " [] :=
  text (Scans.space d) rfl

theorem comma (d : Dialect) : Bare d .loose .clear ", " [.comma] :=
  text (Scans.comma d) rfl

theorem name {segments : List String} (named : Selection.Named segments) :
    Bare d .clear .loose (d.spelled segments) [.name segments] := by
  let n : Identifier := ⟨segments, List.all_eq_true.mpr named.valid⟩
  have plain : Plain [.name n] := fun t member => by cases List.mem_singleton.mp member
  have bare := of_scans (Scans.name d n named.some) plain
  rwa [render, render, String.append_empty] at bare

theorem intercalate (separates : Bare d .loose .clear t ls) {texts : List String}
    {lexemes : List (List (Lexeme String))}
    (each : List.Forall₂ (Bare d .clear .loose) texts lexemes) (nonempty : texts ≠ []) :
    Bare d .clear .loose (String.intercalate t texts) (ls.intercalate lexemes) := by
  induction each with
  | nil => exact absurd rfl nonempty
  | @cons text ks texts lexemes head tail ih =>
    cases tail with
    | nil => simpa using head
    | cons second rest =>
      rw [String.intercalate_cons_cons, List.intercalate_cons_cons]
      exact (head.append separates).append (ih (by simp))

theorem natural (d : Dialect) (n : Nat) :
    Bare d .clear .loose (Nat.repr n) [.word (Nat.repr n)] := by
  refine text (Scans.natural d n) (List.all_eq_true.mpr fun c member => ?_)
  rw [Nat.toList_repr] at member
  exact Dialect.isPlain_digit (Sql.isDigit_of_mem_repr member)

-- Behind a sign the digits are read as behind a clear edge.
theorem negative (d : Dialect) (n : Nat) :
    Bare d .clear .loose ("-" ++ Nat.repr n) [.symbol "-", .word (Nat.repr n)] where
  run s read reached := by
    rw [Scan.At] at reached
    subst reached
    have sign : Scan.step d ⟨read, .nothing⟩ '-' = ⟨read, .symbol ['-']⟩ := by
      cases d <;> simp [Scan.step, Pending.continued, Pending.finished, Pending.begun] <;> decide
    obtain ⟨first, rest, digits⟩ :=
      List.exists_cons_of_ne_nil (Nat.toDigits_ne_nil (n := n) (b := 10))
    have digit : first.isDigit := Sql.isDigit_of_mem_repr (digits ▸ List.mem_cons_self)
    have unsigned : Pending.isSign first = false := by
      by_contra sign
      rw [Bool.not_eq_false] at sign
      simp only [Pending.isSign, Bool.or_eq_true, decide_eq_true_eq] at sign
      rcases sign with ((((rfl | rfl) | rfl) | rfl) | rfl) | rfl <;> cases digit
    have ends : Scan.step d ⟨read, .symbol ['-']⟩ first =
        Scan.step d ⟨read ++ [.symbol "-"], .nothing⟩ first := by
      simp [Scan.step, Pending.continued, Pending.finished, unsigned]
    have behind := (natural d n).run ⟨read ++ [.symbol "-"], .nothing⟩ _ rfl
    rw [Nat.toList_repr, digits, List.append_assoc] at behind
    rw [String.toList_append, Nat.toList_repr, digits]
    show Scan.At .loose (Scan.run d (Scan.step d (Scan.step d ⟨read, .nothing⟩ '-') first) rest) _
    rw [sign, ends]
    exact behind
  passed rest := by
    rw [String.toList_append, List.append_assoc, Dialect.fromWhere_plain rfl, (natural d n).passed]

theorem numeral (d : Dialect) (n : Int) :
    Bare d .clear .loose (toString n) (ofNumeral n) := by
  cases n with
  | ofNat n => exact natural d n
  | negSucc n => exact negative d (n + 1)

theorem part (shows : t = "" ∧ ls = [] ∨ t ≠ "" ∧ Bare d .clear .loose t ls) :
    Bare d .loose .loose (spacedPart t) ls := by
  rcases shows with ⟨rfl, rfl⟩ | ⟨shown, bare⟩
  · exact nil d
  · rw [spacedPart, if_neg shown]
    exact (space d).append bare

end Bare

namespace Selection

variable {d : Dialect} {sel : Selection}

def shown (sel : Selection) : Projection :=
  match sel.columns with
  | [] => .everything
  | first :: rest => .columns first rest

theorem names_bare {names : List (List String)} (named : ∀ segments ∈ names, Named segments)
    (some : names ≠ []) :
    Bare d .clear .loose (String.intercalate ", " (names.map d.spelled)) (nameList names) := by
  have each : List.Forall₂ (Bare d .clear .loose) (names.map d.spelled)
      (names.map fun segments => [.name segments]) := by
    rw [List.forall₂_map_left_iff, List.forall₂_map_right_iff, List.forall₂_same]
    exact fun segments member => .name (named segments member)
  exact .intercalate (.comma d) each (by simpa using some)

theorem projectionText_bare (named : ∀ segments ∈ sel.columns, Named segments) :
    Bare d .clear .loose (projectionText d sel.columns) sel.shown.lexemes := by
  unfold projectionText shown
  cases columns : sel.columns with
  | nil =>
    have all : Bare d .clear .loose "*" [.symbol "*"] := .literal (by cases d <;> rfl) rfl
    exact all
  | cons first rest =>
    rw [if_neg (by simp)]
    exact names_bare (columns ▸ named) (by simp)

theorem headText_bare (grammatical : sel.Grammatical d) :
    Bare d .clear .loose (sel.headText d)
      (.word "SELECT" :: sel.shown.lexemes ++ [.word "FROM", .name sel.table]) := by
  have verb : Bare d .clear .clear "SELECT " [.word "SELECT"] :=
    .literal (by cases d <;> rfl) rfl
  have source : Bare d .loose .clear " FROM " [.word "FROM"] :=
    (Bare.space d).append (.literal (by cases d <;> rfl) rfl : Bare d .clear .clear "FROM " _)
  have bare := ((verb.append (projectionText_bare grammatical.columns)).append source).append
    (.name grammatical.table)
  simpa [headText] using bare

theorem orderTerm_bare {term : List String × SortDirection} (named : Named term.1) :
    Bare d .clear .loose (d.spelled term.1 ++ " " ++ term.2.word) (ofOrderTerm term) := by
  have direction : Bare d .clear .loose term.2.word [.word term.2.word] := by
    cases term.2 <;> exact .literal (by cases d <;> rfl) rfl
  exact ((Bare.name named).append (.space d)).append direction

theorem orderingText_bare {order : List (List String × SortDirection)}
    (named : ∀ term ∈ order, Named term.1) :
    Bare d .loose .loose (spacedPart (orderingText d order)) (ofOrdering order) := by
  refine .part ?_
  cases order with
  | nil => exact .inl ⟨rfl, rfl⟩
  | cons first rest =>
    have keyword : Bare d .clear .clear "ORDER BY " [.word "ORDER", .word "BY"] :=
      .literal (by cases d <;> rfl) rfl
    have each : List.Forall₂ (Bare d .clear .loose)
        ((first :: rest).map fun term => d.spelled term.1 ++ " " ++ term.2.word)
        ((first :: rest).map ofOrderTerm) := by
      rw [List.forall₂_map_left_iff, List.forall₂_map_right_iff, List.forall₂_same]
      exact fun term member => orderTerm_bare (named term member)
    refine .inr ⟨by simp [orderingText], ?_⟩
    exact keyword.append (.intercalate (.comma d) each (by simp))

theorem countText_bare {keyword : String}
    (bare : Bare d .clear .clear (keyword ++ " ") [.word keyword]) (n : Option Int) :
    Bare d .loose .loose (spacedPart (countText keyword n)) (ofNumeralAfter keyword n) := by
  refine .part ?_
  cases n with
  | none => exact .inl ⟨rfl, rfl⟩
  | some n => exact .inr ⟨by simp [countText], bare.append (.numeral d n)⟩

theorem tailText_bare (named : ∀ term ∈ sel.order, Named term.1) :
    Bare d .loose .loose (sel.tailText d)
      (ofOrdering sel.order ++ ofNumeralAfter "LIMIT" sel.limit ++
        ofNumeralAfter "OFFSET" sel.offset) := by
  have limit : Bare d .clear .clear "LIMIT " [.word "LIMIT"] := .literal (by cases d <;> rfl) rfl
  have offset : Bare d .clear .clear "OFFSET " [.word "OFFSET"] :=
    .literal (by cases d <;> rfl) rfl
  exact ((orderingText_bare named).append (countText_bare limit sel.limit)).append
    (countText_bare offset sel.offset)

/-! ## Clauses -/

theorem Clause.run {clause : String} {scope : Scope String} (is : Clause d clause scope) {s : Scan}
    {read : List (Lexeme String)} (reached : s.At .loose read) :
    (s.run d (spacedPart clause).toList).At .loose (read ++ scope.lexemes) := by
  cases is with
  | absent => exact (Bare.nil d).run s read reached
  | @present body c scanned =>
    have space : Scan.run d .start (' ' :: ("WHERE" ++ body).toList) =
        Scan.run d .start ("WHERE" ++ body).toList := rfl
    have reads : (Scan.run d .start ("WHERE" ++ body).toList).At .loose
        (.word "WHERE" :: c.lexemes) := scanned
    rw [spacedPart_keyword, Scan.run_delimiter reached rfl, space]
    exact reads.after read

theorem Clause.opens {clause : String} {scope : Scope String} (is : Clause d clause scope) :
    clause = "" ∨ ∃ body, clause = "WHERE" ++ body := by
  cases is with
  | absent => exact .inl rfl
  | @present body => exact .inr ⟨body, rfl⟩

/-! ## Reading what was written -/

theorem scan_text {scope : Scope String} (grammatical : sel.Grammatical d)
    (is : Clause d sel.clause scope) :
    Lexeme.scan d (sel.text d) = some
      (Command.select sel.shown sel.table scope sel.order sel.limit sel.offset).lexemes := by
  have head := (headText_bare grammatical).run .start [] rfl
  have whole := (tailText_bare (d := d) grammatical.order).run _ _ (is.run head)
  rw [← Scan.run_append, ← Scan.run_append, ← String.toList_append, ← String.toList_append,
    ← String.append_assoc] at whole
  refine Eq.trans whole (congrArg some ?_)
  simp [Command.lexemes]

theorem clause_text (grammatical : sel.Grammatical d) :
    d.clause (sel.tailText d) (sel.text d) = sel.clause := by
  obtain ⟨scope, is⟩ := grammatical.clause
  have cut := d.cut_clause is.opens (sel.tailText d).toList
  rw [Dialect.clause, text, String.toList_append, String.toList_append, List.append_assoc,
    (headText_bare grammatical).passed]
  exact (congrArg String.ofList cut).trans String.ofList_toList

theorem read_text (grammatical : sel.Grammatical d) : read d (sel.text d) = some sel := by
  obtain ⟨scope, is⟩ := grammatical.clause
  have command := Command.read_lexemes
    (Command.select sel.shown sel.table scope sel.order sel.limit sel.offset) trivial
  have parts : ofCommand "" (.select sel.shown sel.table scope sel.order sel.limit sel.offset) =
      some { sel with clause := "" } := by
    obtain ⟨columns, table, clause, order, limit, offset⟩ := sel
    cases columns <;> rfl
  rw [read, scan_text grammatical is]
  simp only [Option.bind_eq_bind, Option.bind_some, command, parts]
  exact congrArg (fun clause => some { sel with clause }) (clause_text grammatical)

theorem text_injective {sel sel' : Selection} (grammatical : sel.Grammatical d)
    (grammatical' : sel'.Grammatical d) (same : sel.text d = sel'.text d) : sel = sel' := by
  have first := read_text grammatical
  rw [same, read_text grammatical'] at first
  exact (Option.some.inj first).symm

end Selection

end ScopedSql
