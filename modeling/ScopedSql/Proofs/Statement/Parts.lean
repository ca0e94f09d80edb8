import ScopedSql.Proofs.Predicate.Atom
import ScopedSql.Proofs.Reading.Command
import ScopedSql.Proofs.Statement.Assembly

/-! The parts of statements and the lexemes that they read as: names, projections, orderings,
pages, the predicate of an id, assignments.
-/

set_option autoImplicit false

namespace ScopedSql

open Sql Lexeme

variable {d : Dialect}

/-! ## Meaning -/

def Value.segments (x : Value) : List String :=
  Identifier.segmentsOf x.plain

namespace Options

def projection (options : Options) : Projection :=
  match options.fields with
  | [] => .everything
  | first :: rest => .columns first.segments (rest.map Value.segments)

def order (options : Options) : List (List String × SortDirection) :=
  options.orderBy.map fun term => (term.field.segments, term.direction)

/-- The limit as it is written: an offset alone needs one in some dialects. -/
def shownLimit (d : Dialect) (options : Options) : Option Int :=
  if options.limit.isNone && options.offset.isSome then d.limitBeforeOffset
  else options.limit.map Int.ofNat

end Options

/-! ## Names -/

namespace Assembler

theorem nameSql_eq_ok {x : Value} {sql : Sql} (compiled : nameSql x = .ok sql) :
    ∃ n : Identifier, sql = [.name n] ∧ n.segments = x.segments := by
  simp only [nameSql, Except.bind_eq_ok, Except.pure_eq_ok] at compiled
  obtain ⟨n, checked, rfl⟩ := compiled
  exact ⟨n, rfl, Identifier.segments_ofValue checked⟩

theorem nameSql_scans (d : Dialect) {x : Value} {sql : Sql} (compiled : nameSql x = .ok sql) :
    Scans d .clear .loose sql [.name x.segments] := by
  obtain ⟨n, rfl, segments⟩ := nameSql_eq_ok compiled
  have scans := Scans.name d n (segments ▸ Identifier.segmentsOf_ne_nil _)
  rwa [segments] at scans

theorem names_scans (d : Dialect) {xs : List Value} {parts : List Sql}
    (compiled : xs.mapM nameSql = .ok parts) (nonempty : xs ≠ []) :
    Scans d .clear .loose (joined ", " parts) (nameList (xs.map Value.segments)) := by
  have scans := Scans.joinedEach (.comma d) (fun x => [.name x.segments])
    (fun _ _ => nameSql_scans d) compiled nonempty
  rwa [nameList, List.map_map]

theorem projection_scans (d : Dialect) {options : Options} {sql : Sql}
    (compiled : projection options.fields = .ok sql) :
    Scans d .clear .loose sql options.projection.lexemes := by
  rcases projection_eq_ok compiled with ⟨all, rfl⟩ | ⟨some, parts, built, rfl⟩
  · rw [Options.projection, all]
    exact .text rfl rfl fun _ => by cases d <;> rfl
  · have scans := names_scans d built some
    obtain ⟨first, rest, fields⟩ := List.exists_cons_of_ne_nil some
    rw [fields] at scans
    rw [Options.projection, fields]
    exact scans

/-! ## Orderings and pages -/

theorem orderTerm_scans (d : Dialect) {term : OrderTerm} {sql : Sql}
    (compiled : orderTerm term = .ok sql) :
    Scans d .clear .loose sql (ofOrderTerm (term.field.segments, term.direction)) := by
  obtain ⟨name, named, rfl⟩ := orderTerm_eq_ok compiled
  have direction : Scans d .loose .loose [.text (" " ++ term.direction.word)]
      [.word term.direction.word] := by
    cases term.direction <;> exact .delimited rfl rfl rfl fun _ => by cases d <;> rfl
  exact (nameSql_scans d named).append direction

theorem ordering_shows (d : Dialect) {options : Options} {sql : Sql}
    (compiled : ordering options.orderBy = .ok sql) :
    Shows d sql (ofOrdering options.order) := by
  rcases ordering_eq_ok compiled with ⟨unordered, rfl⟩ | ⟨some, parts, built, rfl⟩
  · rw [Options.order, unordered]
    exact .inl ⟨rfl, rfl⟩
  · have keyword : Scans d .clear .clear [.text "ORDER BY "] [.word "ORDER", .word "BY"] :=
      .text rfl rfl fun _ => by cases d <;> rfl
    have scans := Scans.joinedEach (.comma d) _ (fun _ _ => orderTerm_scans d) built some
    obtain ⟨first, rest, terms⟩ := List.exists_cons_of_ne_nil some
    rw [terms] at scans
    refine .inr ⟨by simp, ?_⟩
    simpa [Options.order, terms, ofOrdering, Function.comp_def] using keyword.append scans

theorem limit_scans (d : Dialect) {n : Int} (shown : 0 ≤ n ∨ n = -1) :
    Scans d .clear .loose [.text ("LIMIT " ++ toString n)] (ofNumeralAfter "LIMIT" (some n)) := by
  rcases shown with natural | rfl
  · obtain ⟨n, rfl⟩ := Int.eq_ofNat_of_zero_le natural
    have keyword : Scans d .clear .clear [.text "LIMIT "] [.word "LIMIT"] :=
      .text rfl rfl fun _ => by cases d <;> rfl
    exact keyword.fuse (.natural d n)
  · exact .text rfl rfl fun _ => by cases d <;> rfl

theorem offset_scans (d : Dialect) (n : Nat) :
    Scans d .clear .loose [.text ("OFFSET " ++ toString (Int.ofNat n))]
      (ofNumeralAfter "OFFSET" (some (Int.ofNat n))) := by
  have keyword : Scans d .clear .clear [.text "OFFSET "] [.word "OFFSET"] :=
    .text rfl rfl fun _ => by cases d <;> rfl
  exact keyword.fuse (.natural d n)

theorem page_scans (d : Dialect) (limit : Int) (shown : 0 ≤ limit ∨ limit = -1) (offset : Nat) :
    Scans d .clear .loose
      [.text (String.intercalate " "
        ["LIMIT " ++ toString limit, "OFFSET " ++ toString (Int.ofNat offset)])]
      (ofNumeralAfter "LIMIT" (some limit) ++
        ofNumeralAfter "OFFSET" (some (Int.ofNat offset))) := by
  have scans := ((limit_scans d shown).fuse (.space d)).fuse (offset_scans d offset)
  simpa [String.intercalate_cons_cons] using scans

theorem paging_shows (d : Dialect) (options : Options) :
    Shows d (pageSql d options)
      (ofNumeralAfter "LIMIT" (options.shownLimit d) ++
        ofNumeralAfter "OFFSET" (options.offset.map Int.ofNat)) := by
  obtain ⟨orderBy, limit, offset, fields⟩ := options
  match limit, offset with
  | none, none => exact .inl ⟨rfl, rfl⟩
  | some limit, none =>
    have scans := limit_scans d (n := Int.ofNat limit) (.inl (Int.natCast_nonneg _))
    refine .inr ⟨by simp [pageSql], ?_⟩
    simpa [pageSql, Dialect.pagingText, Options.shownLimit, ofNumeralAfter] using scans
  | some limit, some offset =>
    have scans := page_scans d (Int.ofNat limit) (.inl (Int.natCast_nonneg _)) offset
    exact .inr ⟨by simp [pageSql], scans⟩
  | none, some offset =>
    -- without a limit of its own each dialect has another one before the offset, or none
    refine .inr ⟨by simp [pageSql], ?_⟩
    cases d with
    | postgres => exact offset_scans .postgres offset
    | mysql => exact page_scans .mysql _ (.inl (by decide)) offset
    | sqlite => exact page_scans .sqlite _ (.inr rfl) offset

/-! ## Ids and assignments -/

-- A column that is set equal to a value, in a predicate or an assignment.
theorem equation_scans (d : Dialect) {column x : Value} {name : Sql}
    (compiled : nameSql column = .ok name) :
    Scans d .clear .loose (name ++ [.text " = ", .bound x])
      [.name column.segments, .symbol "=", .operand x] := by
  have sign : Scans d .loose .clear [.text " = "] [.symbol "="] :=
    .delimited rfl rfl rfl fun _ => by cases d <;> rfl
  exact (nameSql_scans d compiled).append (sign.append (.bound d x))

theorem idPredicate_scans (d : Dialect) {idColumn id : Value} {sql : Sql}
    (compiled : idPredicate idColumn id = .ok sql) :
    Scans d .clear .loose sql (Atom.compare idColumn.segments .eq id).lexemes := by
  obtain ⟨name, named, rfl⟩ := idPredicate_eq_ok compiled
  exact equation_scans d named

theorem assignment_scans (d : Dialect) {entry : Value × Value} {sql : Sql}
    (compiled : assignment entry = .ok sql) :
    Scans d .clear .loose sql (ofAssignment (entry.1.segments, entry.2)) := by
  obtain ⟨name, named, rfl⟩ := assignment_eq_ok compiled
  exact equation_scans d named

end Assembler

end ScopedSql
