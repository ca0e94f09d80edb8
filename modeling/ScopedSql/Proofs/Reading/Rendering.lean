import ScopedSql.Proofs.Reading.Separation

/-! Rendered SQL reads as the lexemes of its pieces, from one edge to another, and its placeholders
lead back to the bound values. The edges of neighbouring pieces compose, so a statement is read
part by part in the way in which it is put together. No piece runs into the one before it, so a part
that is rendered at a later position is the same text with higher numbers.
-/

set_option autoImplicit false

namespace ScopedSql

namespace Lexeme

variable {α : Type}

/-- Lexemes with their placeholders as a dialect writes them, from a position on. -/
def marked (d : Dialect) : Nat → List (Lexeme α) → List (Lexeme String)
  | _, [] => []
  | start, lexeme :: rest =>
    lexeme.withOperand (d.placeholder start) ::
      marked d (start + (operands [lexeme]).length) rest

theorem marked_append (d : Dialect) (start : Nat) (first rest : List (Lexeme α)) :
    marked d start (first ++ rest) =
      marked d start first ++ marked d (start + (operands first).length) rest := by
  induction first generalizing start with
  | nil => rfl
  | cons lexeme first ih =>
    have length : (operands (lexeme :: first)).length =
        (operands [lexeme]).length + (operands first).length := by
      rw [← List.length_append, ← operands_append, List.singleton_append]
    simp only [List.cons_append, marked, ih, length, Nat.add_assoc]

theorem operands_marked (d : Dialect) (start : Nat) (lexemes : List (Lexeme α)) :
    operands (marked d start lexemes) =
      (List.range' start (operands lexemes).length).map
        fun position : Nat => d.placeholder position := by
  induction lexemes generalizing start with
  | nil => rfl
  | cons lexeme rest ih =>
    cases lexeme <;> simp [marked, withOperand, operands, ih, List.range'_succ]

end Lexeme

namespace Sql

open Lexeme

/-- From an edge of the first kind, the rendered pieces read as these lexemes and reach an edge of
the second kind; their operands are the bound values. -/
structure Scans (d : Dialect) (first last : Edge) (sql : Sql) (lexemes : List (Lexeme Value)) :
    Prop where
  operands_eq : operands lexemes = sql.values
  apart : Apart first last sql
  run : ∀ (position : Nat) (s : Scan) (read : List (Lexeme String)), s.At first read →
    (s.run d (sql.render d position).toList).At last (read ++ marked d position lexemes)

theorem Scans.append {d : Dialect} {first middle last : Edge} {s t : Sql}
    {ls ks : List (Lexeme Value)} (left : Scans d first middle s ls)
    (right : Scans d middle last t ks) : Scans d first last (s ++ t) (ls ++ ks) where
  operands_eq := by rw [operands_append, values_append, left.operands_eq, right.operands_eq]
  apart := left.apart.append right.apart
  run position scan read reached := by
    rw [render_append, String.toList_append, Scan.run_append, marked_append, left.operands_eq,
      ← List.append_assoc]
    exact right.run _ _ _ (left.run position scan read reached)

theorem Scans.toLoose {d : Dialect} {first : Edge} {s : Sql} {ls : List (Lexeme Value)}
    (scans : Scans d first .clear s ls) : Scans d first .loose s ls where
  operands_eq := scans.operands_eq
  apart := scans.apart.toLoose
  run position scan read reached := (scans.run position scan read reached).toLoose

-- Fixed text after a clear edge; what it reads as is a matter of running it.
theorem Scans.text {d : Dialect} {last : Edge} {t : String} {ls : List (Lexeme Value)}
    (plain : operands ls = []) (inert : t.toList.all isInert)
    (run : ∀ position, (Scan.run d .start t.toList).At last (marked d position ls)) :
    Scans d .clear last [.text t] ls where
  operands_eq := plain
  apart := .text inert (.nil (.inl rfl))
  run position scan read reached := by
    have same : scan = Scan.start.after read := by
      rw [Scan.At] at reached
      simp [reached, Scan.start, Scan.after]
    simpa [render, same, Scan.run_after] using (run position).after read

-- Fixed text after any edge: it has to begin with a delimiter.
theorem Scans.delimited {d : Dialect} {last : Edge} {t : String} {ls : List (Lexeme Value)}
    (plain : operands ls = []) (inert : t.toList.all isInert)
    (begins : t.toList.head?.any Scan.isDelimiter)
    (run : ∀ position, (Scan.run d .start t.toList).At last (marked d position ls)) :
    Scans d .loose last [.text t] ls where
  operands_eq := plain
  apart := .delimited inert begins (.nil (.inl rfl))
  run position scan read reached := by
    cases characters : t.toList with
    | nil => simp [characters] at begins
    | cons c rest =>
      have delimiter : Scan.isDelimiter c := by simpa [characters] using begins
      simp only [render, String.append_empty, characters, Scan.run_delimiter reached delimiter]
      exact (characters ▸ run position).after read

theorem Scans.name (d : Dialect) (n : Identifier) (named : n.segments ≠ []) :
    Scans d .clear .loose [.name n] [.name n.segments] where
  operands_eq := rfl
  apart := .name (.nil (.inr rfl))
  run position scan read reached := by
    rw [Scan.At] at reached
    subst reached
    have opens : Scan.step d ⟨read, .nothing⟩ d.quoteChar = ⟨read, .segment [] []⟩ := by
      cases d <;> simp [Scan.step, Pending.continued, Pending.finished] <;> decide
    have valid : ∀ segment ∈ n.segments, Identifier.isSegment segment :=
      List.all_eq_true.mp n.wellFormed
    obtain ⟨first, rest, segments⟩ := List.exists_cons_of_ne_nil named
    have quoted := Scan.run_quoted opens first rest (segments ▸ valid)
    simpa [render, Scan.quote_toList, segments, marked, withOperand] using quoted

theorem Scans.bound (d : Dialect) (x : Value) :
    Scans d .clear .loose [.bound x] [.operand x] where
  operands_eq := rfl
  apart := .bound (.nil (.inr rfl))
  run position scan read reached := by
    rw [Scan.At] at reached
    subst reached
    cases d with
    | postgres =>
      have opens : Scan.step .postgres ⟨read, .nothing⟩ '$' = ⟨read, .mark ['$']⟩ := by
        simp [Scan.step, Pending.continued, Pending.finished]
        decide
      have reads := Scan.run_growing .postgres read
        (fun digits => .mark ('$' :: digits)) (Nat.toDigits 10 (position + 1))
        (fun cs c member => by simp [Pending.continued, isDigit_of_mem_repr member]) []
      have whole : Scan.run .postgres ⟨read, .nothing⟩
          (Dialect.placeholder .postgres position).toList =
            ⟨read, .mark ('$' :: Nat.toDigits 10 (position + 1))⟩ := by
        rw [placeholder_postgres]
        exact (congrArg (Scan.run .postgres · _) opens).trans reads
      obtain ⟨first, rest, numbered⟩ :=
        List.exists_cons_of_ne_nil (Nat.toDigits_ne_nil (n := position + 1) (b := 10))
      have written :
          String.ofList ('$' :: first :: rest) = Dialect.placeholder .postgres position := by
        rw [← numbered, ← placeholder_postgres, String.ofList_toList]
      simp [render, whole, numbered, Scan.At, Scan.result, Pending.finished, marked, withOperand,
        written]
    | mysql | sqlite =>
      simp [render, Dialect.placeholder, Scan.run, Scan.step, Pending.continued, Pending.finished,
        Scan.At, Scan.result, marked, withOperand]
      decide

theorem Scans.natural (d : Dialect) (n : Nat) :
    Scans d .clear .loose [.text (Nat.repr n)] [.word (Nat.repr n)] := by
  have inert : (Nat.repr n).toList.all isInert := by
    rw [Nat.toList_repr, List.all_eq_true]
    exact fun c member => isInert_of_isRest (isRest_of_mem_repr member)
  refine .text rfl inert fun position => ?_
  obtain ⟨first, rest, numeral⟩ :=
    List.exists_cons_of_ne_nil (Nat.toDigits_ne_nil (n := n) (b := 10))
  have all : ∀ c ∈ first :: rest, Identifier.isRest c := fun c member =>
    isRest_of_mem_repr (numeral ▸ member)
  have opens : Scan.step d .start first = ⟨[], .word [first]⟩ := by
    have begun := Scan.begun_letter d (all first (by simp))
    simp [Scan.step, Scan.start, Pending.continued, Pending.finished, begun]
  have reads := Scan.run_growing d [] .word rest
    (fun cs c member => by simp [Pending.continued, all c (by simp [member])]) [first]
  have written : String.ofList (first :: rest) = Nat.repr n := by
    rw [← numeral, ← Nat.toList_repr, String.ofList_toList]
  rw [Nat.toList_repr, numeral]
  have whole : Scan.run d .start (first :: rest) = ⟨[], .word (first :: rest)⟩ :=
    (congrArg (Scan.run d · rest) opens).trans reads
  simp [whole, Scan.At, Scan.result, Pending.finished, marked, withOperand, written]

theorem Scans.fuse {d : Dialect} {first middle last : Edge} {t u : String}
    {ls ks : List (Lexeme Value)} (left : Scans d first middle [.text t] ls)
    (right : Scans d middle last [.text u] ks) :
    Scans d first last [.text (t ++ u)] (ls ++ ks) where
  operands_eq := (left.append right).operands_eq
  apart := left.apart.fuse right.apart
  run position scan read reached := by
    have both := (left.append right).run position scan read reached
    simpa [render] using both

theorem Scans.opening (d : Dialect) : Scans d .clear .clear [.text "("] [.opening] :=
  .text rfl rfl fun _ => by cases d <;> rfl

theorem Scans.closing (d : Dialect) : Scans d .loose .clear [.text ")"] [.closing] :=
  .delimited rfl rfl rfl fun _ => by cases d <;> rfl

theorem Scans.comma (d : Dialect) : Scans d .loose .clear [.text ", "] [.comma] :=
  .delimited rfl rfl rfl fun _ => by cases d <;> rfl

theorem Scans.space (d : Dialect) : Scans d .loose .clear [.text " "] [] :=
  .delimited rfl rfl rfl fun _ => by cases d <;> rfl

/-! ## Lists of parts -/

theorem joined_cons_cons (separator : String) (first second : Sql) (rest : List Sql) :
    joined separator (first :: second :: rest) =
      first ++ .text separator :: joined separator (second :: rest) := rfl

theorem intercalate_nothing {α : Type} (lists : List (List α)) :
    [].intercalate lists = lists.flatten := by
  induction lists with
  | nil => rfl
  | cons first rest ih =>
    cases rest with
    | nil => simp
    | cons second rest => simp [List.intercalate_cons_cons, ih]

theorem Scans.joined {d : Dialect} {separator : String} {between : List (Lexeme Value)}
    (separates : Scans d .loose .clear [.text separator] between) {parts : List Sql}
    {lexemes : List (List (Lexeme Value))}
    (each : List.Forall₂ (Scans d .clear .loose) parts lexemes) (nonempty : parts ≠ []) :
    Scans d .clear .loose (Sql.joined separator parts) (between.intercalate lexemes) := by
  induction each with
  | nil => exact absurd rfl nonempty
  | @cons part ls parts lexemes head tail ih =>
    cases tail with
    | nil => simpa [Sql.joined] using head
    | cons second rest =>
      rw [joined_cons_cons, List.intercalate_cons_cons, List.append_assoc]
      exact head.append (separates.append (ih (by simp)))

theorem Scans.joinedEach {d : Dialect} {separator : String} {between : List (Lexeme Value)}
    (separates : Scans d .loose .clear [.text separator] between) {α : Type} {xs : List α}
    {build : α → Except Fault Sql} (print : α → List (Lexeme Value))
    (reads : ∀ x part, build x = .ok part → Scans d .clear .loose part (print x))
    {parts : List Sql} (compiled : xs.mapM build = .ok parts) (nonempty : xs ≠ []) :
    Scans d .clear .loose (Sql.joined separator parts) (between.intercalate (xs.map print)) := by
  have each := Except.mapM_eq_ok.mp compiled
  have scans : List.Forall₂ (Scans d .clear .loose) parts (xs.map print) := by
    rw [List.forall₂_map_right_iff]
    exact (each.imp reads).flip
  have present : parts ≠ [] := by
    rw [← List.length_pos_iff, ← each.length_eq, List.length_pos_iff]
    exact nonempty
  exact .joined separates scans present

def behind (parts : List Sql) : Sql :=
  (parts.filter fun part => !part.isEmpty).flatMap (.text " " :: ·)

theorem behind_append (parts more : List Sql) :
    behind (parts ++ more) = behind parts ++ behind more := by
  simp [behind]

theorem joined_space (first : Sql) (rest : List Sql) :
    joined " " (first :: rest) = first ++ rest.flatMap (.text " " :: ·) := by
  induction rest generalizing first with
  | nil => simp [joined]
  | cons second rest ih => rw [joined_cons_cons, ih, List.flatMap_cons, List.cons_append]

theorem spaced_cons {first : Sql} (nonempty : first ≠ []) (rest : List Sql) :
    spaced (first :: rest) = first ++ behind rest := by
  simp [spaced, nonempty, joined_space, behind]

theorem spaced_concat {first last : Sql} (nonempty : first ≠ []) (shown : last ≠ [])
    (heads : List Sql) :
    spaced (first :: (heads ++ [last])) = spaced (first :: heads) ++ .text " " :: last := by
  have behindLast : behind [last] = .text " " :: last := by simp [behind, shown]
  rw [spaced_cons nonempty, spaced_cons nonempty, behind_append, behindLast, List.append_assoc]

def Shows (d : Dialect) (part : Sql) (lexemes : List (Lexeme Value)) : Prop :=
  part = [] ∧ lexemes = [] ∨ part ≠ [] ∧ Scans d .clear .loose part lexemes

theorem Scans.shows {d : Dialect} {sql : Sql} {lexemes : List (Lexeme Value)}
    (scans : Scans d .clear .loose sql lexemes) (nonempty : lexemes ≠ []) :
    Shows d sql lexemes := by
  refine .inr ⟨?_, scans⟩
  rintro rfl
  have reached : Scan.start.At .loose (marked d 0 lexemes) := scans.run 0 .start [] rfl
  cases lexemes with
  | nil => exact nonempty rfl
  | cons lexeme rest => cases reached

theorem Shows.scans {d : Dialect} {part : Sql} {lexemes : List (Lexeme Value)}
    (shows : Shows d part lexemes) : Scans d .clear .loose part lexemes := by
  rcases shows with ⟨rfl, rfl⟩ | ⟨_, scans⟩
  · refine ⟨rfl, .nil (.inl rfl), fun position scan read reached => ?_⟩
    simpa [render, marked, Scan.run] using reached.toLoose
  · exact scans

theorem Shows.present {d : Dialect} {parts : List Sql} {lexemes : List (List (Lexeme Value))}
    (each : List.Forall₂ (Shows d) parts lexemes) :
    ∃ shown, List.Forall₂ (Scans d .clear .loose) (parts.filter fun part => !part.isEmpty) shown ∧
      shown.flatten = lexemes.flatten := by
  induction each with
  | nil => exact ⟨[], .nil, rfl⟩
  | @cons part ls _ _ head _ ih =>
    obtain ⟨shown, scans, same⟩ := ih
    rcases head with ⟨rfl, rfl⟩ | ⟨present, head⟩
    · exact ⟨shown, by simpa using scans, by simpa using same⟩
    · exact ⟨ls :: shown, by simpa [present] using ⟨head, scans⟩, by simp [same]⟩

theorem Scans.spaced {d : Dialect} {first : Sql} {rest : List Sql} {head : List (Lexeme Value)}
    {lexemes : List (List (Lexeme Value))} (starts : Scans d .clear .loose first head)
    (nonempty : first ≠ []) (each : List.Forall₂ (Shows d) rest lexemes) :
    Scans d .clear .loose (spaced (first :: rest)) (head ++ lexemes.flatten) := by
  obtain ⟨shown, scans, same⟩ := Shows.present each
  have parts := Scans.joined (Scans.space d) (.cons starts scans) (by simp)
  rw [intercalate_nothing, List.flatten_cons, same] at parts
  simpa [Sql.spaced, nonempty] using parts

end Sql

/-! ## The whole text -/

def Dialect.marks : Dialect → Nat → List String
  | .postgres, n => (List.range n).map fun k => "$" ++ toString (k + 1)
  | .mysql, n | .sqlite, n => List.replicate n "?"

namespace Lexeme

-- A placeholder leads back to its position, wherever it stands in order.
theorem position?_placeholder (d : Dialect) (position : Nat) :
    position? position (d.placeholder position) = some position := by
  cases d with
  | postgres =>
    have read : Nat.ofDigitChars 10 (Nat.toDigits 10 (position + 1)) 0 = position + 1 :=
      Nat.ofDigitChars_ten_toDigits
    simp only [position?, Sql.placeholder_postgres, read]
  | mysql | sqlite => simp [position?, Dialect.placeholder]

-- Lexemes whose operands are the last parameters are bound to them again.
theorem bind_marked {α : Type} (d : Dialect) (before : List α) (lexemes : List (Lexeme α)) :
    bind (before ++ operands lexemes) before.length (marked d before.length lexemes) =
      some lexemes := by
  induction lexemes generalizing before with
  | nil => rfl
  | cons lexeme rest ih =>
    cases lexeme with
    | operand x =>
      -- the operand is the next parameter, and joins those that came before
      have tail := ih (before ++ [x])
      simp only [List.append_assoc, List.singleton_append, List.length_append,
        List.length_singleton] at tail
      simp [bind, marked, withOperand, operands, mapM, position?_placeholder, tail]
    | _ => simp [bind, marked, withOperand, operands, mapM, ih]

end Lexeme

namespace Sql

open Lexeme

variable {d : Dialect} {sql : Sql} {lexemes : List (Lexeme Value)}

theorem Scans.scan (scans : Scans d .clear .loose sql lexemes) :
    Lexeme.scan d (sql.render d 0) = some (marked d 0 lexemes) := by
  have reached := scans.run 0 .start [] rfl
  rwa [List.nil_append] at reached

theorem Scans.ofText (scans : Scans d .clear .loose sql lexemes) :
    Lexeme.ofText d (sql.render d 0) sql.values = some lexemes := by
  have bound := bind_marked d [] lexemes
  rw [List.nil_append, List.length_nil, scans.operands_eq] at bound
  rw [Lexeme.ofText, scans.scan, Option.bind_some, bound]

-- Where placeholders have no numbers, a text is the same behind other values.
theorem render_unnumbered (unnumbered : d ≠ .postgres) (sql : Sql) (start start' : Nat) :
    sql.render d start = sql.render d start' := by
  induction sql generalizing start start' with
  | nil => rfl
  | cons piece rest ih =>
    cases piece with
    | text t => rw [render, render, ih start start']
    | name n => rw [render, render, ih start start']
    | bound x =>
      have mark : d.placeholder start = d.placeholder start' := by
        cases d with
        | postgres => exact absurd rfl unnumbered
        | mysql | sqlite => rfl
      rw [render, render, mark, ih (start + 1) (start' + 1)]

/-- Rendered behind other values, a text has the same placeholders with higher numbers. -/
theorem Apart.renumbered {last : Edge} (apart : Apart .clear last sql) (d : Dialect)
    (position more : Nat) :
    d.renumbered more (sql.render d position) = sql.render d (position + more) := by
  have copied := (apart.renumbers d more position .start rfl).2
  cases d with
  | postgres =>
    rw [Dialect.renumbered, copied]
    simp [Renumbering.result, Renumbering.start]
  | mysql | sqlite => exact render_unnumbered (by decide) sql position (position + more)

theorem Scans.renumbered (scans : Scans d .clear .loose sql lexemes) (more : Nat) :
    d.renumbered more (sql.render d 0) = sql.render d more := by
  rw [scans.apart.renumbered d 0 more, Nat.zero_add]

example : Dialect.renumbered .postgres 2 "a IN ($8, $9) AND $b = 7" =
    "a IN ($10, $11) AND $b = 7" := by decide +kernel

theorem Scans.marks (scans : Scans d .clear .loose sql lexemes) :
    (Lexeme.scan d (sql.render d 0)).map operands = some (d.marks sql.values.length) := by
  rw [scans.scan, Option.map_some, operands_marked, scans.operands_eq, List.range'_eq_map_range]
  cases d with
  | postgres =>
    have number : ∀ k : Nat, toString ((k : Int) + 1) = toString (k + 1) := fun _ => rfl
    simp [Dialect.marks, Dialect.placeholder, number]
  | mysql | sqlite => simp [Dialect.marks, Dialect.placeholder]

end Sql

end ScopedSql
