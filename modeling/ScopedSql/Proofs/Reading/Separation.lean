import ScopedSql.Proofs.Reading.Renumbering

/-! Pieces that keep apart when they are rendered.

Behind a name or a placeholder comes a delimiter or nothing, and no fixed text holds a quote or the
sign of a placeholder. So whoever goes through a rendered text meets its names and placeholders one
after the other and nothing else, whatever the dialect and the position.
-/

set_option autoImplicit false

namespace ScopedSql

def Lexeme.isPlaceholderSign (c : Char) : Bool :=
  c = '$' || c = '?'

theorem Lexeme.not_isPlaceholderSign {c : Char} (rest : Identifier.isRest c) :
    ¬isPlaceholderSign c := by
  intro sign
  rcases (by simpa [isPlaceholderSign] using sign : c = '$' ∨ c = '?') with rfl | rfl <;>
    cases rest

namespace Sql

open Lexeme

theorem mem_of_mem_intercalate {α : Type} {separator : List α} {lists : List (List α)} {x : α}
    (member : x ∈ separator.intercalate lists) : x ∈ separator ∨ ∃ xs ∈ lists, x ∈ xs := by
  induction lists with
  | nil => cases member
  | cons first rest ih =>
    cases rest with
    | nil => exact .inr ⟨first, by simp, by simpa using member⟩
    | cons second rest =>
      rw [List.intercalate_cons_cons] at member
      rcases List.mem_append.mp member with head | tail
      · rcases List.mem_append.mp head with inFirst | between
        · exact .inr ⟨first, by simp, inFirst⟩
        · exact .inl between
      · rcases ih tail with between | ⟨xs, later, inside⟩
        · exact .inl between
        · exact .inr ⟨xs, by simp [later], inside⟩

theorem mem_quote {d : Dialect} {n : Identifier} {c : Char} (member : c ∈ (d.quote n).toList) :
    c = '.' ∨ c = d.quoteChar ∨ Identifier.isRest c := by
  rw [Scan.quote_toList] at member
  rcases mem_of_mem_intercalate member with dot | ⟨quoted, among, inside⟩
  · exact .inl (List.mem_singleton.mp dot)
  · obtain ⟨segment, segments, rfl⟩ := List.mem_map.mp among
    rcases (by simpa [Scan.quotedSegment] using inside :
        c = d.quoteChar ∨ c ∈ segment.toList ∨ c = d.quoteChar) with rfl | letter | rfl
    · exact .inr (.inl rfl)
    · exact .inr (.inr
        (Identifier.isRest_of_mem (List.all_eq_true.mp n.wellFormed segment segments) letter))
    · exact .inr (.inl rfl)

theorem countP_quote (d : Dialect) (n : Identifier) :
    (d.quote n).toList.countP isPlaceholderSign = 0 := by
  rw [List.countP_eq_zero]
  intro c member
  rcases mem_quote member with rfl | rfl | letter
  · decide
  · cases d <;> decide
  · exact not_isPlaceholderSign letter

theorem isDigit_of_mem_repr {n : Nat} {c : Char} (member : c ∈ Nat.toDigits 10 n) : c.isDigit :=
  Nat.isDigit_of_mem_toDigits (by decide) (by decide) member

theorem isRest_of_mem_repr {n : Nat} {c : Char} (member : c ∈ Nat.toDigits 10 n) :
    Identifier.isRest c := by
  simp [Identifier.isRest, Char.isAlphanum, isDigit_of_mem_repr member]

theorem placeholder_postgres (position : Nat) :
    (Dialect.placeholder .postgres position).toList = '$' :: Nat.toDigits 10 (position + 1) := by
  have number : toString ((position : Int) + 1) = toString (position + 1) := rfl
  simp [Dialect.placeholder, number]

theorem countP_placeholder (d : Dialect) (position : Nat) :
    (d.placeholder position).toList.countP isPlaceholderSign = 1 := by
  cases d with
  | postgres =>
    have digits : (Nat.toDigits 10 (position + 1)).countP isPlaceholderSign = 0 := by
      rw [List.countP_eq_zero]
      exact fun c member => not_isPlaceholderSign (isRest_of_mem_repr member)
    rw [placeholder_postgres, List.countP_cons, digits]
    rfl
  | mysql | sqlite => simp [Dialect.placeholder, isPlaceholderSign]

/-! ## Edges of pieces -/

/-- What fixed text consists of: no quote, and no sign of a placeholder or a bind. -/
def isInert (c : Char) : Bool :=
  c ≠ '\'' && c ≠ '"' && c ≠ '`' && c ≠ ':' && !isPlaceholderSign c

theorem isInert_of_isRest {c : Char} (rest : Identifier.isRest c) : isInert c := by
  have single : c ≠ '\'' := by rintro rfl; cases rest
  have double : c ≠ '"' := by rintro rfl; cases rest
  have back : c ≠ '`' := by rintro rfl; cases rest
  have colon : c ≠ ':' := by rintro rfl; cases rest
  simp [isInert, single, double, back, colon, not_isPlaceholderSign rest]

theorem countP_inert {cs : List Char} (inert : cs.all isInert) :
    cs.countP isPlaceholderSign = 0 := by
  rw [List.countP_eq_zero]
  intro c member sign
  have free := List.all_eq_true.mp inert c member
  simp [isInert, sign] at free

/-- From an edge of the first kind to one of the second no piece runs into the piece before it. -/
inductive Apart : Edge → Edge → Sql → Prop where
  | nil {first last : Edge} (reached : first = .clear ∨ last = .loose) : Apart first last []
  | text {last : Edge} {t : String} {rest : Sql} (inert : t.toList.all isInert)
    (tail : Apart .clear last rest) : Apart .clear last (.text t :: rest)
  | delimited {last : Edge} {t : String} {rest : Sql} (inert : t.toList.all isInert)
    (begins : t.toList.head?.any Scan.isDelimiter) (tail : Apart .clear last rest) :
    Apart .loose last (.text t :: rest)
  | name {last : Edge} {n : Identifier} {rest : Sql} (tail : Apart .loose last rest) :
    Apart .clear last (.name n :: rest)
  | bound {last : Edge} {x : Value} {rest : Sql} (tail : Apart .loose last rest) :
    Apart .clear last (.bound x :: rest)

namespace Apart

variable {first middle last : Edge} {s t sql : Sql}

-- What can follow any edge can follow a clear one.
theorem afterClear (apart : Apart first last sql) : Apart .clear last sql := by
  cases apart with
  | nil reached => exact .nil (.inl rfl)
  | text inert tail => exact .text inert tail
  | delimited inert _ tail => exact .text inert tail
  | name tail => exact .name tail
  | bound tail => exact .bound tail

theorem toLoose (apart : Apart first last sql) : Apart first .loose sql := by
  induction apart with
  | nil reached => exact .nil (.inr rfl)
  | text inert _ ih => exact .text inert ih
  | delimited inert begins _ ih => exact .delimited inert begins ih
  | name _ ih => exact .name ih
  | bound _ ih => exact .bound ih

theorem append (left : Apart first middle s) (right : Apart middle last t) :
    Apart first last (s ++ t) := by
  induction left with
  | @nil first middle reached =>
    rcases reached with rfl | rfl
    · exact right.afterClear
    · cases first with
      | clear => exact right.afterClear
      | loose => exact right
  | text inert _ ih => exact .text inert (ih right)
  | delimited inert begins _ ih => exact .delimited inert begins (ih right)
  | name _ ih => exact .name (ih right)
  | bound _ ih => exact .bound (ih right)

theorem inert {t : String} (apart : Apart first last [.text t]) : t.toList.all isInert := by
  cases apart with
  | text inert _ => exact inert
  | delimited inert _ _ => exact inert

theorem fuse {t u : String} (left : Apart first middle [.text t])
    (right : Apart middle last [.text u]) : Apart first last [.text (t ++ u)] := by
  have both : (t ++ u).toList.all isInert := by
    rw [String.toList_append, List.all_append, left.inert, right.inert]
    rfl
  cases left with
  | text _ _ => exact .text both (.nil (.inl rfl))
  | delimited _ begins _ =>
    refine .delimited both ?_ (.nil (.inl rfl))
    cases characters : t.toList with
    | nil => simp [characters] at begins
    | cons c rest => simpa [characters] using begins

/-- Outside the placeholders of bound values, no sign of a placeholder is in the text. -/
theorem countP_render (apart : Apart first last sql) (d : Dialect) (start : Nat) :
    (sql.render d start).toList.countP isPlaceholderSign = sql.values.length := by
  induction apart generalizing start with
  | nil reached => rfl
  | text inert _ ih | delimited inert _ _ ih => simp [render, values, countP_inert inert, ih]
  | name _ ih => simp [render, values, countP_quote, ih]
  | bound _ ih => simp [render, values, countP_placeholder, ih, Nat.add_comm 1]

end Apart

/-! ## Raised numbers -/

theorem ne_sign_of_countP {cs : List Char} (unmarked : cs.countP isPlaceholderSign = 0) :
    ∀ c ∈ cs, c ≠ '$' := by
  rintro c member rfl
  exact (List.countP_eq_zero.mp unmarked) '$' member rfl

/-- From an edge of the first kind, the pieces rendered at one position and copied with raised
numbers are the pieces rendered at the raised position. -/
def Renumbers (d : Dialect) (first last : Edge) (sql : Sql) : Prop :=
  ∀ (more position : Nat) (r : Renumbering), r.At first →
    (r.run more (sql.render d position).toList).At last ∧
      (r.run more (sql.render d position).toList).result more =
        r.result more ++ (sql.render d (position + more)).toList

theorem Renumbers.append {d : Dialect} {first middle last : Edge} {s t : Sql}
    (left : Renumbers d first middle s) (right : Renumbers d middle last t) :
    Renumbers d first last (s ++ t) := by
  intro more position r reached
  obtain ⟨between, copied⟩ := left more position r reached
  obtain ⟨ends, both⟩ := right more (position + (values s).length) _ between
  rw [render_append, render_append, String.toList_append, String.toList_append,
    Renumbering.run_append]
  refine ⟨ends, ?_⟩
  rw [both, copied, List.append_assoc, Nat.add_right_comm]

theorem Renumbers.text {d : Dialect} {last : Edge} {t : String}
    (unmarked : t.toList.countP isPlaceholderSign = 0) : Renumbers d .clear last [.text t] := by
  intro more position r reached
  have copied := Renumbering.run_plain more reached (ne_sign_of_countP unmarked)
  simp only [render, String.append_empty, copied, Renumbering.result_of_clear more reached]
  exact ⟨.of_clear rfl, Renumbering.result_of_clear more rfl⟩

theorem Renumbers.delimited {d : Dialect} {last : Edge} {t : String}
    (unmarked : t.toList.countP isPlaceholderSign = 0)
    (begins : t.toList.head?.any Scan.isDelimiter) : Renumbers d .loose last [.text t] := by
  intro more position r _
  cases characters : t.toList with
  | nil => simp [characters] at begins
  | cons c rest =>
    have delimiter : Scan.isDelimiter c := by simpa [characters] using begins
    have signs := ne_sign_of_countP unmarked
    have plain : ∀ c ∈ rest, c ≠ '$' := fun c member => signs c (by simp [characters, member])
    have copied := Renumbering.run_delimiter more (r := r) delimiter plain
    simp only [render, String.append_empty, characters, copied]
    exact ⟨.of_clear rfl, Renumbering.result_of_clear more rfl⟩

theorem Renumbers.name (d : Dialect) (n : Identifier) : Renumbers d .clear .loose [.name n] := by
  intro more position r reached
  have copied := Renumbering.run_plain more reached (ne_sign_of_countP (countP_quote d n))
  simp only [render, String.append_empty, copied, Renumbering.result_of_clear more reached]
  exact ⟨trivial, Renumbering.result_of_clear more rfl⟩

theorem Renumbers.bound (d : Dialect) (x : Value) : Renumbers d .clear .loose [.bound x] := by
  intro more position r reached
  rw [Renumbering.result_of_clear more reached]
  simp only [render, String.append_empty]
  refine ⟨trivial, ?_⟩
  cases d with
  | postgres =>
    rw [placeholder_postgres, placeholder_postgres, Renumbering.run_placeholder more reached,
      Nat.add_right_comm]
  | mysql | sqlite =>
    have mark : "?".toList = ['?'] := rfl
    simp only [Dialect.placeholder, mark]
    rw [Renumbering.run_plain more reached (by simp)]
    exact Renumbering.result_of_clear more rfl

-- Whatever follows a placeholder keeps its number from going on.
theorem Apart.renumbers {first last : Edge} {sql : Sql} (apart : Apart first last sql)
    (d : Dialect) : Renumbers d first last sql := by
  induction apart with
  | nil reached =>
    intro more position r at_first
    refine ⟨?_, by simp [render, Renumbering.run]⟩
    rcases reached with rfl | rfl
    · exact .of_clear at_first
    · trivial
  | text inert _ ih => exact (Renumbers.text (countP_inert inert)).append ih
  | delimited inert begins _ ih =>
    exact (Renumbers.delimited (countP_inert inert) begins).append ih
  | @name _ n _ _ ih => exact (Renumbers.name d n).append ih
  | @bound _ x _ _ ih => exact (Renumbers.bound d x).append ih

end Sql

end ScopedSql
