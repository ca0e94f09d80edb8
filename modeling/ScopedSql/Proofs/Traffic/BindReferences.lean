import ScopedSql.Proofs.Traffic.NamedBinds

/-! References to binds in a text whose literals may hold colons.

A text with named binds is searched once more, and then every colon in front of a word counts as a
reference, quotes or not. No reference goes across a single quote, so the quotes of a literal keep
what stands outside from its content, and a text whose colons all stand in literals has just the
references that their contents have.
-/

set_option autoImplicit false

namespace ScopedSql.NamedBinds

open Quoting (doubled doubled_cons)
open Sql (isInert)

/-- Whether a text refers to a bind: a colon with some word characters behind it, after which no
colon follows. In front of it stands no colon, no backslash and no word character. -/
def Refers (isWord : Char → Bool) (text : List Char) : Prop :=
  ∃ before word after, text = before ++ ':' :: (word ++ after) ∧ word ≠ [] ∧
    (∀ c ∈ word, isWord c) ∧
    (∀ c ∈ before.getLast?, c ≠ ':' ∧ c ≠ '\\' ∧ isWord c = false) ∧ after.head? ≠ some ':'

variable {isWord : Char → Bool}

theorem not_refers_of_free {cs : List Char} (free : ':' ∉ cs) : ¬ Refers isWord cs := by
  rintro ⟨before, word, after, rfl, -⟩
  exact free (by simp)

/-! ## Quotes -/

section

variable {a b : List Char}

theorem Refers.before_quote (refers : Refers isWord a) : Refers isWord (a ++ '\'' :: b) := by
  obtain ⟨before, word, after, rfl, nonempty, letters, starts, ends⟩ := refers
  refine ⟨before, word, after ++ '\'' :: b, by simp, nonempty, letters, starts, ?_⟩
  cases after with
  | nil => simp
  | cons c after => exact ends

theorem Refers.behind_quote (apart : isWord '\'' = false) (refers : Refers isWord b) :
    Refers isWord (a ++ '\'' :: b) := by
  obtain ⟨before, word, after, rfl, nonempty, letters, starts, ends⟩ := refers
  refine ⟨a ++ '\'' :: before, word, after, by simp, nonempty, letters, ?_, ends⟩
  intro c last
  cases before with
  | nil =>
    obtain rfl : '\'' = c := by simpa using last
    exact ⟨by decide, by decide, apart⟩
  | cons first before => exact starts c (by simpa using last)

-- A word in front of a quote ends there at the latest.
theorem word_before_quote (apart : isWord '\'' = false) {word after : List Char}
    (letters : ∀ c ∈ word, isWord c) (same : a ++ '\'' :: b = word ++ after) :
    ∃ rest, a = word ++ rest ∧ after = rest ++ '\'' :: b := by
  rcases List.append_eq_append_iff.mp same with ⟨more, rfl, quote⟩ | ⟨rest, rfl, later⟩
  · cases more with
    | nil => exact ⟨[], by simp, by simpa using quote.symm⟩
    | cons c more =>
      obtain ⟨rfl, -⟩ := List.cons.inj quote
      cases apart.symm.trans (letters '\'' (by simp))
  · exact ⟨rest, rfl, later⟩

/-- A reference stands on one side of a quote, since a quote belongs to no word. -/
theorem refers_quote_iff (apart : isWord '\'' = false) :
    Refers isWord (a ++ '\'' :: b) ↔ Refers isWord a ∨ Refers isWord b := by
  constructor
  · rintro ⟨before, word, after, same, nonempty, letters, starts, ends⟩
    rcases List.append_eq_append_iff.mp same with ⟨between, rfl, later⟩ | ⟨between, rfl, later⟩
    · cases between with
      | nil => cases (List.cons.inj later).1
      | cons c between =>
        obtain ⟨rfl, rfl⟩ := List.cons.inj later
        refine .inr ⟨between, word, after, rfl, nonempty, letters, fun c last => ?_, ends⟩
        exact starts c (by rw [List.getLast?_append, List.getLast?_cons, last]; rfl)
    · cases between with
      | nil => cases (List.cons.inj later).1
      | cons c between =>
        obtain ⟨rfl, behind⟩ := List.cons.inj later
        obtain ⟨rest, rfl, rfl⟩ := word_before_quote apart letters behind.symm
        refine .inl ⟨before, word, rest, rfl, nonempty, letters, starts, ?_⟩
        cases rest with
        | nil => simp
        | cons c rest => exact ends
  · rintro (refers | refers)
    · exact refers.before_quote
    · exact refers.behind_quote apart

-- Each side of a doubled quote is what one quote has on that side.
theorem refers_doubled_iff (apart : isWord '\'' = false) (before content : List Char) :
    Refers isWord (before ++ doubled '\'' content) ↔ Refers isWord (before ++ content) := by
  induction content generalizing before with
  | nil => rfl
  | cons c content ih =>
    rw [doubled_cons]
    split
    case isTrue quote =>
      subst quote
      have nothing : ¬ Refers isWord [] := not_refers_of_free (by simp)
      have between := refers_quote_iff (a := []) (b := doubled '\'' content) apart
      have later := ih []
      simp only [List.nil_append] at between later
      rw [refers_quote_iff apart, refers_quote_iff apart, between, later]
      simp [nothing]
    case isFalse =>
      have next := ih (before ++ [c])
      simpa using next

end

/-! ## Text around literals -/

theorem stringLiteral_toList (content : String) :
    (Dialect.stringLiteral content).toList =
      '\'' :: (doubled '\'' content.toList ++ ['\'']) := by
  rw [Dialect.stringLiteral, String.toList_ofList]
  rfl

/-- A text that is kept as it is and has colons only in its literals, which have these contents. -/
inductive Encloses : List Char → List String → Prop where
  | nil : Encloses [] []
  | calm {cs rest : List Char} {contents : List String} (kept : Kept cs) (free : ':' ∉ cs)
      (tail : Encloses rest contents) : Encloses (cs ++ rest) contents
  | literal (content : String) {rest : List Char} {contents : List String}
      (tail : Encloses rest contents) :
      Encloses ((Dialect.stringLiteral content).toList ++ rest) (content :: contents)

namespace Encloses

variable {cs ds : List Char} {contents more : List String}

theorem inert (inert : cs.all isInert) : Encloses cs [] := by
  have free : ':' ∉ cs := fun colon => by cases List.all_eq_true.mp inert ':' colon
  have whole := Encloses.calm (kept_inert inert) free .nil
  rwa [List.append_nil] at whole

theorem alone (content : String) :
    Encloses (Dialect.stringLiteral content).toList [content] := by
  have whole := Encloses.literal content .nil
  rwa [List.append_nil] at whole

theorem append (first : Encloses cs contents) (second : Encloses ds more) :
    Encloses (cs ++ ds) (contents ++ more) := by
  induction first with
  | nil => exact second
  | calm kept free _ ih =>
    rw [List.append_assoc]
    exact .calm kept free ih
  | literal content _ ih =>
    rw [List.append_assoc]
    exact .literal content ih

theorem eq_nil (encloses : Encloses cs contents) (empty : cs = []) : contents = [] := by
  induction encloses with
  | nil => rfl
  | calm _ _ _ ih => exact ih (List.append_eq_nil_iff.mp empty).2
  | literal content _ _ =>
    rw [stringLiteral_toList] at empty
    cases empty

theorem kept (encloses : Encloses cs contents) : Kept cs := by
  induction encloses with
  | nil => exact kept_nil
  | calm kept _ _ ih => exact kept.append ih
  | literal content _ ih =>
    rw [stringLiteral_toList]
    exact (kept_quoted (.inl rfl) content.toList).append ih

theorem refers_iff (apart : isWord '\'' = false) (encloses : Encloses cs contents)
    {before : List Char} (free : ':' ∉ before) :
    Refers isWord (before ++ cs) ↔ ∃ content ∈ contents, Refers isWord content.toList := by
  induction encloses generalizing before with
  | nil => simpa using not_refers_of_free free
  | calm _ calm _ ih =>
    rw [← List.append_assoc]
    exact ih (by simp [free, calm])
  | @literal content rest contents _ ih =>
    have inside := refers_doubled_iff apart [] content.toList
    have later : Refers isWord ([] ++ rest) ↔ _ := ih (by simp)
    simp only [List.nil_append] at inside later
    rw [stringLiteral_toList, List.cons_append, List.append_assoc, List.singleton_append,
      refers_quote_iff apart, refers_quote_iff apart, inside, later, List.exists_mem_cons_iff]
    simp [not_refers_of_free free]

end Encloses

theorem ofStatement_kept {sql : String} (kept : Kept sql.toList) (params : List Value) :
    ofStatement sql params = .ok (sql, bindsFrom 0 params) := by
  have found : marks sql = sql.toList.map .kept := by
    have whole := kept []
    rwa [List.append_nil, marksFrom, List.append_nil] at whole
  have text := textFrom_kept 0 sql.toList []
  rw [List.append_nil, textFrom, List.append_nil] at text
  rw [ofStatement, named, found, if_pos (all_isReadable_kept _), text, String.ofList_toList]
  rfl

end ScopedSql.NamedBinds
