import ScopedSql.Proofs.Definition.Quoting

/-! Default texts where a backslash escapes.

A default is quoted alike in all dialects: its quotes are doubled and its backslashes stay. Where a
backslash takes the next character as it is, an odd run of them takes the first quote of a doubled
one, or the last quote of all. From the second quote on the text is no longer the literal that was
meant, and it never is one again.
-/

set_option autoImplicit false

namespace ScopedSql

namespace Quoting

/-! ## Runs of backslashes -/

def trailing (cs : List Char) : Nat :=
  (cs.rtakeWhile (· = '\\')).length

theorem trailing_backslash (cs : List Char) : trailing (cs ++ ['\\']) = trailing cs + 1 := by
  rw [trailing, List.rtakeWhile_concat_pos _ _ _ (by decide), List.length_append]
  rfl

theorem trailing_other (cs : List Char) {c : Char} (other : c ≠ '\\') :
    trailing (cs ++ [c]) = 0 := by
  rw [trailing, List.rtakeWhile_concat_neg _ _ _ (by simpa using other), List.length_nil]

/-- An even number of backslashes stands in front of each quote of a text and at its end. What
stands before the text counts with it. -/
def Paired (before cs : List Char) : Prop :=
  ∀ n ≤ cs.length, n = cs.length ∨ cs[n]? = some '\'' → Even (trailing (before ++ cs.take n))

theorem paired_nil {before : List Char} : Paired before [] ↔ Even (trailing before) := by
  simp [Paired]

theorem paired_cons {before cs : List Char} {c : Char} :
    Paired before (c :: cs) ↔
      (c = '\'' → Even (trailing before)) ∧ Paired (before ++ [c]) cs := by
  constructor
  · intro paired
    refine ⟨fun quote => ?_, fun n within stands => ?_⟩
    · simpa using paired 0 (Nat.zero_le _) (.inr (by simp [quote]))
    · simpa using paired (n + 1) (by simpa using within) (by simpa using stands)
  · rintro ⟨first, later⟩ n within stands
    cases n with
    | zero =>
      have quote : c = '\'' := by simpa using stands
      simpa using first quote
    | succ n => simpa using later n (by simpa using within) (by simpa using stands)

/-! ## Literals that end early -/

variable {q : Quoting}

theorem continued_ne_nothing {b : Begun} {c : Char} : q.continued b c ≠ some .nothing := by
  cases b with
  | nothing => simp [continued]
  | escaped cs => simp [continued]
  | word cs => rw [continued]; split <;> simp
  | ended span cs => rw [continued]; split <;> simp
  | inside span cs =>
    rw [continued]
    split
    · simp
    · split <;> simp

-- A text that ends with a quote has tokens.
theorem tokens_quote_ne_nil {b : Begun} {t : List Char} {ts : List Token}
    (read : q.tokens b (t ++ [q.mark .literal]) = some ts) : ts ≠ [] := by
  induction t generalizing b ts with
  | nil =>
    rcases tokens_cons_eq_some read with ⟨b', goes, ends⟩ | ⟨last, more, _, _, later, _⟩
    · rintro rfl
      cases b' with
      | nothing => exact continued_ne_nothing goes
      | _ => cases ends
    · rw [begun_mark] at later
      cases later
  | cons c t ih =>
    rcases tokens_cons_eq_some read with ⟨b', _, later⟩ | ⟨last, more, _, _, later, rfl⟩
    · exact ih later
    · simp [ih later]

theorem tokens_quote_inside (content rest : List Char) :
    q.tokens (.inside .literal content) ('\'' :: rest) = q.tokens (.ended .literal content) rest :=
  tokens_continued (q.continued_inside_mark .literal content) rest

theorem tokens_quote_ended (content rest : List Char) :
    q.tokens (.ended .literal content) ('\'' :: rest) =
      q.tokens (.inside .literal (content ++ ['\''])) rest :=
  tokens_continued (q.continued_ended_mark .literal content) rest

theorem tokens_quote_escaped (content rest : List Char) :
    q.tokens (.escaped content) ('\'' :: rest) =
      q.tokens (.inside .literal (content ++ ['\''])) rest := rfl

-- Behind a quote that has ended the literal there is more than that literal.
theorem tokens_ended_ne_literal (content cs : List Char) (whole : String) :
    q.tokens (.ended .literal content) (doubled '\'' cs ++ ['\'']) ≠ some [.literal whole] := by
  induction cs generalizing content with
  | nil =>
    rw [doubled, List.flatMap_nil, List.nil_append, tokens_quote_ended]
    rintro ⟨⟩
  | cons c cs ih =>
    rw [doubled_cons]
    split
    · rw [List.cons_append, List.cons_append, tokens_quote_ended, tokens_quote_inside]
      exact ih _
    · next other =>
      have stops : q.continued (.ended .literal content) c = none := if_neg other
      rw [List.cons_append, tokens_begun stops rfl]
      intro read
      obtain ⟨more, later, same⟩ := Option.map_eq_some_iff.mp read
      have more_tokens : more ≠ [] := tokens_quote_ne_nil later
      have rest : (q.begun c).1 ++ more = [] := (List.cons.inj same).2
      exact more_tokens (List.append_eq_nil_iff.mp rest).2

/-! ## Literals that end where they should -/

/-- The state of a literal behind these characters: an odd run of backslashes takes the next one. -/
def within (before content : List Char) : Begun :=
  if Even (trailing before) then .inside .literal content else .escaped content

theorem within_other (before : List Char) {c : Char} (other : c ≠ '\\') (content : List Char) :
    within (before ++ [c]) content = .inside .literal content := by
  rw [within, trailing_other before other, if_pos Even.zero]

-- A character that is no quote leads to the state behind it.
theorem continued_within (escapes : q.escapes) (before content : List Char) {c : Char}
    (other : c ≠ '\'') :
    ∃ content', q.continued (within before content) c = some (within (before ++ [c]) content') := by
  by_cases even : Even (trailing before)
  · rw [within, if_pos even]
    by_cases backslash : c = '\\'
    · subst backslash
      have odd : ¬ Even (trailing before + 1) := by simpa [Nat.even_add_one] using even
      refine ⟨content, ?_⟩
      rw [within, trailing_backslash, if_neg odd, continued]
      simp [mark, escapes]
    · refine ⟨content ++ [c], ?_⟩
      rw [within_other before backslash]
      exact continued_inside other (fun escape => backslash escape.1) content
  · rw [within, if_neg even]
    refine ⟨content ++ [c], ?_⟩
    by_cases backslash : c = '\\'
    · subst backslash
      have next : Even (trailing before + 1) := by simpa [Nat.even_add_one] using even
      rw [within, trailing_backslash, if_pos next]
      rfl
    · rw [within_other before backslash]
      rfl

theorem tokens_within_iff (escapes : q.escapes) (before cs content : List Char) :
    (∃ whole, q.tokens (within before content) (doubled '\'' cs ++ ['\'']) =
      some [.literal whole]) ↔ Paired before cs := by
  induction cs generalizing before content with
  | nil =>
    rw [paired_nil, doubled, List.flatMap_nil, List.nil_append, within]
    split
    · next even =>
      rw [tokens_quote_inside]
      exact iff_of_true ⟨_, rfl⟩ even
    · next odd =>
      rw [tokens_quote_escaped]
      refine iff_of_false ?_ odd
      rintro ⟨_, ⟨⟩⟩
  | cons c cs ih =>
    rw [paired_cons, doubled_cons]
    by_cases quote : c = '\''
    · subst quote
      rw [if_pos rfl, List.cons_append, List.cons_append]
      by_cases even : Even (trailing before)
      · -- the two quotes stand for one
        have behind := ih (before ++ ['\'']) (content ++ ['\''])
        rw [within_other before (by decide)] at behind
        rw [within, if_pos even, tokens_quote_inside, tokens_quote_ended]
        simp only [even, imp_self, true_and]
        exact behind
      · -- the first of the two quotes is taken by a backslash, and the second ends the literal
        rw [within, if_neg even, tokens_quote_escaped, tokens_quote_inside]
        refine iff_of_false ?_ fun paired => even (paired.1 rfl)
        rintro ⟨whole, read⟩
        exact tokens_ended_ne_literal _ cs whole read
    · obtain ⟨content', goes⟩ := continued_within escapes before content quote
      rw [if_neg quote, List.cons_append, tokens_continued goes, ih]
      simp [quote]

/-- Behind its first quote a literal is read as its doubled text is, with nothing before it. -/
theorem read_stringLiteral (q : Quoting) (s : String) :
    q.read (Dialect.stringLiteral s) =
      q.tokens (within [] []) (doubled '\'' s.toList ++ ['\'']) := by
  have quote : q.begun '\'' = ([], .inside .literal []) := q.begun_mark .literal
  rw [read, Dialect.stringLiteral, String.toList_ofList]
  refine (tokens_begun (b := .nothing) rfl rfl _).trans ?_
  rw [quote]
  simp [within, trailing, doubled]

end Quoting

/-- Where backslashes escape, a default that is a text, but not the current time, is one literal
just if an even number of backslashes stands in front of each of its quotes and at its end. -/
theorem default_of_text_is_one_literal_iff (s : String)
    (other : Text.capital s ≠ "CURRENT_TIMESTAMP") :
    (∃ content, (⟨.mysql, true⟩ : Quoting).read (Dialect.mysql.defaultText (.text s)) =
      some [.literal content]) ↔ Quoting.Paired [] s.toList := by
  have text : Dialect.mysql.defaultText (.text s) = Dialect.stringLiteral s := by
    simp [Dialect.defaultText, Value.asText?, other, Value.plain]
  have escapes : (⟨.mysql, true⟩ : Quoting).escapes := rfl
  rw [text, Quoting.read_stringLiteral, Quoting.tokens_within_iff escapes]

theorem default_with_backslashes_in_pairs_is_one_literal :
    Text.capital "C:\\\\it's" ≠ "CURRENT_TIMESTAMP" ∧ Quoting.Paired [] "C:\\\\it's".toList := by
  have other : Text.capital "C:\\\\it's" ≠ "CURRENT_TIMESTAMP" := by decide +kernel
  exact ⟨other, (default_of_text_is_one_literal_iff _ other).mp ⟨"C:\\it's", by decide +kernel⟩⟩

/-- A single backslash takes the quote that should end its literal, which stays open. -/
theorem default_of_one_backslash_stays_open :
    Text.capital "\\" ≠ "CURRENT_TIMESTAMP" ∧
      Dialect.mysql.defaultText (.text "\\") = "'\\'" ∧
      (⟨.mysql, true⟩ : Quoting).read (Dialect.mysql.defaultText (.text "\\")) = none := by
  decide +kernel

end ScopedSql
