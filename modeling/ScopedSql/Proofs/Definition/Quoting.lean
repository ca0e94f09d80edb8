import ScopedSql.Proofs.Reading.Scanning

/-! Tokens of a text with quoted names and literals.

Outside quotes a text is words, brackets and commas. Between quotes every character stands for
itself, and the quote for itself where it is written twice; with escapes a backslash in a literal
takes the next character as it is. Two texts with a break between them are read one by one.
-/

set_option autoImplicit false

namespace ScopedSql

/-- How a text is quoted: the dialect has the quote of names, and literals may have escapes. -/
structure Quoting where
  dialect : Dialect
  escapes : Bool

def Dialect.quoting (d : Dialect) : Quoting :=
  ⟨d, false⟩

namespace Quoting

inductive Token where
  | name (segment : String)
  | literal (content : String)
  | word (letters : String)
  | opening
  | closing
  | comma
  deriving DecidableEq, Repr

inductive Span where
  | name
  | literal
  deriving DecidableEq, Repr

def Span.token (content : List Char) : Span → Token
  | .name => .name (String.ofList content)
  | .literal => .literal (String.ofList content)

/-- The token that the last characters have begun. A quote within it is its end, if no other quote
follows. -/
inductive Begun where
  | nothing
  | word (cs : List Char)
  | inside (span : Span) (cs : List Char)
  | escaped (cs : List Char)
  | ended (span : Span) (cs : List Char)
  deriving DecidableEq, Repr

def isBreak (c : Char) : Bool :=
  c.isWhitespace || c = '(' || c = ')' || c = ','

variable (q : Quoting)

def mark : Span → Char
  | .name => q.dialect.quoteChar
  | .literal => '\''

def isWordChar (c : Char) : Bool :=
  !isBreak c && c ≠ q.mark .name && c ≠ q.mark .literal

def continued : Begun → Char → Option Begun
  | .nothing, _ => none
  | .word cs, c => if q.isWordChar c then some (.word (cs ++ [c])) else none
  | .inside span cs, c =>
    if c = q.mark span then some (.ended span cs)
    else if c = '\\' ∧ span = .literal ∧ q.escapes then some (.escaped cs)
    else some (.inside span (cs ++ [c]))
  | .escaped cs, c => some (.inside .literal (cs ++ [c]))
  | .ended span cs, c => if c = q.mark span then some (.inside span (cs ++ [c])) else none

-- An open quote cannot end.
def finished : Begun → Option (List Token)
  | .nothing => some []
  | .word cs => some [.word (String.ofList cs)]
  | .ended span cs => some [span.token cs]
  | .inside .. | .escaped _ => none

def begun (c : Char) : List Token × Begun :=
  if c.isWhitespace then ([], .nothing)
  else if c = '(' then ([.opening], .nothing)
  else if c = ')' then ([.closing], .nothing)
  else if c = ',' then ([.comma], .nothing)
  else if c = q.mark .name then ([], .inside .name [])
  else if c = q.mark .literal then ([], .inside .literal [])
  else ([], .word [c])

def tokens : Begun → List Char → Option (List Token)
  | b, [] => finished b
  | b, c :: rest =>
    match q.continued b c with
    | some b => tokens b rest
    | none =>
      (finished b).bind fun last =>
        (tokens (q.begun c).2 rest).map fun more => last ++ ((q.begun c).1 ++ more)

def read (text : String) : Option (List Token) :=
  q.tokens .nothing text.toList

/-! ## One character -/

section

variable {q} {b b' : Begun} {c : Char} {last ts : List Token} {rest : List Char}

theorem tokens_continued (goes : q.continued b c = some b') (rest : List Char) :
    q.tokens b (c :: rest) = q.tokens b' rest := by
  simp only [tokens, goes]

theorem tokens_begun (stops : q.continued b c = none) (ends : finished b = some last)
    (rest : List Char) :
    q.tokens b (c :: rest) =
      (q.tokens (q.begun c).2 rest).map fun more => last ++ ((q.begun c).1 ++ more) := by
  rw [tokens, stops]
  simp only [ends, Option.bind_some]

theorem tokens_cons_eq_some (read : q.tokens b (c :: rest) = some ts) :
    (∃ b', q.continued b c = some b' ∧ q.tokens b' rest = some ts) ∨
      ∃ last more, q.continued b c = none ∧ finished b = some last ∧
        q.tokens (q.begun c).2 rest = some more ∧ last ++ ((q.begun c).1 ++ more) = ts := by
  rw [tokens] at read
  split at read
  · next b' goes => exact .inl ⟨b', goes, read⟩
  · next stops =>
    simp only [Option.bind_eq_some_iff, Option.map_eq_some_iff] at read
    obtain ⟨last, ends, more, read, whole⟩ := read
    exact .inr ⟨last, more, stops, ends, read, whole⟩

theorem tokens_ended (ends : finished b = some last)
    (apart : ∀ c ∈ rest.head?, q.continued b c = none) :
    q.tokens b rest = (q.tokens .nothing rest).map (last ++ ·) := by
  cases rest with
  | nil =>
    rw [tokens, tokens, ends]
    simp [finished]
  | cons c rest =>
    rw [tokens_begun (apart c rfl) ends, tokens_begun (b := .nothing) rfl rfl, Option.map_map]
    rfl

end

/-! ## Breaks -/

section

variable {q} {b b' : Begun} {c : Char}

theorem not_isWordChar_of_isBreak (breaks : isBreak c) : ¬ q.isWordChar c := by
  simp [isWordChar, breaks]

theorem ne_mark_of_isBreak (breaks : isBreak c) (span : Span) : c ≠ q.mark span := by
  rintro rfl
  obtain ⟨d, escapes⟩ := q
  cases span <;> cases d <;> cases breaks

theorem continued_of_isBreak {last : List Token} (ends : finished b = some last)
    (breaks : isBreak c) : q.continued b c = none := by
  cases b with
  | nothing => rfl
  | word cs => exact if_neg (not_isWordChar_of_isBreak breaks)
  | ended span cs => exact if_neg (ne_mark_of_isBreak breaks span)
  | inside | escaped => cases ends

-- A break that belongs to a token stands between quotes.
theorem finished_of_continued (breaks : isBreak c) (goes : q.continued b c = some b') :
    finished b' = none := by
  cases b with
  | nothing => cases goes
  | word cs =>
    rw [continued, if_neg (not_isWordChar_of_isBreak breaks)] at goes
    cases goes
  | ended span cs =>
    rw [continued, if_neg (ne_mark_of_isBreak breaks span)] at goes
    cases goes
  | escaped cs =>
    cases goes
    rfl
  | inside span cs =>
    rw [continued, if_neg (ne_mark_of_isBreak breaks span)] at goes
    split at goes
    · cases goes
      rfl
    · cases goes
      rfl

theorem begun_of_isBreak (breaks : isBreak c) : (q.begun c).2 = .nothing := by
  simp only [isBreak, Bool.or_eq_true, decide_eq_true_eq] at breaks
  unfold begun
  split
  · rfl
  · split
    · rfl
    · split
      · rfl
      · rw [if_pos (by tauto)]

end

/-! ## Texts one behind the other -/

section

variable {q} {b : Begun} {t : List Char} {ts : List Token}

/-- A text is read in front of a break as it is on its own. -/
theorem tokens_append (read : q.tokens b t = some ts) {rest : List Char}
    (breaks : ∀ c ∈ rest.head?, isBreak c) :
    q.tokens b (t ++ rest) = (q.tokens .nothing rest).map (ts ++ ·) := by
  induction t generalizing b ts with
  | nil => exact tokens_ended read fun c first => continued_of_isBreak read (breaks c first)
  | cons c t ih =>
    rcases tokens_cons_eq_some read with ⟨b', goes, later⟩ | ⟨last, more, stops, ends, later, rfl⟩
    · rw [List.cons_append, tokens_continued goes, ih later]
    · rw [List.cons_append, tokens_begun stops ends, ih later, Option.map_map]
      simp [Function.comp_def]

/-- Behind a break a text is read as it is on its own. -/
theorem tokens_append_of_break {c : Char} (read : q.tokens b (t ++ [c]) = some ts)
    (breaks : isBreak c) (rest : List Char) :
    q.tokens b (t ++ c :: rest) = (q.tokens .nothing rest).map (ts ++ ·) := by
  induction t generalizing b ts with
  | nil =>
    rcases tokens_cons_eq_some read with ⟨b', goes, later⟩ | ⟨last, more, stops, ends, later, rfl⟩
    · rw [tokens, finished_of_continued breaks goes] at later
      cases later
    · rw [begun_of_isBreak breaks] at later
      cases later
      rw [List.nil_append, tokens_begun stops ends, begun_of_isBreak breaks, List.append_nil]
      simp
  | cons first t ih =>
    rcases tokens_cons_eq_some read with ⟨b', goes, later⟩ | ⟨last, more, stops, ends, later, rfl⟩
    · rw [List.cons_append, tokens_continued goes, ih later]
    · rw [List.cons_append, tokens_begun stops ends, ih later, Option.map_map]
      simp [Function.comp_def]

end

theorem read_append {q : Quoting} {t u : String} {ts us : List Token} (first : q.read t = some ts)
    (second : q.read u = some us) (breaks : u.toList.head?.any isBreak) :
    q.read (t ++ u) = some (ts ++ us) := by
  have apart : ∀ c ∈ u.toList.head?, isBreak c := by
    intro c head
    rw [head] at breaks
    exact breaks
  rw [read, String.toList_append, tokens_append first apart, ← read, second]
  rfl

theorem read_append_of_break {q : Quoting} {t u : String} {ts us : List Token}
    (first : q.read t = some ts) (breaks : t.toList.getLast?.any isBreak)
    (second : q.read u = some us) : q.read (t ++ u) = some (ts ++ us) := by
  obtain ⟨c, last, breaks⟩ := (Option.any_eq_true _ _).mp breaks
  obtain ⟨front, characters⟩ := List.getLast?_eq_some_iff.mp last
  rw [read, characters] at first
  rw [read, String.toList_append, characters, List.append_assoc, List.singleton_append,
    tokens_append_of_break first breaks, ← read, second]
  rfl

/-! ## Words -/

section

variable {q : Quoting}

theorem begun_of_isWordChar {c : Char} (belongs : q.isWordChar c) :
    q.begun c = ([], .word [c]) := by
  simp only [isWordChar, isBreak, Bool.and_eq_true, Bool.not_eq_true', Bool.or_eq_false_iff,
    decide_eq_true_eq, decide_eq_false_iff_not] at belongs
  obtain ⟨⟨⟨⟨⟨blank, opening⟩, closing⟩, comma⟩, name⟩, literal⟩ := belongs
  simp [begun, blank, opening, closing, comma, name, literal]

theorem tokens_word {cs : List Char} (belong : ∀ c ∈ cs, q.isWordChar c) (before : List Char) :
    q.tokens (.word before) cs = some [.word (String.ofList (before ++ cs))] := by
  induction cs generalizing before with
  | nil => rw [tokens, finished, List.append_nil]
  | cons c cs ih =>
    have goes : q.continued (.word before) c = some (.word (before ++ [c])) :=
      if_pos (belong c List.mem_cons_self)
    rw [tokens_continued goes, ih (fun c member => belong c (List.mem_cons_of_mem _ member)),
      List.append_assoc, List.singleton_append]

theorem read_word {s : String} (nonempty : s ≠ "") (belong : ∀ c ∈ s.toList, q.isWordChar c) :
    q.read s = some [.word s] := by
  obtain ⟨c, cs, characters⟩ := List.exists_cons_of_ne_nil (mt String.toList_eq_nil_iff.mp nonempty)
  rw [characters] at belong
  rw [read, characters, tokens_begun (b := .nothing) rfl rfl,
    begun_of_isWordChar (belong c List.mem_cons_self),
    tokens_word fun c member => belong c (List.mem_cons_of_mem _ member)]
  simp [← characters]

end

/-! ## Quoted texts -/

def doubled (mark : Char) (content : List Char) : List Char :=
  content.flatMap fun c => if c = mark then [mark, mark] else [c]

theorem doubled_cons (mark c : Char) (content : List Char) :
    doubled mark (c :: content) =
      if c = mark then mark :: mark :: doubled mark content else c :: doubled mark content := by
  rw [doubled, List.flatMap_cons, ← doubled]
  split
  · rfl
  · rfl

theorem doubled_of_absent {mark : Char} {content : List Char} (absent : mark ∉ content) :
    doubled mark content = content := by
  induction content with
  | nil => rfl
  | cons c content ih =>
    obtain ⟨other, absent⟩ := not_or.mp (mt List.mem_cons.mpr absent)
    rw [doubled_cons, if_neg (Ne.symm other), ih absent]

section

variable {q : Quoting} {span : Span}

theorem begun_mark (q : Quoting) (span : Span) : q.begun (q.mark span) = ([], .inside span []) := by
  obtain ⟨d, escapes⟩ := q
  cases span <;> cases d <;> rfl

theorem continued_inside_mark (q : Quoting) (span : Span) (cs : List Char) :
    q.continued (.inside span cs) (q.mark span) = some (.ended span cs) := if_pos rfl

theorem continued_ended_mark (q : Quoting) (span : Span) (cs : List Char) :
    q.continued (.ended span cs) (q.mark span) = some (.inside span (cs ++ [q.mark span])) :=
  if_pos rfl

theorem continued_inside {c : Char} (other : c ≠ q.mark span)
    (plain : ¬ (c = '\\' ∧ span = .literal ∧ q.escapes)) (cs : List Char) :
    q.continued (.inside span cs) c = some (.inside span (cs ++ [c])) := by
  rw [continued, if_neg other, if_neg plain]

theorem tokens_inside (plain : q.escapes → span ≠ .literal) (content before rest : List Char) :
    q.tokens (.inside span before) (doubled (q.mark span) content ++ rest) =
      q.tokens (.inside span (before ++ content)) rest := by
  induction content generalizing before with
  | nil => rw [List.append_nil]; rfl
  | cons c content ih =>
    have tail := ih (before ++ [c])
    rw [List.append_assoc, List.singleton_append] at tail
    rw [doubled_cons]
    split
    · next quote =>
      subst quote
      rw [List.cons_append, List.cons_append, tokens_continued (q.continued_inside_mark _ _),
        tokens_continued (q.continued_ended_mark _ _), tail]
    · next other =>
      have goes := continued_inside other (fun escape => plain escape.2.2 escape.2.1) before
      rw [List.cons_append, tokens_continued goes, tail]

theorem tokens_quoted (plain : q.escapes → span ≠ .literal) (content rest : List Char) :
    q.tokens .nothing (q.mark span :: (doubled (q.mark span) content ++ q.mark span :: rest)) =
      q.tokens (.ended span content) rest := by
  rw [tokens_begun (b := .nothing) rfl rfl, begun_mark, tokens_inside plain, List.nil_append,
    tokens_continued (q.continued_inside_mark span content)]
  simp

theorem read_literal (plain : q.escapes = false) (s : String) :
    q.read (Dialect.stringLiteral s) = some [.literal s] := by
  have span : q.escapes → Span.literal ≠ .literal := by simp [plain]
  have quoted := tokens_quoted span s.toList []
  rw [read, Dialect.stringLiteral, String.toList_ofList]
  refine quoted.trans ?_
  simp [tokens, finished, Span.token]

/-! ## Names -/

def Token.ofName (segments : List String) : List Token :=
  [.word "."].intercalate (segments.map fun segment => [.name segment])

theorem Token.ofName_cons (segment : String) {rest : List String} (more : rest ≠ []) :
    ofName (segment :: rest) = .name segment :: .word "." :: ofName rest := by
  obtain ⟨second, rest, rfl⟩ := List.exists_cons_of_ne_nil more
  rfl

theorem tokens_segment {segment : String} (valid : Identifier.isSegment segment)
    (rest : List Char) :
    q.tokens .nothing (Scan.quotedSegment q.dialect segment ++ rest) =
      q.tokens (.ended .name segment.toList) rest := by
  have plain : q.escapes → Span.name ≠ .literal := by simp
  have absent : q.mark .name ∉ segment.toList := fun member =>
    Scan.ne_quoteChar (Identifier.isRest_of_mem valid member) rfl
  have quoted := tokens_quoted plain segment.toList rest
  rw [doubled_of_absent absent] at quoted
  rw [← quoted, Scan.quotedSegment]
  simp [mark]

-- Behind a segment a dot is a word, which ends at the quote of the next segment.
theorem tokens_dot (segment : List Char) {rest : List Char}
    (quoted : rest.head? = some (q.mark .name)) :
    q.tokens (.ended .name segment) ('.' :: rest) =
      (q.tokens .nothing rest).map ([.name (String.ofList segment), .word "."] ++ ·) := by
  have apart : ∀ c ∈ ('.' :: rest).head?, q.continued (.ended .name segment) c = none := by
    rintro _ ⟨⟩
    obtain ⟨d, escapes⟩ := q
    cases d <;> rfl
  have stops : ∀ c ∈ rest.head?, q.continued (.word ['.']) c = none := by
    intro c head
    obtain rfl : q.mark .name = c := Option.some_inj.mp (quoted.symm.trans head)
    simp [continued, isWordChar]
  have dot : q.begun '.' = ([], .word ['.']) := by
    obtain ⟨d, escapes⟩ := q
    cases d <;> rfl
  rw [tokens_ended rfl apart, tokens_begun (b := .nothing) rfl rfl, dot, tokens_ended rfl stops,
    Option.map_map, Option.map_map]
  rfl

theorem tokens_segments {first : String} {rest : List String}
    (valid : ∀ segment ∈ first :: rest, Identifier.isSegment segment) :
    q.tokens .nothing (['.'].intercalate ((first :: rest).map (Scan.quotedSegment q.dialect))) =
      some (Token.ofName (first :: rest)) := by
  induction rest generalizing first with
  | nil =>
    have whole := tokens_segment (q := q) (valid first List.mem_cons_self) []
    rw [List.append_nil] at whole
    simp [whole, tokens, finished, Span.token, Token.ofName]
  | cons second rest ih =>
    obtain ⟨head, tail⟩ := List.forall_mem_cons.mp valid
    have quoted : (['.'].intercalate ((second :: rest).map (Scan.quotedSegment q.dialect))).head? =
        some (q.mark .name) := by
      cases rest <;> rfl
    rw [List.map_cons, List.map_cons, List.intercalate_cons_cons, List.append_assoc,
      tokens_segment head, List.singleton_append, ← List.map_cons, tokens_dot _ quoted, ih tail,
      Token.ofName_cons first (List.cons_ne_nil second rest)]
    simp

theorem read_quote (n : Identifier) (named : n.segments ≠ []) :
    q.read (q.dialect.quote n) = some (Token.ofName n.segments) := by
  have valid : ∀ segment ∈ n.segments, Identifier.isSegment segment :=
    List.all_eq_true.mp n.wellFormed
  rw [read, Scan.quote_toList]
  obtain ⟨first, rest, segments⟩ := List.exists_cons_of_ne_nil named
  rw [segments] at valid ⊢
  exact tokens_segments valid

end

end Quoting

end ScopedSql
