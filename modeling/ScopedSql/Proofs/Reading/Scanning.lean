import ScopedSql.Proofs.Identifier
import ScopedSql.Proofs.Reading.Lexeme

/-! What the scanner does between lexemes, inside names and along numerals.

A scan stands at an edge when a lexeme may end there: after a clear edge nothing is pending, after
a loose one the last lexeme may still go on. A blank, a closing bracket or a comma can follow a
loose edge, everything else needs a clear one, or it would run into the lexeme before.
-/

set_option autoImplicit false

namespace ScopedSql

inductive Edge where
  | clear
  | loose

namespace Scan

def At : Edge → Scan → List (Lexeme String) → Prop
  | .clear, s, read => s = ⟨read, .nothing⟩
  | .loose, s, read => s.result = some read

theorem At.toLoose {s : Scan} {read : List (Lexeme String)} (clear : s.At .clear read) :
    s.At .loose read := by
  rw [At] at clear
  subst clear
  simp [At, result, Pending.finished]

theorem At.after {edge : Edge} {s : Scan} {read : List (Lexeme String)}
    (reached : s.At edge read) (before : List (Lexeme String)) :
    (s.after before).At edge (before ++ read) := by
  cases edge with
  | clear =>
    rw [At] at reached
    subst reached
    rfl
  | loose =>
    obtain ⟨last, ends, same⟩ := Option.map_eq_some_iff.mp reached
    simp [At, Scan.after, result, ends, ← same]

-- The characters that end every lexeme outside quotes.
def isDelimiter (c : Char) : Bool :=
  c = ' ' || c = ')' || c = ','

theorem continued_delimiter {d : Dialect} {pending : Pending} {last : List (Lexeme String)}
    (ends : pending.finished = some last) {c : Char} (delimiter : isDelimiter c) :
    pending.continued d c = none := by
  have among : c = ' ' ∨ c = ')' ∨ c = ',' := by simpa [isDelimiter, or_assoc] using delimiter
  cases pending with
  | nothing => rfl
  | word cs => rcases among with rfl | rfl | rfl <;> rfl
  | symbol cs => rcases among with rfl | rfl | rfl <;> rfl
  | mark cs =>
    unfold Pending.continued
    split <;> rcases among with rfl | rfl | rfl <;> simp_all
  | segment before cs => cases ends
  | segmentEnd before cs => rcases among with rfl | rfl | rfl <;> cases d <;> rfl
  | dot before => cases ends
  | refused => cases ends

theorem run_delimiter {d : Dialect} {s : Scan} {read : List (Lexeme String)}
    (reached : s.At .loose read) {c : Char} (delimiter : isDelimiter c) (rest : List Char) :
    run d s (c :: rest) = (run d start (c :: rest)).after read := by
  obtain ⟨last, ends, same⟩ := Option.map_eq_some_iff.mp reached
  -- the pending lexeme ends here, and the delimiter begins what it begins anywhere
  have first : step d s c = (step d start c).after read := by
    have fresh : step d start c = ⟨(Pending.begun d c).1, (Pending.begun d c).2⟩ := rfl
    rw [fresh, step, continued_delimiter ends delimiter, ends, ← same]
    rfl
  exact (congrArg (run d · rest) first).trans (run_after d read _ rest)

end Scan

/-! ## Names and placeholders -/

namespace Scan

theorem quoteMark_toList (d : Dialect) : d.quoteMark.toList = [d.quoteChar] := by
  cases d <;> rfl

theorem ne_quoteChar {d : Dialect} {c : Char} (rest : Identifier.isRest c) : c ≠ d.quoteChar := by
  rintro rfl
  cases d <;> cases rest

theorem begun_letter (d : Dialect) {c : Char} (rest : Identifier.isRest c) :
    Pending.begun d c = ([], .word [c]) := by
  have notBlank : c ≠ ' ' := by rintro rfl; cases rest
  have notOpening : c ≠ '(' := by rintro rfl; cases rest
  have notClosing : c ≠ ')' := by rintro rfl; cases rest
  have notComma : c ≠ ',' := by rintro rfl; cases rest
  simp [Pending.begun, notBlank, notOpening, notClosing, notComma, rest]

-- A lexeme grows by one character after the other, as long as they all belong to it.
theorem run_growing (d : Dialect) (read : List (Lexeme String)) (grown : List Char → Pending)
    (more : List Char)
    (grows : ∀ cs, ∀ c ∈ more, (grown cs).continued d c = some (grown (cs ++ [c])))
    (cs : List Char) : run d ⟨read, grown cs⟩ more = ⟨read, grown (cs ++ more)⟩ := by
  induction more generalizing cs with
  | nil => simp [run]
  | cons c more ih =>
    have inside : step d ⟨read, grown cs⟩ c = ⟨read, grown (cs ++ [c])⟩ := by
      simp [step, grows cs c (by simp)]
    have rest := ih (fun cs c member => grows cs c (by simp [member])) (cs ++ [c])
    rw [List.append_assoc, List.singleton_append] at rest
    exact (congrArg (run d · more) inside).trans rest

def quotedSegment (d : Dialect) (segment : String) : List Char :=
  d.quoteChar :: (segment.toList ++ [d.quoteChar])

theorem run_quotedSegment {d : Dialect} {s : Scan} {read : List (Lexeme String)}
    {before : List String} (opens : step d s d.quoteChar = ⟨read, .segment before []⟩)
    {segment : String} (valid : Identifier.isSegment segment) :
    run d s (quotedSegment d segment) = ⟨read, .segmentEnd before segment.toList⟩ := by
  have inside := run_growing d read (.segment before) segment.toList (fun cs c member => by
      simp [Pending.continued, ne_quoteChar (Identifier.isRest_of_mem valid member)]) []
  have closes : run d ⟨read, .segment before segment.toList⟩ [d.quoteChar] =
      ⟨read, .segmentEnd before segment.toList⟩ := by
    simp [run, step, Pending.continued]
  calc
    run d s (quotedSegment d segment)
      = run d ⟨read, .segment before []⟩ (segment.toList ++ [d.quoteChar]) :=
        congrArg (run d · _) opens
    _ = ⟨read, .segmentEnd before segment.toList⟩ := by
        rw [run_append, inside, List.nil_append, closes]

-- The segments of a dotted name, from a scan in which a quote opens the first of them.
theorem run_quoted {d : Dialect} {read : List (Lexeme String)} {s : Scan} {before : List String}
    (opens : step d s d.quoteChar = ⟨read, .segment before []⟩) (first : String)
    (rest : List String) (valid : ∀ segment ∈ first :: rest, Identifier.isSegment segment) :
    (run d s (['.'].intercalate ((first :: rest).map (quotedSegment d)))).At .loose
      (read ++ [.name (before ++ first :: rest)]) := by
  have head := run_quotedSegment opens (valid first (by simp))
  -- behind each dot the scan is again one in which a quote opens a segment
  induction rest generalizing s before first with
  | nil => simp [head, At, result, Pending.finished]
  | cons second rest ih =>
    have dot : run d ⟨read, .segmentEnd before first.toList⟩ ['.'] =
        ⟨read, .dot (before ++ [first])⟩ := by
      cases d <;> simp [run, step, Pending.continued, Dialect.quoteChar]
    have reopens : step d ⟨read, .dot (before ++ [first])⟩ d.quoteChar =
        ⟨read, .segment (before ++ [first]) []⟩ := by
      simp [step, Pending.continued]
    have tail := ih reopens second (fun segment member => valid segment (by simp [member]))
      (run_quotedSegment reopens (valid second (by simp)))
    rw [List.map_cons, List.map_cons, List.intercalate_cons_cons, run_append, run_append, head, dot]
    simpa using tail

theorem quote_toList (d : Dialect) (n : Identifier) :
    (d.quote n).toList = ['.'].intercalate (n.segments.map (quotedSegment d)) := by
  simp [Dialect.quote, Identifier.quoted, quoteMark_toList, Function.comp_def]
  rfl

end Scan

end ScopedSql
