import ScopedSql.Proofs.Reading.Separation

/-! Quoted names.

Every segment of a name stands between quotes of its own, and neither a quote nor a dot can be part
of a segment. So the quoted form shows the name and nothing else: without its quotes it is the text
that was checked, and no two texts have one quoted form, whatever the dialects. A text that is no
name has no quoted form, and the fault shows the text with the first of its parts that is no
segment.
-/

set_option autoImplicit false

namespace ScopedSql

namespace Dialect

def spelled (d : Dialect) (segments : List String) : String :=
  String.intercalate "." (segments.map fun segment => d.quoteMark ++ segment ++ d.quoteMark)

theorem quote_eq (d : Dialect) (n : Identifier) : d.quote n = d.spelled n.segments := rfl

theorem spelled_cons (d : Dialect) (segment : String) {rest : List String} (more : rest ≠ []) :
    d.spelled (segment :: rest) = d.spelled [segment] ++ "." ++ d.spelled rest := by
  obtain ⟨second, rest, rfl⟩ := List.exists_cons_of_ne_nil more
  simp only [spelled, List.map_cons, List.map_nil, String.intercalate_singleton,
    String.intercalate_cons_cons]

theorem toList_spelled_singleton (d : Dialect) (segment : String) :
    (d.spelled [segment]).toList = Scan.quotedSegment d segment := by
  simp [spelled, Scan.quoteMark_toList, Scan.quotedSegment]

theorem filter_quotedSegment (d : Dialect) {segment : String}
    (valid : Identifier.isSegment segment) :
    (Scan.quotedSegment d segment).filter (fun c => Identifier.isRest c || c = '.') =
      segment.toList := by
  have mark : (Identifier.isRest d.quoteChar || decide (d.quoteChar = '.')) = false := by
    cases d <;> rfl
  have kept : segment.toList.filter (fun c => Identifier.isRest c || c = '.') =
      segment.toList := by
    rw [List.filter_eq_self]
    intro c inside
    rw [Identifier.isRest_of_mem valid inside, Bool.true_or]
  simp [Scan.quotedSegment, mark, kept]

-- Without its quotes a spelling is the name itself, whatever the dialect.
theorem filter_spelled (d : Dialect) {segments : List String}
    (valid : ∀ segment ∈ segments, Identifier.isSegment segment) :
    (d.spelled segments).toList.filter (fun c => Identifier.isRest c || c = '.') =
      (String.intercalate "." segments).toList := by
  induction segments with
  | nil => rfl
  | cons first rest ih =>
    have head := filter_quotedSegment d (valid first (by simp))
    have tail := ih fun segment member => valid segment (by simp [member])
    rw [← toList_spelled_singleton] at head
    cases rest with
    | nil => rwa [String.intercalate_singleton]
    | cons second rest =>
      rw [spelled_cons d first (by simp), String.intercalate_cons_cons]
      simp only [String.toList_append, List.filter_append, head, tail]
      rfl

theorem spelled_injective {d d' : Dialect} {segments segments' : List String}
    (named : segments ≠ []) (named' : segments' ≠ [])
    (valid : ∀ segment ∈ segments, Identifier.isSegment segment)
    (valid' : ∀ segment ∈ segments', Identifier.isSegment segment)
    (same : d.spelled segments = d'.spelled segments') : segments = segments' := by
  have bare : String.intercalate "." segments = String.intercalate "." segments' := by
    apply String.toList_injective
    rw [← filter_spelled d valid, ← filter_spelled d' valid', same]
  rw [← Identifier.segmentsOf_intercalate named valid, bare,
    Identifier.segmentsOf_intercalate named' valid']

theorem count_quotedSegment (d : Dialect) {segment : String}
    (valid : Identifier.isSegment segment) :
    (Scan.quotedSegment d segment).count d.quoteChar = 2 := by
  have absent : d.quoteChar ∉ segment.toList := fun member =>
    Scan.ne_quoteChar (Identifier.isRest_of_mem valid member) rfl
  simp [Scan.quotedSegment, List.count_eq_zero.mpr absent]

-- The dots between segments are no quotes, so all quotes are those of the segments.
theorem count_spelled (d : Dialect) {segments : List String}
    (valid : ∀ segment ∈ segments, Identifier.isSegment segment) :
    (d.spelled segments).toList.count d.quoteChar = 2 * segments.length := by
  induction segments with
  | nil => rfl
  | cons first rest ih =>
    have head := count_quotedSegment d (valid first (by simp))
    have tail := ih fun segment member => valid segment (by simp [member])
    rw [← toList_spelled_singleton] at head
    have dot : ".".toList.count d.quoteChar = 0 := by cases d <;> rfl
    cases rest with
    | nil => exact head
    | cons second rest =>
      rw [spelled_cons d first (by simp), String.toList_append, String.toList_append,
        List.count_append, List.count_append, head, dot, tail]
      simp only [List.length_cons]
      omega

-- To leave out the quotes is to keep what names consist of.
theorem filter_quotes (d : Dialect) (n : Identifier) :
    (d.quote n).toList.filter (· ≠ d.quoteChar) =
      (d.quote n).toList.filter (fun c => Identifier.isRest c || c = '.') := by
  apply List.filter_congr
  intro c member
  rcases Sql.mem_quote member with rfl | rfl | letter
  · cases d <;> rfl
  · cases d <;> rfl
  · simp [Scan.ne_quoteChar letter, letter]

end Dialect

namespace Identifier

variable {d : Dialect} {s quoted : String}

-- The quoted form of a text spells the segments of the text.
theorem quoted_eq_spelled (checked : (ofText s).map d.quote = .ok quoted) :
    (∀ segment ∈ segmentsOf s, isSegment segment) ∧ quoted = d.spelled (segmentsOf s) := by
  obtain ⟨n, named, rfl⟩ := Except.map_eq_ok.mp checked
  have segments : n.segments = segmentsOf s := segments_ofValue (x := .text s) named
  refine ⟨segments ▸ List.all_eq_true.mp n.wellFormed, ?_⟩
  rw [Dialect.quote_eq, segments]

theorem filter_quoted (checked : (ofText s).map d.quote = .ok quoted) :
    quoted.toList.filter (fun c => isRest c || c = '.') = s.toList := by
  obtain ⟨valid, rfl⟩ := quoted_eq_spelled checked
  rw [Dialect.filter_spelled d valid, intercalate_segmentsOf]

theorem withoutQuotes_quoted (checked : (ofText s).map d.quote = .ok quoted) :
    String.ofList (quoted.toList.filter (· ≠ d.quoteChar)) = s := by
  have letters := filter_quoted checked
  obtain ⟨n, _, rfl⟩ := Except.map_eq_ok.mp checked
  rw [d.filter_quotes n, letters, String.ofList_toList]

/-- A text has a quoted form just if it is one or more segments with single dots between; otherwise
it is refused for the first of its parts between dots that is no segment. In the quoted form all
quotes are around segments, two for each, and what stands apart from them is the text itself. -/
theorem quoted_form_is_exact_and_reversible (d : Dialect) (s : String) :
    ((∃ quoted, (ofText s).map d.quote = .ok quoted) ↔ Dotted s) ∧
    (¬ Dotted s → ∃ earlier bad later,
      s = String.intercalate "." (earlier ++ bad :: later) ∧
      (∀ part ∈ earlier ++ bad :: later, '.' ∉ part.toList) ∧
      (∀ part ∈ earlier, Segment part) ∧ ¬ Segment bad ∧
      (ofText s).map d.quote = .error (.invalidIdentifier (.text s) (.text bad))) ∧
    ∀ quoted, (ofText s).map d.quote = .ok quoted →
      String.ofList (quoted.toList.filter (· ≠ d.quoteChar)) = s ∧
      (∃ segments, (∀ segment ∈ segments, Segment segment) ∧
        s = String.intercalate "." segments ∧ quoted = d.spelled segments ∧
        quoted.toList.count d.quoteChar = 2 * segments.length) ∧
      ∀ (d' : Dialect) (t : String), (ofText t).map d'.quote = .ok quoted → t = s := by
  refine ⟨?_, fun unnamed => ?_, fun quoted checked => ⟨?_, ?_, fun d' t same => ?_⟩⟩
  · rw [← ofText_eq_ok_iff]
    simp only [Except.map_eq_ok]
    constructor
    · rintro ⟨_, n, named, _⟩
      exact ⟨n, named⟩
    · rintro ⟨n, named⟩
      exact ⟨_, n, named, rfl⟩
  · obtain ⟨earlier, bad, later, parts, dotless, before, invalid, refused⟩ :=
      ofText_eq_error unnamed
    exact ⟨earlier, bad, later, parts, dotless, before, invalid,
      Except.map_eq_error.mpr refused⟩
  · exact withoutQuotes_quoted checked
  · obtain ⟨valid, rfl⟩ := quoted_eq_spelled checked
    exact ⟨segmentsOf s,
      fun segment member => isSegment_iff.mp (valid segment member),
      (intercalate_segmentsOf s).symm, rfl, d.count_spelled valid⟩
  · have letters := filter_quoted checked
    rw [filter_quoted same] at letters
    exact String.toList_injective letters

/-- A name of two segments, and a text whose second part is empty and whose third ends the line. -/
theorem users_of_acme_are_quoted_and_empty_part_is_refused :
    ((ofText "acme.users").map (Dialect.quote .postgres) = .ok "\"acme\".\"users\"" ∧
      String.ofList ("\"acme\".\"users\"".toList.filter (· ≠ Dialect.quoteChar .postgres)) =
        "acme.users" ∧
      ∀ (d' : Dialect) (t : String),
        (ofText t).map d'.quote = .ok "\"acme\".\"users\"" → t = "acme.users") ∧
    ¬ Dotted "acme..users\n" ∧
    ∃ earlier later, "acme..users\n" = String.intercalate "." (earlier ++ "" :: later) ∧
      (∀ part ∈ earlier, Segment part) ∧ ¬ Segment "" ∧
      (ofText "acme..users\n").map (Dialect.quote .mysql) =
        .error (.invalidIdentifier (.text "acme..users\n") (.text "")) := by
  constructor
  · have quoted : (ofText "acme.users").map (Dialect.quote .postgres) =
        .ok "\"acme\".\"users\"" := by rfl
    obtain ⟨_, _, reads⟩ := quoted_form_is_exact_and_reversible .postgres "acme.users"
    obtain ⟨bare, _, unique⟩ := reads _ quoted
    exact ⟨quoted, bare, unique⟩
  · obtain ⟨named, refused, _⟩ := quoted_form_is_exact_and_reversible .mysql "acme..users\n"
    have unnamed : ¬ Dotted "acme..users\n" := by
      intro dotted
      obtain ⟨_, quoted⟩ := named.mpr dotted
      cases quoted
    obtain ⟨earlier, bad, later, parts, _, before, invalid, fault⟩ := refused unnamed
    obtain rfl : bad = "" := by
      injection fault with same
      injection same with _ segment
      injection segment with empty
      exact empty.symm
    exact ⟨unnamed, earlier, later, parts, before, invalid, fault⟩

end Identifier

end ScopedSql
