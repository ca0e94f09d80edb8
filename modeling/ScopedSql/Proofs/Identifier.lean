import ScopedSql.Identifier
import ScopedSql.Proofs.Outcome

/-! Checked names consist of plain segments, those of the text that was checked. -/

set_option autoImplicit false

namespace ScopedSql.Identifier

theorem isRest_of_isStart {c : Char} (start : isStart c) : isRest c := by
  simp only [isStart, isRest, Char.isAlphanum, Bool.or_eq_true] at start ⊢
  rcases start with underscore | letter
  · exact .inl underscore
  · exact .inr (.inl letter)

theorem isRest_of_mem {segment : String} (valid : isSegment segment) {c : Char}
    (member : c ∈ segment.toList) : isRest c := by
  unfold isSegment at valid
  cases characters : segment.toList with
  | nil => simp [characters] at member
  | cons first rest =>
    simp only [characters, isSegmentChars, Bool.and_eq_true, List.all_eq_true] at valid
    rcases List.mem_cons.mp (characters ▸ member) with rfl | later
    · exact isRest_of_isStart valid.1
    · exact valid.2 c later

theorem splitDots_ne_nil (cs : List Char) : splitDots cs ≠ [] := by
  cases cs with
  | nil => simp [splitDots]
  | cons c rest =>
    rw [splitDots]
    split
    · simp
    · split <;> simp

theorem segmentsOf_ne_nil (s : String) : segmentsOf s ≠ [] := by
  simp [segmentsOf, splitDots_ne_nil]

theorem intercalate_splitDots (cs : List Char) : ['.'].intercalate (splitDots cs) = cs := by
  induction cs with
  | nil => rfl
  | cons c rest ih =>
    obtain ⟨part, parts, split⟩ := List.exists_cons_of_ne_nil (splitDots_ne_nil rest)
    rw [split] at ih
    by_cases dot : c = '.'
    · subst c
      simp [splitDots, split, List.intercalate_cons_cons, ih]
    · -- the character joins the first part, and all that follows stays
      have grown : splitDots (c :: rest) = (c :: part) :: parts := by
        simp [splitDots, dot, split]
      rw [grown, ← ih]
      cases parts <;> simp [List.intercalate_cons_cons]

theorem splitDots_append {part : List Char} (dotless : '.' ∉ part) (rest : List Char) :
    splitDots (part ++ '.' :: rest) = part :: splitDots rest := by
  induction part with
  | nil => simp [splitDots]
  | cons c part ih =>
    obtain ⟨dot, dotless⟩ := not_or.mp (mt List.mem_cons.mpr dotless)
    rw [List.cons_append, splitDots, if_neg (Ne.symm dot), ih dotless]

theorem splitDots_dotless {part : List Char} (dotless : '.' ∉ part) : splitDots part = [part] := by
  induction part with
  | nil => rfl
  | cons c part ih =>
    obtain ⟨dot, dotless⟩ := not_or.mp (mt List.mem_cons.mpr dotless)
    rw [splitDots, if_neg (Ne.symm dot), ih dotless]

theorem dotless_of_mem_splitDots {cs part : List Char} (member : part ∈ splitDots cs) :
    '.' ∉ part := by
  induction cs generalizing part with
  | nil =>
    rw [List.mem_singleton.mp member]
    simp
  | cons c rest ih =>
    obtain ⟨first, parts, split⟩ := List.exists_cons_of_ne_nil (splitDots_ne_nil rest)
    rw [split] at ih
    by_cases dot : c = '.'
    · simp only [splitDots, dot, if_pos, split] at member
      rcases List.mem_cons.mp member with rfl | later
      · simp
      · exact ih later
    · have dotless : '.' ∉ first := ih (by simp)
      simp only [splitDots, dot, if_false, split] at member
      rcases List.mem_cons.mp member with rfl | later
      · simpa [Ne.symm dot] using dotless
      · exact ih (by simp [later])

theorem dotless_of_isSegment {segment : String} (valid : isSegment segment) :
    '.' ∉ segment.toList := by
  intro member
  cases isRest_of_mem valid member

/-- A segment that is put in front of a name is a segment of its own there. -/
theorem segmentsOf_qualified {segment : String} (valid : isSegment segment) (name : String) :
    segmentsOf (segment ++ "." ++ name) = segment :: segmentsOf name := by
  have characters : (segment ++ "." ++ name).toList = segment.toList ++ '.' :: name.toList := by
    simp
  rw [segmentsOf, characters, splitDots_append (dotless_of_isSegment valid), List.map_cons,
    String.ofList_toList]
  rfl

-- No two texts have the same segments.
theorem segmentsOf_injective {s t : String} (same : segmentsOf s = segmentsOf t) : s = t := by
  have parts : splitDots s.toList = splitDots t.toList :=
    List.map_injective_iff.mpr (fun _ _ equal => String.ofList_injective equal) same
  have characters := congrArg (['.'].intercalate ·) parts
  simp only [intercalate_splitDots] at characters
  exact String.toList_injective characters

theorem ofValue_text (s : String) : ofValue (.text s) = ofText s :=
  rfl

theorem ofValue_eq_ok {x : Value} {n : Identifier} :
    ofValue x = .ok n ↔ x.isWritable ∧ ofText x.plain = .ok n := by
  simp [ofValue, Except.bind_eq_ok, Value.written_eq_ok]

-- A name that was checked is the text that was given.
theorem segments_ofValue {x : Value} {n : Identifier} (checked : ofValue x = .ok n) :
    n.segments = segmentsOf x.plain := by
  have read := (ofValue_eq_ok.mp checked).2
  rw [ofText] at read
  split at read
  · cases read
    rfl
  · cases read

/-! ## Texts that are names -/

def Letter (c : Char) : Prop :=
  'a' ≤ c ∧ c ≤ 'z' ∨ 'A' ≤ c ∧ c ≤ 'Z' ∨ c = '_'

def Digit (c : Char) : Prop :=
  '0' ≤ c ∧ c ≤ '9'

/-- A letter, then letters and digits. -/
def Segment (s : String) : Prop :=
  ∃ first rest, s.toList = first :: rest ∧ Letter first ∧ ∀ c ∈ rest, Letter c ∨ Digit c

/-- One or more segments with single dots between. -/
def Dotted (s : String) : Prop :=
  ∃ segments, segments ≠ [] ∧ (∀ segment ∈ segments, Segment segment) ∧
    s = String.intercalate "." segments

theorem isStart_iff {c : Char} : isStart c ↔ Letter c := by
  simp only [isStart, Letter, Char.isAlpha, Char.isUpper, Char.isLower, Bool.or_eq_true,
    Bool.and_eq_true, decide_eq_true_eq, Char.le_def]
  tauto

theorem isRest_iff {c : Char} : isRest c ↔ Letter c ∨ Digit c := by
  have digit : c.isDigit ↔ Digit c := by
    simp only [Char.isDigit, Digit, Bool.and_eq_true, decide_eq_true_eq, Char.le_def]
  rw [← isStart_iff, ← digit]
  simp only [isRest, isStart, Char.isAlphanum, Bool.or_eq_true]
  tauto

theorem isSegment_iff {s : String} : isSegment s ↔ Segment s := by
  unfold isSegment Segment
  cases s.toList with
  | nil => simp [isSegmentChars]
  | cons first rest =>
    simp only [isSegmentChars, Bool.and_eq_true, List.all_eq_true, isStart_iff, isRest_iff,
      List.cons.injEq]
    constructor
    · rintro ⟨letter, others⟩
      exact ⟨first, rest, ⟨rfl, rfl⟩, letter, others⟩
    · rintro ⟨_, _, ⟨rfl, rfl⟩, letter, others⟩
      exact ⟨letter, others⟩

theorem intercalate_segmentsOf (s : String) : String.intercalate "." (segmentsOf s) = s := by
  apply String.toList_injective
  rw [String.toList_intercalate, segmentsOf, List.map_map]
  have parts : (String.toList ∘ String.ofList) = id := funext fun _ => String.toList_ofList
  rw [parts, List.map_id]
  exact intercalate_splitDots s.toList

theorem segmentsOf_segment {segment : String} (valid : isSegment segment) :
    segmentsOf segment = [segment] := by
  rw [segmentsOf, splitDots_dotless (dotless_of_isSegment valid), List.map_cons, List.map_nil,
    String.ofList_toList]

theorem segmentsOf_intercalate {segments : List String} (some : segments ≠ [])
    (valid : ∀ segment ∈ segments, isSegment segment) :
    segmentsOf (String.intercalate "." segments) = segments := by
  induction segments with
  | nil => exact absurd rfl some
  | cons segment rest ih =>
    obtain ⟨head, tail⟩ := List.forall_mem_cons.mp valid
    cases rest with
    | nil => simpa using segmentsOf_segment head
    | cons next more =>
      rw [String.intercalate_cons_cons, segmentsOf_qualified head, ih (by simp) tail]

theorem ofText_eq_ok_iff {s : String} : (∃ name, ofText s = .ok name) ↔ Dotted s := by
  have checked : (∃ name, ofText s = .ok name) ↔ ∀ segment ∈ segmentsOf s, isSegment segment := by
    rw [ofText, ← List.all_eq_true]
    split <;> simp [*]
  rw [checked]
  constructor
  · intro valid
    exact ⟨segmentsOf s, segmentsOf_ne_nil s, fun segment member =>
      isSegment_iff.mp (valid segment member), (intercalate_segmentsOf s).symm⟩
  · rintro ⟨segments, some, valid, rfl⟩
    have plain := fun segment member => isSegment_iff.mpr (valid segment member)
    rwa [segmentsOf_intercalate some plain]

/-- A text that is no name is refused for the first of its parts that is no segment. -/
theorem ofText_eq_error {s : String} (unnamed : ¬ Dotted s) :
    ∃ earlier bad later, s = String.intercalate "." (earlier ++ bad :: later) ∧
      (∀ part ∈ earlier ++ bad :: later, '.' ∉ part.toList) ∧
      (∀ part ∈ earlier, Segment part) ∧ ¬ Segment bad ∧
      ofText s = .error (.invalidIdentifier (.text s) (.text bad)) := by
  have dotless : ∀ part ∈ segmentsOf s, '.' ∉ part.toList := by
    intro part member
    obtain ⟨cs, among, rfl⟩ := List.mem_map.mp member
    rw [String.toList_ofList]
    exact dotless_of_mem_splitDots among
  have refused : ¬ (segmentsOf s).all isSegment := by
    intro valid
    refine unnamed (ofText_eq_ok_iff.mp ⟨⟨segmentsOf s, valid⟩, ?_⟩)
    rw [ofText, dif_pos valid]
  obtain ⟨bad, found⟩ : ∃ bad, (segmentsOf s).find? (fun part => !isSegment part) = some bad := by
    rw [← Option.isSome_iff_exists, List.find?_isSome]
    simpa using refused
  obtain ⟨invalid, earlier, later, parts, valid⟩ := List.find?_eq_some_iff_append.mp found
  refine ⟨earlier, bad, later, ?_, parts ▸ dotless, ?_, ?_, ?_⟩
  · rw [← parts, intercalate_segmentsOf]
  · intro part member
    exact isSegment_iff.mp (by simpa using valid part member)
  · rw [← isSegment_iff]
    simpa using invalid
  · rw [ofText, dif_neg refused, found]
    rfl

end ScopedSql.Identifier
