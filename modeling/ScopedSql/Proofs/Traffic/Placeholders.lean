import ScopedSql.Proofs.Traffic.NamedBinds

/-! Placeholders in a text of segments.

A text is put together of quoted regions, plain text and placeholders. Each segment is read as what
it is, so the placeholders are named and nothing else changes, whatever stands in the regions and
however they meet. Only a number that is too long to be read is refused.
-/

set_option autoImplicit false

namespace ScopedSql.NamedBinds

/-- A segment of a text: a region between quotes that are doubled in it, a region between backticks,
plain text, a placeholder for the next parameter, or one with the number of its parameter. -/
inductive Segment where
  | quoted (quote : Char) (kind : quote = '\'' ∨ quote = '"') (content : List Char)
  | backticked (body : List Char) (absent : '`' ∉ body)
  | plain (cs : List Char) (ordinary : ∀ c ∈ cs, isOrdinary c)
  | next
  | numbered (digits : List Char) (decimal : ∀ c ∈ digits, Text.isDecimal c)
      (positive : 1 ≤ Numeral.written digits)

namespace Segment

def text : Segment → List Char
  | quoted quote _ content => quote :: (Quoting.doubled quote content ++ [quote])
  | backticked body _ => '`' :: (body ++ ['`'])
  | plain cs _ => cs
  | next => ['?']
  | numbered digits _ _ => '$' :: digits

def isNext : Segment → Bool
  | next => true
  | _ => false

def named (earlier : Nat) : Segment → List Char
  | next => reference earlier
  | numbered digits _ _ => reference ((Numeral.written digits - 1 : Nat) : Int)
  | s => s.text

def isShort : Segment → Bool
  | numbered digits _ _ => digits.length ≤ Numeral.digitLimit
  | _ => true

def marks : Segment → List Mark
  | next => [.next]
  | numbered digits _ _ => [.numbered (digits.map Text.digitWorth)]
  | s => s.text.map .kept

end Segment

def textOf (segments : List Segment) : List Char :=
  segments.flatMap Segment.text

/-- No number goes on with a digit of the segment behind it. -/
def Parted : List Segment → Prop
  | [] => True
  | .numbered .. :: rest => (∀ c ∈ (textOf rest).head?, Text.isDecimal c = false) ∧ Parted rest
  | _ :: rest => Parted rest

/-- The text with its placeholders named: a question mark after the ones before it, a number after
the parameter that it counts to. -/
def namedText (segments : List Segment) : List Char :=
  (segments.mapIdx fun i s => s.named ((segments.take i).countP Segment.isNext)).flatten

theorem marksFrom_textOf {segments : List Segment} (parted : Parted segments) :
    marksFrom 0 0 (textOf segments) = segments.flatMap Segment.marks := by
  induction segments with
  | nil => rfl
  | cons s rest ih =>
    cases s with
    | quoted quote kind content =>
      exact (kept_quoted kind content _).trans (congrArg _ (ih parted))
    | backticked body absent => exact (kept_backticked absent _).trans (congrArg _ (ih parted))
    | plain cs ordinary => exact (kept_ordinary ordinary _).trans (congrArg _ (ih parted))
    | next => exact congrArg (Mark.next :: ·) (ih parted)
    | numbered digits decimal positive =>
      have nonempty : digits ≠ [] := by
        rintro rfl
        cases positive
      exact (marksFrom_numbered nonempty decimal parted.1).trans (congrArg _ (ih parted.2))

theorem numberOf_digitWorth (digits : List Char) :
    numberOf (digits.map Text.digitWorth) = Numeral.written digits :=
  Numeral.digitsValue_eq digits

/-- The marks of one segment are its own text with a name for a placeholder; behind a question mark
one more counts as seen. -/
theorem textFrom_segment (s : Segment) (seen : Nat) (marks : List Mark) :
    textFrom seen (s.marks ++ marks) =
      s.named seen ++ textFrom (seen + if s.isNext then 1 else 0) marks := by
  cases s with
  | quoted | backticked | plain => exact textFrom_kept seen _ marks
  | next => rfl
  | numbered digits _ positive =>
    have position : (numberOf (digits.map Text.digitWorth) : Int) - 1 =
        ((Numeral.written digits - 1 : Nat) : Int) := by
      rw [numberOf_digitWorth, Nat.cast_sub positive]
      rfl
    rw [Segment.marks, List.singleton_append, textFrom, position]
    rfl

theorem textFrom_marks (segments : List Segment) (seen : Nat) :
    textFrom seen (segments.flatMap Segment.marks) =
      (segments.mapIdx fun i s =>
        s.named (seen + (segments.take i).countP Segment.isNext)).flatten := by
  induction segments generalizing seen with
  | nil => rfl
  | cons s rest ih =>
    have later : ∀ i, (seen + if s.isNext then 1 else 0) + (rest.take i).countP Segment.isNext =
        seen + ((s :: rest).take (i + 1)).countP Segment.isNext := by
      intro i
      rw [List.take_succ_cons, List.countP_cons]
      omega
    rw [List.flatMap_cons, textFrom_segment, ih, List.mapIdx_cons, List.flatten_cons]
    simp only [later, List.take_zero, List.countP_nil, Nat.add_zero]

theorem isReadable_marks (s : Segment) : s.marks.all Mark.isReadable = s.isShort := by
  cases s with
  | quoted | backticked | plain => exact all_isReadable_kept _
  | next => rfl
  | numbered digits _ _ => simp [Segment.marks, Segment.isShort, Mark.isReadable]

theorem bindsFrom_eq_mapIdx (xs : List Value) (position : Nat) :
    bindsFrom position xs =
      xs.mapIdx fun i x => (.text (bindName (position + i : Nat)), x) := by
  induction xs generalizing position with
  | nil => rfl
  | cons x xs ih =>
    have later : ∀ i, position + 1 + i = position + (i + 1) := fun i => by omega
    rw [bindsFrom, ih, List.mapIdx_cons]
    simp only [later, Nat.add_zero]

/-- In a text of segments exactly the placeholders are replaced, each by the name of its parameter,
and the parameters stand under their names in order. A number with more digits than can be read is
refused. -/
theorem placeholders_alone_are_named (segments : List Segment) (parted : Parted segments)
    (params : List Value) :
    ofStatement (String.ofList (textOf segments)) params =
      if segments.all Segment.isShort then
        .ok (String.ofList (namedText segments),
          params.mapIdx fun i x => (.text (bindName i), x))
      else Value.misused .unreadable := by
  have found : marks (String.ofList (textOf segments)) = segments.flatMap Segment.marks := by
    rw [marks, String.toList_ofList, marksFrom_textOf parted]
  have readable : (segments.flatMap Segment.marks).all Mark.isReadable =
      segments.all Segment.isShort := by
    rw [List.all_flatMap]
    congr 1
    funext s
    exact isReadable_marks s
  have written := textFrom_marks segments 0
  have binds := bindsFrom_eq_mapIdx params 0
  simp only [Nat.zero_add] at written binds
  rw [ofStatement, named, found, readable, written, binds]
  split
  · rfl
  · rfl

/-- Placeholders beside regions that hold signs of placeholders, two of which meet. -/
theorem placeholders_beside_regions_are_named :
    ofStatement "\"a?\" = $12 OR 'it''s $1''?'?`$3`?" [.int 7] =
      .ok ("\"a?\" = :p11 OR 'it''s $1''?':p0`$3`:p1", [(.text "p0", .int 7)]) := by
  have decimal : ∀ c ∈ ['1', '2'], Text.isDecimal c := by simp; exact ⟨rfl, rfl⟩
  have positive : 1 ≤ Numeral.written ['1', '2'] := Nat.le_of_ble_eq_true rfl
  have equals : ∀ c ∈ " = ".toList, isOrdinary c := by simp [isOrdinary]
  have either : ∀ c ∈ " OR ".toList, isOrdinary c := by simp [isOrdinary]
  have absent : '`' ∉ "$3".toList := by simp
  let segments : List Segment :=
    [.quoted '"' (.inr rfl) "a?".toList, .plain " = ".toList equals,
      .numbered ['1', '2'] decimal positive, .plain " OR ".toList either,
      .quoted '\'' (.inl rfl) "it's $1".toList, .quoted '\'' (.inl rfl) "?".toList, .next,
      .backticked "$3".toList absent, .next]
  have parted : Parted segments := ⟨by rintro c ⟨⟩; rfl, trivial⟩
  have short : segments.all Segment.isShort = true := by
    simp [segments, Segment.isShort, Numeral.digitLimit]
  have names : reference ((Numeral.written ['1', '2'] - 1 : Nat) : Int) = ":p11".toList ∧
      reference (0 : Nat) = ":p0".toList ∧ reference (1 : Nat) = ":p1".toList := ⟨rfl, rfl, rfl⟩
  have result : namedText segments = "\"a?\" = :p11 OR 'it''s $1''?':p0`$3`:p1".toList := by
    simp only [segments, namedText, List.mapIdx_cons, List.mapIdx_nil, Segment.named, names,
      List.take_zero, List.take_succ_cons, List.countP_nil, List.countP_cons, Segment.isNext,
      Bool.false_eq_true, if_false, if_true, Nat.add_zero, Nat.zero_add]
    rfl
  have named := placeholders_alone_are_named segments parted [.int 7]
  rw [short, if_pos rfl, result] at named
  exact named

theorem number_beyond_limit_is_not_named :
    ofStatement (String.ofList ('$' :: Nat.toDigits 10 (10 ^ Numeral.digitLimit))) [] =
      .error (.misuse .unreadable) := by
  have long : ¬ (Nat.toDigits 10 (10 ^ Numeral.digitLimit)).length ≤ Numeral.digitLimit := by
    rw [Nat.length_toDigits_le_iff (by decide) (by simp [Numeral.digitLimit])]
    exact lt_irrefl _
  have decimal : ∀ c ∈ Nat.toDigits 10 (10 ^ Numeral.digitLimit), Text.isDecimal c :=
    fun c member => Numeral.isDecimal_of_isDigit (Sql.isDigit_of_mem_repr member)
  generalize Nat.toDigits 10 (10 ^ Numeral.digitLimit) = digits at long decimal
  have nonempty : digits ≠ [] := by
    rintro rfl
    exact long (Nat.zero_le _)
  have found : marksFrom 0 0 ('$' :: (digits ++ [])) = _ :=
    marksFrom_numbered nonempty decimal (by simp)
  rw [List.append_nil] at found
  rw [ofStatement, named, marks, String.toList_ofList, found]
  simp [marksFrom, Mark.isReadable, long]
  rfl

end ScopedSql.NamedBinds
