import ScopedSql.Proofs.Number.Amount
import ScopedSql.Proofs.Number.Numeral
import ScopedSql.Proofs.Query.Builders

/-! Which values a page may be given by.

A limit or an offset is nothing, a natural number, or a value that stands for one: a number of that
amount, or a text that writes it. Every other value is refused as an invalid input, with one
exception: an infinity has no integer part, and asking for it is a misuse that no check catches.
-/

set_option autoImplicit false

namespace ScopedSql

namespace Options

/-- The integer that a value stands for: its own amount, or the one that its text writes. -/
inductive Counts : Value → Int → Prop where
  | int (n : Int) : Counts (.int n) n
  | double {x : Double} {n : Int} (whole : x.amount? = some (.ofRational n)) :
      Counts (.double x) n
  | text {x : Value} {s : String} {n : Int} (text : x.asText? = some s)
      (writes : Numeral.Writes s.toList n) : Counts x n

inductive Stored : Value → Option Nat → Prop where
  | nothing : Stored .null none
  | count {x : Value} {n : Nat} (counts : Counts x n) : Stored x (some n)

def IsInfinite (x : Value) : Prop :=
  ∃ negative, x = .double (.infinite negative)

inductive Refused (name : String) : Value → Fault → Prop where
  | negative {x : Value} {n : Int} (counts : Counts x n) (below : n < 0) :
      Refused name x (.invalid (.negative name))
  | other {x : Value} (given : x ≠ .null) (finite : ¬ IsInfinite x) (none : ∀ n, ¬ Counts x n) :
      Refused name x (.invalid (.notAnInteger name))
  | infinite {x : Value} (infinite : IsInfinite x) : Refused name x (.misuse .outOfRange)

/-! ## Reading one count -/

theorem equal_int_double {n : Int} {x : Double} :
    (Value.int n).equal (.double x) = true ↔ x.amount? = some (.ofRational n) := by
  unfold Value.equal Value.equalScalar
  exact Number.isEqual_int_iff

theorem toInt_bytes (bs : List UInt8) :
    (∃ n, (Value.bytes bs).toInt = .ok n) ∨
      (Value.bytes bs).toInt = .error (.misuse .unreadable) := by
  rw [Value.toInt]
  split
  · cases Numeral.readInt (bs.map fun byte => Char.ofNat byte.toNat) with
    | none => exact .inr rfl
    | some n => exact .inl ⟨n, rfl⟩
  · exact .inr rfl

variable {name : String} {x : Value}

theorem readCount_counted {n : Int} (counts : Counts x n) :
    readCount name x =
      if n < 0 then .error (.invalid (.negative name)) else .ok (some n.toNat) := by
  cases counts with
  | int n =>
    have same : (Value.int n).equal (.int n) = true := by
      unfold Value.equal Value.equalScalar
      exact Number.isEqual_int_iff.mpr rfl
    simp [readCount, Value.toInt, same]
  | double whole =>
    have same := equal_int_double.mpr whole
    simp [readCount, Value.toInt, Double.truncate?_of_amount? whole, same]
  | text text writes =>
    have read := Numeral.readInt_eq_some_iff.mpr writes
    cases x with
    | text s | member m =>
      cases text
      simp [readCount, Value.toInt, Value.toInt.ofNumeral, read, Value.asText?]
    | _ => cases text

theorem readCount_infinite (infinite : IsInfinite x) :
    readCount name x = .error (.misuse .outOfRange) := by
  obtain ⟨negative, rfl⟩ := infinite
  rfl

theorem readCount_uncounted (given : x ≠ .null) (finite : ¬ IsInfinite x)
    (none : ∀ n, ¬ Counts x n) : readCount name x = .error (.invalid (.notAnInteger name)) := by
  cases x with
  | null => exact absurd rfl given
  | bool b => rfl
  | int n => exact absurd (.int n) (none n)
  | double x =>
    cases x with
    | nan => rfl
    | infinite negative => exact absurd ⟨negative, rfl⟩ finite
    | finite s m e =>
      obtain ⟨n, truncated⟩ : ∃ n, (Double.finite s m e).truncate? = some n := ⟨_, rfl⟩
      have other : (Value.int n).equal (.double (.finite s m e)) = false :=
        Bool.eq_false_iff.mpr fun same => none n (.double (equal_int_double.mp same))
      simp [readCount, Value.toInt, truncated, other, Value.asText?]
  | text s | member m =>
    have unread := Numeral.readInt_eq_none_iff.mpr fun n writes => none n (.text rfl writes)
    simp only [readCount, Value.toInt, Value.toInt.ofNumeral, unread]
    rfl
  | bytes bs =>
    -- Bytes may read as an integer, but they are equal to none.
    rcases toInt_bytes bs with ⟨n, read⟩ | refused
    · have other : (Value.int n).equal (.bytes bs) = false := rfl
      simp [readCount, read, other, Value.asText?]
    · simp [readCount, refused]
  | list | tuple | set | frozenSet | dict | record => rfl

theorem readCount_of_stored {count : Option Nat} (stored : Stored x count) :
    readCount name x = .ok count := by
  cases stored with
  | nothing => rfl
  | count counts => simp [readCount_counted counts]

theorem readCount_of_refused {fault : Fault} (refused : Refused name x fault) :
    readCount name x = .error fault := by
  cases refused with
  | negative counts below => rw [readCount_counted counts, if_pos below]
  | other given finite none => exact readCount_uncounted given finite none
  | infinite infinite => exact readCount_infinite infinite

theorem stored_or_refused (name : String) (x : Value) :
    (∃ count, Stored x count) ∨ ∃ fault, Refused name x fault := by
  by_cases given : x = .null
  · exact .inl ⟨none, given ▸ .nothing⟩
  by_cases infinite : IsInfinite x
  · exact .inr ⟨_, .infinite infinite⟩
  by_cases counted : ∃ n, Counts x n
  · obtain ⟨n, counts⟩ := counted
    rcases lt_or_ge n 0 with below | natural
    · exact .inr ⟨_, .negative counts below⟩
    · exact .inl ⟨some n.toNat, .count ((Int.toNat_of_nonneg natural).symm ▸ counts)⟩
  · exact .inr ⟨_, .other given infinite (not_exists.mp counted)⟩

/-- Exactly the values that are kept are read, each as the count kept for it. -/
theorem readCount_eq_ok_iff {count : Option Nat} :
    readCount name x = .ok count ↔ Stored x count := by
  refine ⟨fun read => ?_, readCount_of_stored⟩
  rcases stored_or_refused name x with ⟨count', stored⟩ | ⟨fault, refused⟩
  · have same := (readCount_of_stored stored).symm.trans read
    exact Except.ok.inj same ▸ stored
  · cases (readCount_of_refused refused).symm.trans read

theorem readCount_eq_error_iff {fault : Fault} :
    readCount name x = .error fault ↔ Refused name x fault := by
  refine ⟨fun read => ?_, readCount_of_refused⟩
  rcases stored_or_refused name x with ⟨count, stored⟩ | ⟨fault', refused⟩
  · have kept : readCount name x = .ok count := readCount_of_stored stored
    cases kept.symm.trans read
  · have same := (readCount_of_refused refused).symm.trans read
    exact Except.error.inj same ▸ refused

theorem refused_misuse_iff {kind : Misuse} :
    Refused name x (.misuse kind) ↔ kind = .outOfRange ∧ IsInfinite x := by
  constructor
  · intro refused
    cases refused with
    | infinite infinite => exact ⟨rfl, infinite⟩
  · rintro ⟨rfl, infinite⟩
    exact .infinite infinite

/-! ## A page -/

theorem make_of_readable {orderBy fields : Value} {terms : List OrderTerm} {columns : List Value}
    (ordered : orderBy.elements >>= (·.mapM OrderTerm.ofValue) = .ok terms)
    (walked : fields.elements = .ok columns) (limit offset : Value) :
    make orderBy limit offset fields = (do
      let limit ← readCount "limit" limit
      let offset ← readCount "offset" offset
      return ⟨terms, limit, offset, columns⟩) := by
  obtain ⟨items, listed, read⟩ := Except.bind_eq_ok.mp ordered
  unfold make
  rw [listed, walked]
  change items.mapM OrderTerm.ofValue >>= _ = _
  rw [read]
  rfl

/-- Beside orderings and columns that can be read, a page is made just if its limit and offset are
kept, and it has the counts kept for them. Otherwise the first value that is not kept is refused, as
an invalid input unless it is an infinity. Made again of what they keep, options are the same. -/
theorem page_is_kept_or_refused (orderBy limit offset fields : Value) (terms : List OrderTerm)
    (columns : List Value)
    (ordered : orderBy.elements >>= (·.mapM OrderTerm.ofValue) = .ok terms)
    (walked : fields.elements = .ok columns) :
    (∀ o, make orderBy limit offset fields = .ok o ↔
      ∃ m n, Stored limit m ∧ Stored offset n ∧ o = ⟨terms, m, n, columns⟩) ∧
    (∀ fault, make orderBy limit offset fields = .error fault ↔
      Refused "limit" limit fault ∨ ∃ m, Stored limit m ∧ Refused "offset" offset fault) ∧
    (∀ kind, make orderBy limit offset fields = .error (.misuse kind) ↔
      kind = .outOfRange ∧ (IsInfinite limit ∨ ∃ m, Stored limit m ∧ IsInfinite offset)) ∧
    ∀ o : Options, make (orderingsValue o.orderBy) (countValue o.limit) (countValue o.offset)
      (.tuple o.fields) = .ok o := by
  have made := make_of_readable ordered walked limit offset
  have refused : ∀ fault, make orderBy limit offset fields = .error fault ↔
      Refused "limit" limit fault ∨ ∃ m, Stored limit m ∧ Refused "offset" offset fault := by
    intro fault
    have kept : ∀ o : Options, (pure o : Except Fault Options) ≠ .error fault := fun o same => by
      cases same
    rw [made]
    simp only [Except.bind_eq_error, readCount_eq_ok_iff, readCount_eq_error_iff, kept, and_false,
      exists_false, or_false]
  refine ⟨fun o => ?_, refused, fun kind => ?_, fun o => ?_⟩
  · rw [made]
    simp only [Except.bind_eq_ok, readCount_eq_ok_iff, Except.pure_eq_ok]
    constructor
    · rintro ⟨m, limit, n, offset, rfl⟩
      exact ⟨m, n, limit, offset, rfl⟩
    · rintro ⟨m, n, limit, offset, rfl⟩
      exact ⟨m, limit, n, offset, rfl⟩
  · rw [refused]
    simp only [refused_misuse_iff]
    constructor
    · rintro (⟨rfl, limit⟩ | ⟨m, limit, rfl, offset⟩)
      · exact ⟨rfl, .inl limit⟩
      · exact ⟨rfl, .inr ⟨m, limit, offset⟩⟩
    · rintro ⟨rfl, limit | ⟨m, limit, offset⟩⟩
      · exact .inl ⟨rfl, limit⟩
      · exact .inr ⟨m, limit, rfl, offset⟩
  · rw [make_orderingsValue, readCount_countValue, readCount_countValue]
    rfl

theorem page_of_text_and_double_is_kept :
    make (.list [.text "-created"]) (.text " 1_0 ") (.double (.finite false (2 ^ 52) (-51)))
        (.tuple [.text "id"]) =
      .ok ⟨[⟨.text "created", .descending⟩], some 10, some 2, [.text "id"]⟩ := by
  have limit : Stored (.text " 1_0 ") (some 10) := by
    have grouped : Numeral.Grouped "1_0".toList ['1', '0'] := .group rfl (.last rfl)
    have short : ['1', '0'].length ≤ Numeral.digitLimit := by simp [Numeral.digitLimit]
    have margins : ∀ c ∈ [' '] ++ [' '], Numeral.isMargin c := by
      simp [Numeral.isMargin, Text.isPlainBlank]
    exact .count (.text rfl
      ⟨false, [' '], [], "1_0".toList, ['1', '0'], [' '], .none, grouped, short, margins, rfl, rfl⟩)
  have offset : Stored (.double (.finite false (2 ^ 52) (-51))) (some 2) := by
    have amount : Double.rational false (2 ^ 52) (-51) = 2 := by norm_num [Double.rational]
    exact .count (.double (congrArg (some ∘ Amount.ofRational) amount))
  obtain ⟨kept, -⟩ := page_is_kept_or_refused (.list [.text "-created"]) (.text " 1_0 ")
    (.double (.finite false (2 ^ 52) (-51))) (.tuple [.text "id"])
    [⟨.text "created", .descending⟩] [.text "id"] rfl rfl
  exact (kept _).mpr ⟨some 10, some 2, limit, offset, rfl⟩

/-- An infinite limit is neither kept nor refused as an invalid input. -/
theorem infinite_limit_is_misuse :
    make (.tuple []) (.double (.infinite false)) .null (.tuple []) =
      .error (.misuse .outOfRange) := rfl

end Options

end ScopedSql
