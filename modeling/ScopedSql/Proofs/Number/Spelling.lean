import ScopedSql.Number.Numeral
import ScopedSql.Proofs.Number.Rounding

/-! Integers as people spell them, and the doubles that they are read as.

A spelling has the decimal digits of an integer, with zeros and a sign in front of them and blanks
around. It is read as the double nearest to the integer, so only an integer that a double holds is
read as itself.
-/

set_option autoImplicit false

namespace ScopedSql

open Text

/-! ## Blanks -/

namespace Text

variable {drop : Char → Bool} {cs : List Char}

theorem dropWhile_kept (kept : ∀ c ∈ cs, drop c = false) (nonempty : cs ≠ [])
    (rest : List Char) : (cs ++ rest).dropWhile drop = cs ++ rest := by
  obtain ⟨c, cs, rfl⟩ := List.exists_cons_of_ne_nil nonempty
  simp [kept c (by simp)]

theorem strip_surrounded {before after : List Char} (dropped : ∀ c ∈ before ++ after, drop c)
    (kept : ∀ c ∈ cs, drop c = false) (nonempty : cs ≠ []) :
    strip drop (before ++ cs ++ after) = cs := by
  have front : (before ++ cs ++ after).dropWhile drop = cs ++ after := by
    rw [List.append_assoc, List.dropWhile_append_of_pos fun c member => dropped c (by simp [member])]
    exact dropWhile_kept kept nonempty after
  have back : (cs ++ after).reverse.dropWhile drop = cs.reverse := by
    rw [List.reverse_append,
      List.dropWhile_append_of_pos fun c member => dropped c (by simp [List.mem_reverse.mp member])]
    have whole : (cs.reverse ++ []).dropWhile drop = cs.reverse ++ [] :=
      dropWhile_kept (fun c member => kept c (by simpa using member)) (by simpa using nonempty) []
    simpa using whole
  rw [strip, front, back, List.reverse_reverse]

theorem strip_kept (kept : ∀ c ∈ cs, drop c = false) (nonempty : cs ≠ []) :
    strip drop cs = cs := by
  have bare : strip drop ([] ++ cs ++ []) = cs := strip_surrounded (by simp) kept nonempty
  simpa using bare

end Text

/-! ## Digits -/

namespace Numeral

theorem toNat_of_isDigit {c : Char} (digit : c.isDigit) : 48 ≤ c.toNat ∧ c.toNat ≤ 57 := by
  simp only [Char.isDigit, Bool.and_eq_true, decide_eq_true_eq] at digit
  exact ⟨digit.1, digit.2⟩

theorem not_isMargin {c : Char} (visible : isBlank c = false) : isMargin c = false := by
  simp only [isBlank, Bool.or_eq_false_iff] at visible
  rw [isMargin, visible.1.1, visible.2]
  rfl

theorem not_isBlank_digit {c : Char} (digit : c.isDigit) : isBlank c = false := by
  have bounds := toNat_of_isDigit digit
  have space : c ≠ ' ' := by rintro rfl; cases digit
  simp only [isBlank, isPlainBlank, isWideBlank, List.contains_cons, List.contains_nil]
  simp [space]
  omega

theorem decimalValue?_digit {c : Char} (digit : c.isDigit) :
    decimalValue? c = some (c.toNat - 48) := by
  have bounds := toNat_of_isDigit digit
  have first : (48 ≤ c.toNat && c.toNat < 48 + 10) = true := by
    simp
    omega
  rw [decimalValue?, decimalZeros, List.find?_cons, first]
  rfl

theorem isDecimal_of_isDigit {c : Char} (digit : c.isDigit) : isDecimal c := by
  rw [isDecimal, decimalValue?_digit digit]
  rfl

variable {digits : List Char}

theorem allDigits_digits (all : ∀ c ∈ digits, c.isDigit) (nonempty : digits ≠ []) :
    allDigits digits = some (digits.map fun c => c.toNat - 48) := by
  rw [allDigits, if_neg (by simpa using nonempty)]
  clear nonempty
  induction digits with
  | nil => rfl
  | cons c rest ih =>
    have tail := ih fun c member => all c (by simp [member])
    simp [decimalValue?_digit (all c (by simp)), tail]

theorem digitsValue_digits (digits : List Char) :
    digitsValue 0 (digits.map fun c => c.toNat - 48) = Nat.ofDigitChars 10 digits 0 := by
  rw [digitsValue, List.foldl_map, Nat.ofDigitChars_eq_foldl]
  rfl

theorem withoutUnderscores_plain {isDigit : Char → Bool} {cs : List Char}
    (plain : ∀ c ∈ cs, c ≠ '_') (afterDigit : Bool) :
    withoutUnderscores isDigit afterDigit cs = some cs := by
  induction cs generalizing afterDigit with
  | nil => rfl
  | cons c rest ih =>
    rw [withoutUnderscores, ih fun c member => plain c (by simp [member])]
    · rfl
    · exact plain c (by simp)

/-! ## Whole numbers -/

theorem log2_of_places {n : Nat} (long : 400 < (Nat.toDigits 10 n).length) : 1024 ≤ n.log2 := by
  have positive : n ≠ 0 := by
    rintro rfl
    simp at long
  have large : 10 ^ 400 ≤ n := by
    rw [← not_lt, ← Nat.length_toDigits_le_iff (by decide) (by decide)]
    exact not_le.mpr long
  have digits : ∀ k, 10 ^ k ≤ n → 3 * k ≤ n.log2 := by
    intro k least
    have power : 2 ^ (3 * k) ≤ 10 ^ k := by
      rw [pow_mul]
      exact Nat.pow_le_pow_left (by decide) k
    exact (Nat.le_log2 positive).mpr (power.trans least)
  have enough := digits 400 large
  omega

-- The power of ten stays small in reading, and still every integer is read as the nearest double.
theorem scaledByTen_zero (negative : Bool) (n : Nat) :
    scaledByTen negative n 0 = Double.ofRatio negative n 1 := by
  by_cases zero : n = 0
  · simp [zero, scaledByTen, Double.ofRatio]
  have present : ¬ ((Nat.toDigits 10 n).length : Int) + 0 < -400 := by omega
  by_cases long : 400 < (Nat.toDigits 10 n).length
  · have digits := log2_of_places long
    have far : (400 : Int) < (Nat.toDigits 10 n).length + 0 := by omega
    have beyond : ∀ m : Nat, Double.ofMantissa negative m (n.log2 - 52 : Nat) =
        .infinite negative := by
      intro m
      rw [Double.ofMantissa]
      split <;> exact if_pos (by simp only; omega)
    rw [Double.ofRatio_of_long negative (by omega), beyond]
    simp only [scaledByTen, if_neg zero, if_pos far]
  · have near : ¬ (400 : Int) < (Nat.toDigits 10 n).length + 0 := by omega
    simp only [scaledByTen, if_neg zero, if_neg near, if_neg present]
    simp

theorem ne_of_letter {cs : List Char} (all : ∀ c ∈ cs, c.isDigit) {word : String} {c : Char}
    (letter : c ∈ word.toList) (other : c.isDigit = false) :
    String.ofList (cs.map Char.toLower) ≠ word := by
  rintro rfl
  rw [String.toList_ofList] at letter
  obtain ⟨x, member, rfl⟩ := List.mem_map.mp letter
  have same : x.toLower = x := by
    have bounds := toNat_of_isDigit (all x member)
    refine dif_neg fun capital => ?_
    have least : 65 ≤ x.toNat := capital.1
    omega
  rw [same, all x member] at other
  cases other

theorem readUnsigned_digits (negative : Bool) {digits : List Char}
    (all : ∀ c ∈ digits, c.isDigit) (nonempty : digits ≠ []) :
    readUnsigned negative digits =
      some (Double.ofRatio negative (Nat.ofDigitChars 10 digits 0) 1) := by
  have nan : String.ofList (digits.map Char.toLower) ≠ "nan" :=
    ne_of_letter (c := 'n') all (by decide) rfl
  have inf : String.ofList (digits.map Char.toLower) ≠ "inf" :=
    ne_of_letter (c := 'n') all (by decide) rfl
  have infinity : String.ofList (digits.map Char.toLower) ≠ "infinity" :=
    ne_of_letter (c := 'n') all (by decide) rfl
  have decimal : ∀ c ∈ digits, isDecimal c := fun c member => isDecimal_of_isDigit (all c member)
  have whole : digits.takeWhile isDecimal = digits := List.takeWhile_eq_self_iff.mpr decimal
  have rest : digits.dropWhile isDecimal = [] := List.dropWhile_eq_nil_iff.mpr decimal
  simp only [readUnsigned, nan, inf, infinity, if_false, or_self, readFraction, whole, rest,
    List.append_nil, allDigits_digits all nonempty, readExponent, List.length_nil]
  rw [← digitsValue_digits]
  exact congrArg some (scaledByTen_zero negative _)

/-! ## Spellings -/

/-- What may stand in front of the digits, and whether it negates. -/
inductive Sign : List Char → Bool → Prop where
  | none : Sign [] false
  | plus : Sign ['+'] false
  | minus : Sign ['-'] true

/-- A spelling of an integer: its digits behind zeros and a sign, between blanks. -/
def Spells (s : String) (n : Int) : Prop :=
  ∃ (negative : Bool) (before sign after : List Char) (zeros : Nat),
    Sign sign negative ∧ Double.signed negative n.natAbs = n ∧
    (∀ c ∈ before ++ after, isBlank c) ∧
    s.toList =
      before ++ (sign ++ (List.replicate zeros '0' ++ Nat.toDigits 10 n.natAbs)) ++ after

section Sign

variable {sign digits : List Char} {negative : Bool}

theorem signed_digits (signs : Sign sign negative) (all : ∀ c ∈ digits, c.isDigit) :
    signed (sign ++ digits) = (negative, digits) := by
  cases signs with
  | none =>
    cases digits with
    | nil => rfl
    | cons c rest =>
      have minus : c ≠ '-' := by rintro rfl; cases all '-' (by simp)
      have plus : c ≠ '+' := by rintro rfl; cases all '+' (by simp)
      simp [signed, minus, plus]
  | plus => rfl
  | minus => rfl

theorem visible_digits (signs : Sign sign negative) (all : ∀ c ∈ digits, c.isDigit) :
    ∀ c ∈ sign ++ digits, isBlank c = false ∧ c ≠ '_' := by
  intro c member
  rcases List.mem_append.mp member with mark | digit
  · cases signs with
    | none => cases mark
    | plus | minus =>
      obtain rfl := List.mem_singleton.mp mark
      decide
  · refine ⟨not_isBlank_digit (all c digit), ?_⟩
    rintro rfl
    cases all '_' digit

theorem readDouble_digits (signs : Sign sign negative) (all : ∀ c ∈ digits, c.isDigit)
    (nonempty : digits ≠ []) :
    readDouble (sign ++ digits) =
      some (Double.ofRatio negative (Nat.ofDigitChars 10 digits 0) 1) := by
  have visible := visible_digits signs all
  have margins : ∀ c ∈ sign ++ digits, isMargin c = false := fun c member =>
    not_isMargin (visible c member).1
  rw [readDouble, strip_kept margins (by simp [nonempty]),
    withoutUnderscores_plain fun c member => (visible c member).2]
  show readUnsigned (signed (sign ++ digits)).1 (signed (sign ++ digits)).2 = _
  rw [signed_digits signs all, readUnsigned_digits negative all nonempty]

end Sign

theorem readDouble_spelled {s : String} {n : Int} (spelled : Spells s n) :
    ∃ negative, Double.signed negative n.natAbs = n ∧
      readDouble (trim s).toList = some (Double.ofRatio negative n.natAbs 1) := by
  obtain ⟨negative, before, sign, after, zeros, signs, same, blank, written⟩ := spelled
  refine ⟨negative, same, ?_⟩
  generalize numeral : List.replicate zeros '0' ++ Nat.toDigits 10 n.natAbs = digits at written
  have nonempty : digits ≠ [] := by simp [← numeral]
  have all : ∀ c ∈ digits, c.isDigit := by
    intro c member
    rcases List.mem_append.mp (numeral ▸ member) with zero | digit
    · rw [(List.mem_replicate.mp zero).2]
      rfl
    · exact Nat.isDigit_of_mem_toDigits (by decide) (by decide) digit
  have value : Nat.ofDigitChars 10 digits 0 = n.natAbs := by
    rw [← numeral, Nat.ofDigitChars_append, Nat.ofDigitChars_replicate_zero, Nat.mul_zero,
      Nat.ofDigitChars_ten_toDigits]
  have visible := visible_digits signs all
  rw [trim, String.toList_ofList, written,
    strip_surrounded blank (fun c member => (visible c member).1) (by simp [nonempty]),
    readDouble_digits signs all nonempty, value]

end Numeral

end ScopedSql
