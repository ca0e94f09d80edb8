import ScopedSql.Proofs.Number.Spelling

/-! What is read as an integer: margins, a sign, and digits in groups.

The digits may come from any script, and each counts as what it is worth there. Underscores only
separate groups of digits, so none comes first or last and no two meet. `readInt` takes the numerals
of this grammar that have at most `digitLimit` digits and no other text.
-/

set_option autoImplicit false

namespace ScopedSql

open Text

/-! ## Margins -/

namespace Text

theorem exists_margins (drop : Char → Bool) (cs : List Char) :
    ∃ before after, (∀ c ∈ before ++ after, drop c) ∧
      cs = before ++ strip drop cs ++ after := by
  let rest := cs.dropWhile drop
  refine ⟨cs.takeWhile drop, (rest.reverse.takeWhile drop).reverse, ?_, ?_⟩
  · intro c member
    rcases List.mem_append.mp member with front | back
    · exact List.mem_takeWhile_imp front
    · exact List.mem_takeWhile_imp (List.mem_reverse.mp back)
  · have back : strip drop cs ++ (rest.reverse.takeWhile drop).reverse = rest := by
      rw [strip, ← List.reverse_append, List.takeWhile_append_dropWhile, List.reverse_reverse]
    rw [List.append_assoc, back, List.takeWhile_append_dropWhile]

/-! ## Digits of a script -/

/-- What holds of the ten digits of each script holds of every decimal digit. -/
theorem of_isDecimal {p : Char → Prop} {c : Char} (digit : isDecimal c)
    (each : ∀ first ∈ decimalZeros, ∀ i < 10, p (Char.ofNat (first + i))) : p c := by
  obtain ⟨n, value⟩ := Option.isSome_iff_exists.mp digit
  obtain ⟨first, found, -⟩ := Option.map_eq_some_iff.mp value
  have within := List.find?_some found
  simp only [Bool.and_eq_true, decide_eq_true_eq] at within
  have holds := each first (List.mem_of_find?_eq_some found) (c.toNat - first) (by omega)
  rwa [Nat.add_sub_cancel' within.1, Char.ofNat_toNat] at holds

theorem visible_of_isDecimal {c : Char} (digit : isDecimal c) :
    isBlank c = false ∧ c ≠ '_' ∧ c ≠ '+' ∧ c ≠ '-' :=
  of_isDecimal (p := fun c => isBlank c = false ∧ c ≠ '_' ∧ c ≠ '+' ∧ c ≠ '-') digit
    (by decide +kernel)

def digitWorth (c : Char) : Nat :=
  (decimalValue? c).getD 0

theorem decimalValue?_eq_some {c : Char} (digit : isDecimal c) :
    decimalValue? c = some (digitWorth c) := by
  obtain ⟨n, value⟩ := Option.isSome_iff_exists.mp digit
  rw [digitWorth, value]
  rfl

end Text

namespace Numeral

/-! ## Groups of digits -/

/-- A text of digits that single underscores may separate, and its digits alone. -/
inductive Grouped : List Char → List Char → Prop where
  | last {c : Char} (digit : isDecimal c) : Grouped [c] [c]
  | digit {c : Char} {cs digits : List Char} (digit : isDecimal c) (rest : Grouped cs digits) :
      Grouped (c :: cs) (c :: digits)
  | group {c : Char} {cs digits : List Char} (digit : isDecimal c) (rest : Grouped cs digits) :
      Grouped (c :: '_' :: cs) (c :: digits)

section Grouped

variable {cs digits : List Char}

theorem Grouped.head (grouped : Grouped cs digits) : ∃ c rest, cs = c :: rest ∧ isDecimal c := by
  cases grouped with
  | last digit | digit digit _ | group digit _ => exact ⟨_, _, rfl, digit⟩

theorem Grouped.decimal (grouped : Grouped cs digits) : ∀ c ∈ digits, isDecimal c := by
  induction grouped with
  | last digit => simpa using digit
  | digit digit _ ih | group digit _ ih => exact List.forall_mem_cons.mpr ⟨digit, ih⟩

theorem Grouped.ne_nil (grouped : Grouped cs digits) : digits ≠ [] := by
  cases grouped <;> simp

theorem Grouped.not_isMargin (grouped : Grouped cs digits) : ∀ c ∈ cs, isMargin c = false := by
  have one : ∀ {c : Char}, isDecimal c → isMargin c = false := fun digit =>
    Numeral.not_isMargin (visible_of_isDecimal digit).1
  induction grouped with
  | last digit => simpa using one digit
  | digit digit _ ih => exact List.forall_mem_cons.mpr ⟨one digit, ih⟩
  | group digit _ ih =>
    exact List.forall_mem_cons.mpr ⟨one digit, List.forall_mem_cons.mpr ⟨rfl, ih⟩⟩

theorem withoutUnderscores_cons {c : Char} (other : c ≠ '_') (afterDigit : Bool)
    (cs : List Char) :
    withoutUnderscores isDecimal afterDigit (c :: cs) =
      (withoutUnderscores isDecimal (isDecimal c) cs).map (c :: ·) := by
  rw [withoutUnderscores]
  exact other

theorem Grouped.withoutUnderscores (grouped : Grouped cs digits) (afterDigit : Bool) :
    withoutUnderscores isDecimal afterDigit cs = some digits := by
  induction grouped generalizing afterDigit with
  | last digit =>
    rw [withoutUnderscores_cons (visible_of_isDecimal digit).2.1]
    rfl
  | digit digit _ ih =>
    rw [withoutUnderscores_cons (visible_of_isDecimal digit).2.1, ih]
    rfl
  | group digit rest ih =>
    obtain ⟨next, later, rfl, decimal⟩ := rest.head
    rw [withoutUnderscores_cons (visible_of_isDecimal digit).2.1, digit,
      Numeral.withoutUnderscores]
    simp [decimal, ih]

-- Behind a digit an underscore may come next, and then a group after it.
theorem grouped_of_withoutUnderscores {afterDigit : Bool}
    (read : withoutUnderscores isDecimal afterDigit cs = some digits)
    (decimal : ∀ c ∈ digits, isDecimal c) :
    cs = [] ∧ digits = [] ∨ Grouped cs digits ∨
      ∃ rest, cs = '_' :: rest ∧ Grouped rest digits := by
  induction cs generalizing afterDigit digits with
  | nil =>
    cases read
    exact .inl ⟨rfl, rfl⟩
  | cons c cs ih =>
    by_cases mark : c = '_'
    · subst mark
      rw [Numeral.withoutUnderscores] at read
      split at read
      case isFalse => cases read
      case isTrue before =>
        refine .inr (.inr ⟨cs, rfl, ?_⟩)
        simp only [Bool.and_eq_true] at before
        rcases ih read decimal with ⟨rfl, -⟩ | grouped | ⟨rest, rfl, -⟩
        · cases before.2
        · exact grouped
        · cases before.2
    · rw [withoutUnderscores_cons mark] at read
      obtain ⟨later, behind, rfl⟩ := Option.map_eq_some_iff.mp read
      obtain ⟨digit, decimal⟩ := List.forall_mem_cons.mp decimal
      rcases ih behind decimal with ⟨rfl, rfl⟩ | grouped | ⟨rest, rfl, grouped⟩
      · exact .inr (.inl (.last digit))
      · exact .inr (.inl (.digit digit grouped))
      · exact .inr (.inl (.group digit grouped))

theorem grouped_iff : Grouped cs digits ↔
    withoutUnderscores isDecimal false cs = some digits ∧ digits ≠ [] ∧
      ∀ c ∈ digits, isDecimal c := by
  constructor
  · intro grouped
    exact ⟨grouped.withoutUnderscores false, grouped.ne_nil, grouped.decimal⟩
  · rintro ⟨read, nonempty, decimal⟩
    rcases grouped_of_withoutUnderscores read decimal with ⟨-, none⟩ | grouped | ⟨rest, rfl, -⟩
    · exact absurd none nonempty
    · exact grouped
    · cases read

end Grouped

/-! ## The number that digits write -/

def written (digits : List Char) : Nat :=
  Nat.ofDigits 10 (digits.map digitWorth).reverse

theorem digitsValue_eq (digits : List Char) :
    digitsValue 0 (digits.map digitWorth) = written digits := by
  rw [written, Nat.ofDigits_eq_foldr, List.foldr_reverse, digitsValue]
  congr 1
  funext n d
  rw [Nat.add_comm]
  rfl

theorem mapM_decimalValue?_eq_some_iff {digits : List Char} {worths : List Nat} :
    digits.mapM decimalValue? = some worths ↔
      (∀ c ∈ digits, isDecimal c) ∧ worths = digits.map digitWorth := by
  induction digits generalizing worths with
  | nil =>
    rw [List.mapM_nil]
    exact ⟨fun same => ⟨by simp, (Option.some.inj same).symm⟩, fun ⟨_, same⟩ => by rw [same]; rfl⟩
  | cons c digits ih =>
    rw [List.mapM_cons, List.forall_mem_cons, List.map_cons]
    simp only [Option.bind_eq_bind, Option.bind_eq_some_iff, ih]
    constructor
    · rintro ⟨worth, value, later, ⟨decimal, rfl⟩, same⟩
      have digit : isDecimal c := by rw [isDecimal, value]; rfl
      have own := (decimalValue?_eq_some digit).symm.trans value
      exact ⟨⟨digit, decimal⟩, by rw [Option.some.inj own, ← Option.some.inj same]⟩
    · rintro ⟨⟨digit, decimal⟩, rfl⟩
      exact ⟨_, decimalValue?_eq_some digit, _, ⟨decimal, rfl⟩, rfl⟩

theorem allDigits_eq_some_iff {digits : List Char} {worths : List Nat} :
    allDigits digits = some worths ↔
      digits ≠ [] ∧ (∀ c ∈ digits, isDecimal c) ∧ worths = digits.map digitWorth := by
  unfold allDigits
  split
  case isTrue empty => simp [List.isEmpty_iff.mp empty]
  case isFalse nonempty =>
    rw [List.isEmpty_iff] at nonempty
    simp [nonempty, mapM_decimalValue?_eq_some_iff]

/-! ## Integers -/

/-- A text that writes an integer: a sign and digits in groups, between margins. -/
def Writes (cs : List Char) (n : Int) : Prop :=
  ∃ (negative : Bool) (before sign body digits after : List Char),
    Sign sign negative ∧ Grouped body digits ∧ digits.length ≤ digitLimit ∧
    (∀ c ∈ before ++ after, isMargin c) ∧ cs = before ++ (sign ++ body) ++ after ∧
    n = Double.signed negative (written digits)

theorem exists_sign (cs : List Char) :
    ∃ sign, Sign sign (signed cs).1 ∧ cs = sign ++ (signed cs).2 := by
  unfold signed
  split
  · exact ⟨_, .minus, rfl⟩
  · exact ⟨_, .plus, rfl⟩
  · exact ⟨_, .none, rfl⟩

theorem signed_grouped {negative : Bool} {sign body digits : List Char}
    (signs : Sign sign negative) (grouped : Grouped body digits) :
    signed (sign ++ body) = (negative, body) := by
  cases signs with
  | none =>
    obtain ⟨c, rest, rfl, decimal⟩ := grouped.head
    obtain ⟨-, -, plus, minus⟩ := visible_of_isDecimal decimal
    simp [signed, minus, plus]
  | plus => rfl
  | minus => rfl

theorem readInt_eq_some_iff_grouped {cs : List Char} {n : Int} :
    readInt cs = some n ↔
      ∃ digits, Grouped (signed (strip isMargin cs)).2 digits ∧ digits.length ≤ digitLimit ∧
        n = Double.signed (signed (strip isMargin cs)).1 (written digits) := by
  rw [readInt]
  rcases signed (strip isMargin cs) with ⟨negative, body⟩
  simp only [Option.bind_eq_bind, Option.bind_eq_some_iff, allDigits_eq_some_iff]
  constructor
  · rintro ⟨worths, ⟨digits, bare, nonempty, decimal, rfl⟩, checked⟩
    rw [List.length_map] at checked
    split at checked
    case isTrue => cases checked
    case isFalse short =>
      refine ⟨digits, grouped_iff.mpr ⟨bare, nonempty, decimal⟩, not_lt.mp short, ?_⟩
      rw [← digitsValue_eq]
      exact (Option.some.inj checked).symm
  · rintro ⟨digits, grouped, short, rfl⟩
    obtain ⟨bare, nonempty, decimal⟩ := grouped_iff.mp grouped
    refine ⟨_, ⟨digits, bare, nonempty, decimal, rfl⟩, ?_⟩
    rw [List.length_map, if_neg (not_lt.mpr short), digitsValue_eq]
    rfl

/-- Exactly the texts that write an integer are read, each as the integer that it writes. -/
theorem readInt_eq_some_iff {cs : List Char} {n : Int} :
    readInt cs = some n ↔ Writes cs n := by
  rw [readInt_eq_some_iff_grouped]
  constructor
  · rintro ⟨digits, grouped, short, same⟩
    obtain ⟨before, after, margins, parts⟩ := exists_margins isMargin cs
    obtain ⟨sign, signs, text⟩ := exists_sign (strip isMargin cs)
    rw [text] at parts
    exact ⟨_, before, sign, _, digits, after, signs, grouped, short, margins, parts, same⟩
  · rintro ⟨negative, before, sign, body, digits, after, signs, grouped, short, margins, rfl, same⟩
    have kept : ∀ c ∈ sign ++ body, isMargin c = false := by
      intro c member
      rcases List.mem_append.mp member with mark | digit
      · cases signs with
        | none => cases mark
        | plus | minus =>
          obtain rfl := List.mem_singleton.mp mark
          decide
      · exact grouped.not_isMargin c digit
    have nonempty : sign ++ body ≠ [] := by
      obtain ⟨c, rest, rfl, -⟩ := grouped.head
      simp
    rw [strip_surrounded margins kept nonempty, signed_grouped signs grouped]
    exact ⟨digits, grouped, short, same⟩

theorem readInt_eq_none_iff {cs : List Char} : readInt cs = none ↔ ∀ n, ¬ Writes cs n := by
  rw [Option.eq_none_iff_forall_ne_some]
  exact forall_congr' fun n => not_congr readInt_eq_some_iff

end Numeral

end ScopedSql
