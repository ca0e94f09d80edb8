import ScopedSql.Proofs.Reading.Scanning

/-! Texts with the numbers of their placeholders raised.

A text is copied from left to right. The digits behind a sign are kept back until the number is
complete, so a number is raised as a whole. What does not begin with a digit can follow a
placeholder without becoming a part of it.
-/

set_option autoImplicit false

namespace ScopedSql

/-- A text that is copied so far, with the digits of the last placeholder if it may still go on. -/
structure Renumbering where
  copied : List Char
  pending : Option (List Char)

namespace Renumbering

-- A sign without a number stays as it is.
def raised (more : Nat) : List Char → List Char
  | [] => ['$']
  | digits => '$' :: Nat.toDigits 10 (Nat.ofDigitChars 10 digits 0 + more)

def result (more : Nat) (r : Renumbering) : List Char :=
  r.copied ++ r.pending.elim [] (raised more)

def step (more : Nat) (r : Renumbering) (c : Char) : Renumbering :=
  match r.pending, c.isDigit with
  | some digits, true => ⟨r.copied, some (digits ++ [c])⟩
  | _, _ => if c = '$' then ⟨r.result more, some []⟩ else ⟨r.result more ++ [c], none⟩

def run (more : Nat) (r : Renumbering) (cs : List Char) : Renumbering :=
  cs.foldl (step more) r

def start : Renumbering := ⟨[], none⟩

/-- The copy stands at an edge of this kind: after a clear one no number may go on. -/
def At : Edge → Renumbering → Prop
  | .clear, r => r.pending = none
  | .loose, _ => True

theorem At.of_clear {edge : Edge} {r : Renumbering} (clear : r.pending = none) : r.At edge := by
  cases edge with
  | clear => exact clear
  | loose => trivial

variable (more : Nat) {r : Renumbering}

theorem run_cons (more : Nat) (r : Renumbering) (c : Char) (cs : List Char) :
    run more r (c :: cs) = run more (step more r c) cs := rfl

theorem run_append (more : Nat) (r : Renumbering) (first rest : List Char) :
    run more r (first ++ rest) = run more (run more r first) rest :=
  List.foldl_append

theorem result_of_clear (clear : r.pending = none) : r.result more = r.copied := by
  simp [result, clear]

theorem run_plain {cs : List Char} (clear : r.pending = none) (plain : ∀ c ∈ cs, c ≠ '$') :
    run more r cs = ⟨r.copied ++ cs, none⟩ := by
  induction cs generalizing r with
  | nil =>
    obtain ⟨copied, pending⟩ := r
    cases clear
    simp [run]
  | cons c cs ih =>
    have copies : step more r c = ⟨r.copied ++ [c], none⟩ := by
      simp [step, clear, plain c (by simp), result]
    rw [run_cons, copies, ih rfl fun c member => plain c (by simp [member])]
    simp

-- The number that was kept back ends where something else begins.
theorem run_delimiter {c : Char} (delimiter : Scan.isDelimiter c) {cs : List Char}
    (plain : ∀ c ∈ cs, c ≠ '$') : run more r (c :: cs) = ⟨r.result more ++ c :: cs, none⟩ := by
  have among : c = ' ' ∨ c = ')' ∨ c = ',' := by simpa [Scan.isDelimiter, or_assoc] using delimiter
  have ends : step more r c = ⟨r.result more ++ [c], none⟩ := by
    have other : c.isDigit = false ∧ c ≠ '$' := by rcases among with rfl | rfl | rfl <;> decide
    obtain ⟨copied, pending⟩ := r
    cases pending <;> simp [step, other]
  rw [run_cons, ends, run_plain more rfl plain]
  simp

theorem run_digits {copied digits cs : List Char} (numeral : ∀ c ∈ cs, c.isDigit) :
    run more ⟨copied, some digits⟩ cs = ⟨copied, some (digits ++ cs)⟩ := by
  induction cs generalizing digits with
  | nil => simp [run]
  | cons c cs ih =>
    have grows : step more ⟨copied, some digits⟩ c = ⟨copied, some (digits ++ [c])⟩ := by
      simp [step, numeral c (by simp)]
    rw [run_cons, grows, ih fun c member => numeral c (by simp [member])]
    simp

theorem raised_toDigits (n : Nat) :
    raised more (Nat.toDigits 10 n) = '$' :: Nat.toDigits 10 (n + more) := by
  have read : Nat.ofDigitChars 10 (Nat.toDigits 10 n) 0 = n := Nat.ofDigitChars_ten_toDigits
  obtain ⟨first, rest, numeral⟩ :=
    List.exists_cons_of_ne_nil (Nat.toDigits_ne_nil (n := n) (b := 10))
  rw [numeral] at read ⊢
  rw [raised, read]
  simp

-- A placeholder is raised by the amount, wherever it stands.
theorem run_placeholder (clear : r.pending = none) (n : Nat) :
    (run more r ('$' :: Nat.toDigits 10 n)).result more =
      r.copied ++ '$' :: Nat.toDigits 10 (n + more) := by
  have opens : step more r '$' = ⟨r.copied, some []⟩ := by
    simp [step, clear, result]
  have numeral : ∀ c ∈ Nat.toDigits 10 n, c.isDigit := fun c member =>
    Nat.isDigit_of_mem_toDigits (by decide) (by decide) member
  rw [run_cons, opens, run_digits more numeral, List.nil_append, result, Option.elim_some,
    raised_toDigits]

end Renumbering

/-- A text with each numbered placeholder raised by an amount; other placeholders stay. -/
def Dialect.renumbered (d : Dialect) (more : Nat) (text : String) : String :=
  match d with
  | .postgres => String.ofList ((Renumbering.start.run more text.toList).result more)
  | .mysql | .sqlite => text

end ScopedSql
