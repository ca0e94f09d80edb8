import ScopedSql.Proofs.Definition.Quoting
import ScopedSql.Traffic.NamedBinds

/-! Text that the search for placeholders leaves as it is.

A quoted region is kept with all that it holds, and so is a character that opens no region and is no
placeholder. What follows has no say in it: where the quote of a closed region comes right behind
it, both are kept as one region, and as two regions they would be kept, too.
-/

set_option autoImplicit false

namespace ScopedSql.NamedBinds

open Quoting (doubled doubled_cons)

/-- Characters that are left as they are, whatever follows them. -/
def Kept (cs : List Char) : Prop :=
  ∀ rest, marksFrom 0 0 (cs ++ rest) = cs.map .kept ++ marksFrom 0 0 rest

theorem kept_nil : Kept [] := fun _ => rfl

theorem Kept.append {cs ds : List Char} (first : Kept cs) (second : Kept ds) :
    Kept (cs ++ ds) := by
  intro rest
  rw [List.append_assoc, first, second, List.map_append, List.append_assoc]

theorem Kept.intercalate {separator : List Char} (apart : Kept separator)
    {parts : List (List Char)} (each : ∀ part ∈ parts, Kept part) :
    Kept (separator.intercalate parts) := by
  induction parts with
  | nil => exact kept_nil
  | cons first parts ih =>
    obtain ⟨head, tail⟩ := List.forall_mem_cons.mp each
    cases parts with
    | nil => simpa using head
    | cons second parts =>
      rw [List.intercalate_cons_cons]
      exact (head.append apart).append (ih tail)

/-- A character that opens no region and is no placeholder. -/
def isOrdinary (c : Char) : Bool :=
  c ≠ '\'' && c ≠ '"' && c ≠ '`' && c ≠ '?' && c ≠ '$'

theorem kept_ordinary {cs : List Char} (ordinary : ∀ c ∈ cs, isOrdinary c) : Kept cs := by
  induction cs with
  | nil => exact kept_nil
  | cons c cs ih =>
    obtain ⟨head, tail⟩ := List.forall_mem_cons.mp ordinary
    simp only [isOrdinary, Bool.and_eq_true, decide_eq_true_eq] at head
    obtain ⟨⟨⟨⟨single, double⟩, back⟩, mark⟩, sign⟩ := head
    intro rest
    have closed : opened c (cs ++ rest) = 0 := by simp [opened, single, double, back]
    rw [List.cons_append, marksFrom, if_neg mark, if_neg sign, closed, ih tail]
    rfl

/-! ## Regions -/

theorem marksFrom_kept (cs : List Char) (more : Nat) (rest : List Char) :
    marksFrom (cs.length + more) 0 (cs ++ rest) = cs.map .kept ++ marksFrom more 0 rest := by
  induction cs with
  | nil => rw [List.length_nil, Nat.zero_add]; rfl
  | cons c cs ih =>
    rw [List.length_cons, Nat.add_right_comm, List.cons_append, marksFrom, ih]
    rfl

theorem plainRegionLength_closed {quote : Char} {body : List Char} (absent : quote ∉ body)
    (rest : List Char) :
    plainRegionLength quote (body ++ quote :: rest) = some (body.length + 1) := by
  induction body with
  | nil => simp [plainRegionLength]
  | cons c body ih =>
    obtain ⟨other, absent⟩ := not_or.mp (mt List.mem_cons.mpr absent)
    simp [plainRegionLength, Ne.symm other, ih absent]

theorem kept_backticked {body : List Char} (absent : '`' ∉ body) :
    Kept ('`' :: (body ++ ['`'])) := by
  intro rest
  have length : opened '`' (body ++ '`' :: rest) = (body ++ ['`']).length + 0 := by
    simp [opened, plainRegionLength_closed absent rest]
  have whole : body ++ '`' :: rest = (body ++ ['`']) ++ rest := by simp
  rw [List.cons_append, ← whole, marksFrom, if_neg (by decide), if_neg (by decide), length, whole,
    marksFrom_kept]
  rfl

/-- How much a closed region grows by what comes behind it: its quote opens a region that belongs
to it. -/
def growth (quote : Char) : List Char → Nat
  | [] => 0
  | c :: rest => if c = quote then ((regionLength quote rest).map (· + 1)).getD 0 else 0

section

variable {quote : Char}

theorem regionLength_quote (rest : List Char) :
    regionLength quote (quote :: rest) = some (1 + growth quote rest) := by
  cases rest with
  | nil => simp [regionLength, growth]
  | cons c rest =>
    by_cases again : c = quote
    · subst again
      cases more : regionLength c rest <;> simp [regionLength, growth, more]
      omega
    · simp [regionLength, growth, again]

theorem regionLength_doubled (content rest : List Char) :
    regionLength quote (doubled quote content ++ quote :: rest) =
      some ((doubled quote content).length + 1 + growth quote rest) := by
  induction content with
  | nil => simpa [doubled] using regionLength_quote rest
  | cons c content ih =>
    rw [doubled_cons]
    split
    case isTrue => simp [regionLength, ih]; omega
    case isFalse other =>
      rw [List.cons_append, List.length_cons]
      unfold regionLength
      rw [if_pos other, ih, Option.map_some]
      congr 1
      omega

-- Kept as a part of the region before or as a region of its own.
theorem marksFrom_growth (kind : quote = '\'' ∨ quote = '"') (rest : List Char) :
    marksFrom (growth quote rest) 0 rest = marksFrom 0 0 rest := by
  cases rest with
  | nil => rfl
  | cons c rest =>
    by_cases again : c = quote
    · subst again
      have mark : c ≠ '?' ∧ c ≠ '$' := by rcases kind with rfl | rfl <;> decide
      have alone : marksFrom 0 0 (c :: rest) =
          .kept c :: marksFrom ((regionLength c rest).getD 0) 0 rest := by
        rw [marksFrom, if_neg mark.1, if_neg mark.2, opened, if_pos kind]
      rw [growth, if_pos rfl]
      cases more : regionLength c rest with
      | none => rfl
      | some n =>
        rw [more] at alone
        exact alone.symm
    · simp [growth, again]

/-- A region of single or double quotes is kept, with that quote doubled wherever it holds one. -/
theorem kept_quoted (kind : quote = '\'' ∨ quote = '"') (content : List Char) :
    Kept (quote :: (doubled quote content ++ [quote])) := by
  intro rest
  have mark : quote ≠ '?' ∧ quote ≠ '$' := by rcases kind with rfl | rfl <;> decide
  have length : opened quote (doubled quote content ++ quote :: rest) =
      (doubled quote content ++ [quote]).length + growth quote rest := by
    simp [opened, kind, regionLength_doubled]
  have whole : doubled quote content ++ quote :: rest =
      (doubled quote content ++ [quote]) ++ rest := by simp
  rw [List.cons_append, ← whole, marksFrom, if_neg mark.1, if_neg mark.2, length, whole,
    marksFrom_kept, marksFrom_growth kind]
  rfl

end

end ScopedSql.NamedBinds
