import ScopedSql.Proofs.Sorting
import ScopedSql.Proofs.Value.Order
import ScopedSql.Value.Convert

/-! Sets put in an order of their own.

The elements of a set are sorted by their natural order, or by their literals if two of them that
are compared cannot be. What comes out has each element once. It does not hang on the order in
which the elements came just if the order that is used tells any two of them apart.
-/

set_option autoImplicit false

namespace ScopedSql.Value

variable {x y : Value} {xs ys : List Value}

/-! ## Sorting -/

abbrev Comparable (x y : Value) : Prop :=
  Sorting.Comparable isBelow? x y

abbrev InOrder (x y : Value) : Prop :=
  Sorting.InOrder isBelow? x y

theorem sortOf_sorted? (sorted : sorted? xs = some ys) : Sorting.SortOf isBelow? xs ys :=
  (Sorting.sorted?_yields isBelow? xs).result ys sorted

theorem sorted?_isSome (comparable : xs.Pairwise Comparable) : (sorted? xs).isSome :=
  (Sorting.sorted?_yields isBelow? xs).isSome comparable

/-- Two values that are the same, or of which the first is below the second. -/
def AtMost (x y : Value) : Prop :=
  x = y ∨ Below x y

theorem AtMost.antisymm (left : AtMost x y) (right : AtMost y x) : x = y := by
  rcases left with same | below
  · exact same
  · rcases right with same | above
    · exact same.symm
    · exact absurd (below.trans above) (not_below_self x)

theorem AtMost.trans {z : Value} (first : AtMost x y) (second : AtMost y z) : AtMost x z := by
  rcases first with rfl | below
  · exact second
  · rcases second with rfl | below'
    · exact .inr below
    · exact .inr (below.trans below')

def Ranked (xs : List Value) : Prop :=
  ∀ x ∈ xs, ∀ y ∈ xs, x ≠ y → Below x y ∨ Below y x

/-- Sorted values are in a relation that leads on if it is how any two of them may stand. -/
theorem pairwise_of_sorted? {R : Value → Value → Prop}
    (trans : ∀ {x y z}, R x y → R y z → R x z)
    (apart : xs.Pairwise fun x y => (InOrder x y → R x y) ∧ (InOrder y x → R y x))
    (sorted : sorted? xs = some ys) : ys.Pairwise R := by
  have sort := sortOf_sorted? sorted
  have apart' := sort.perm.symm.pairwise apart fun both => ⟨both.2, both.1⟩
  have leads : Trans R R R := ⟨trans⟩
  rw [← List.isChain_iff_pairwise, List.isChain_iff_forall_rel_of_append_cons_cons]
  intro x y before after whole
  rw [whole] at apart'
  have neighbours := (List.pairwise_cons.mp (List.pairwise_append.mp apart').2.1).1 y (by simp)
  exact neighbours.1 (List.isChain_iff_forall_rel_of_append_cons_cons.mp sort.isChain whole)

theorem pairwise_atMost_of_sorted? (ranked : Ranked xs) (sorted : sorted? xs = some ys) :
    ys.Pairwise AtMost := by
  have atMost : ∀ x ∈ xs, ∀ y ∈ xs, InOrder x y → AtMost x y := by
    rintro x first y second (beside | below)
    · by_cases same : x = y
      · exact .inl same
      · refine (ranked x first y second same).elim .inr fun above => ?_
        cases beside.symm.trans above
    · exact .inr below
  refine pairwise_of_sorted? AtMost.trans ?_ sorted
  exact List.pairwise_of_forall_mem_list fun x first y second =>
    ⟨atMost x first y second, atMost y second x first⟩

theorem sorted?_eq_of_perm (ranked : Ranked xs) {others zs : List Value} (perm : others.Perm xs)
    (sorted : sorted? xs = some ys) (sorted' : sorted? others = some zs) : zs = ys := by
  have ranked' : Ranked others := fun x first y second =>
    ranked x (perm.mem_iff.mp first) y (perm.mem_iff.mp second)
  have same : zs.Perm ys :=
    (sortOf_sorted? sorted').perm.trans (perm.trans (sortOf_sorted? sorted).perm.symm)
  exact same.eq_of_pairwise (fun _ _ _ _ => AtMost.antisymm)
    (pairwise_atMost_of_sorted? ranked' sorted') (pairwise_atMost_of_sorted? ranked sorted)

/-! ## Sorting by literals -/

theorem perm_sortedByLiteral (xs : List Value) : (sortedByLiteral xs).Perm xs :=
  List.mergeSort_perm _ _

theorem literal_le_trans (x y z : Value) (left : decide (x.literal ≤ y.literal))
    (right : decide (y.literal ≤ z.literal)) : decide (x.literal ≤ z.literal) :=
  decide_eq_true ((of_decide_eq_true left).trans (of_decide_eq_true right))

theorem literal_le_total (x y : Value) :
    decide (x.literal ≤ y.literal) || decide (y.literal ≤ x.literal) := by
  simpa using le_total x.literal y.literal

theorem pairwise_sortedByLiteral (xs : List Value) :
    (sortedByLiteral xs).Pairwise fun x y => x.literal ≤ y.literal :=
  (List.pairwise_mergeSort literal_le_trans literal_le_total xs).imp of_decide_eq_true

theorem sublist_sortedByLiteral {front rest : List Value}
    (one : ∀ x ∈ front, ∀ y ∈ front, x.literal = y.literal) :
    front.Sublist (sortedByLiteral (front ++ rest)) := by
  refine List.sublist_mergeSort literal_le_trans literal_le_total ?_
    (List.sublist_append_left front rest)
  exact List.pairwise_of_forall_mem_list fun x first y second =>
    decide_eq_true (one x first y second).le

/-! ## An order of their own -/

theorem allWritable_iff : allWritable xs ↔ ∀ x ∈ xs, x.isWritable := by
  induction xs with
  | nil => simp [allWritable]
  | cons x xs ih => simp [allWritable, ih]

theorem perm_arranged (settled : arranged xs = .ok ys) : ys.Perm xs := by
  unfold arranged at settled
  split at settled
  · next zs sorted =>
    cases settled
    exact (sortOf_sorted? sorted).perm
  · split at settled
    · cases settled
      exact perm_sortedByLiteral xs
    · cases settled

theorem arranged_eq_error {fault : Fault} : arranged xs = .error fault ↔
    sorted? xs = none ∧ (∃ x ∈ xs, ¬x.isWritable) ∧ fault = .misuse .unreadable := by
  have unwritable : (∃ x ∈ xs, ¬x.isWritable) ↔ ¬allWritable xs := by
    rw [allWritable_iff]
    simp only [not_forall, exists_prop]
  rw [unwritable, arranged]
  cases sorted? xs with
  | some ys => simp
  | none => cases allWritable xs <;> simp [misused, eq_comm]

/-- Whether values are arranged alike, whatever the order in which they come. -/
def HasOwnOrder (xs : List Value) : Prop :=
  ∀ others, others.Perm xs → arranged others = arranged xs

-- All copies of two values can be brought to the front, those of one before those of the other.
theorem exists_gathered (first : x ∈ xs) (second : y ∈ xs) (apart : x ≠ y) :
    ∃ copies copies' rest : List Value, (copies ++ copies' ++ rest).Perm xs ∧
      (x ∈ copies ∧ ∀ z ∈ copies, z = x) ∧ (y ∈ copies' ∧ ∀ z ∈ copies', z = y) ∧
      ∀ z ∈ rest, z ≠ x ∧ z ≠ y := by
  classical
  refine ⟨xs.filter (· = x), (xs.filter (¬ · = x)).filter (· = y),
    (xs.filter (¬ · = x)).filter (¬ · = y), ?_, ?_, ?_, ?_⟩
  · rw [List.append_assoc]
    have others := List.filter_append_perm (fun z => decide (z = y)) (xs.filter (¬ · = x))
    have all := List.filter_append_perm (fun z => decide (z = x)) xs
    simp only [decide_not] at others all ⊢
    exact (others.append_left _).trans all
  · simpa using first
  · have copied : y ∈ (xs.filter (¬ · = x)).filter (· = y) := by
      simpa using ⟨second, apart.symm⟩
    exact ⟨copied, fun z member => of_decide_eq_true (List.mem_filter.mp member).2⟩
  · intro z member
    simp only [List.mem_filter, decide_not, Bool.not_eq_true', decide_eq_false_iff_not] at member
    exact ⟨member.1.2, member.2⟩

-- What is kept in the order in which it came is all that the list has of it.
theorem filter_eq_of_sublist {p : Value → Bool} {front rest : List Value}
    (kept : front.Sublist ys) (perm : ys.Perm (front ++ rest)) (inside : ∀ z ∈ front, p z)
    (outside : ∀ z ∈ rest, ¬ p z) : ys.filter p = front := by
  have all : front.filter p = front := List.filter_eq_self.mpr inside
  have none : rest.filter p = [] := List.filter_eq_nil_iff.mpr outside
  have among : front.Sublist (ys.filter p) := all ▸ kept.filter p
  have asMany := (perm.filter p).length_eq
  rw [List.filter_append, all, none, List.append_nil] at asMany
  exact (among.eq_of_length asMany.symm).symm

/-- Where two values are left in the order in which they come, there is no order of their own. -/
theorem eq_of_kept (own : HasOwnOrder xs) (first : x ∈ xs) (second : y ∈ xs)
    (kept : ∀ front rest : List Value, (front ++ rest).Perm xs → 2 ≤ front.length →
      (∀ z ∈ front, z = x ∨ z = y) →
        ∃ ys, arranged (front ++ rest) = .ok ys ∧ front.Sublist ys) : x = y := by
  classical
  by_contra apart
  obtain ⟨copies, copies', rest, perm, ⟨member, ones⟩, ⟨member', twos⟩, outside⟩ :=
    exists_gathered first second apart
  have perm' : (copies' ++ copies ++ rest).Perm xs :=
    (List.perm_append_comm.append_right rest).trans perm
  have several : 2 ≤ (copies ++ copies').length ∧ 2 ≤ (copies' ++ copies).length := by
    have one := List.length_pos_of_mem member
    have other := List.length_pos_of_mem member'
    rw [List.length_append, List.length_append]
    omega
  let p : Value → Bool := fun z => decide (z = x ∨ z = y)
  have front : ∀ z ∈ copies ++ copies', z = x ∨ z = y := by
    intro z among
    exact (List.mem_append.mp among).imp (ones z) (twos z)
  have front' : ∀ z ∈ copies' ++ copies, z = x ∨ z = y := fun z among =>
    front z (List.perm_append_comm.mem_iff.mp among)
  have others : ∀ z ∈ rest, ¬ p z := by
    intro z among
    simpa [p, not_or] using outside z among
  obtain ⟨ys, settled, inside⟩ := kept _ rest perm several.1 front
  obtain ⟨zs, settled', inside'⟩ := kept _ rest perm' several.2 front'
  obtain rfl : zs = ys :=
    Except.ok.inj (settled'.symm.trans ((own _ perm').trans ((own _ perm).symm.trans settled)))
  have asOnes := filter_eq_of_sublist (p := p) inside (perm_arranged settled)
    (fun z among => decide_eq_true (front z among)) others
  have asTwos := filter_eq_of_sublist (p := p) inside' (perm_arranged settled')
    (fun z among => decide_eq_true (front' z among)) others
  rw [asOnes] at asTwos
  cases copies with
  | nil => cases member
  | cons a tail =>
    cases copies' with
    | nil => cases member'
    | cons b tail' =>
      have same : a = b := (List.cons.inj asTwos).1
      exact apart ((ones a (by simp)).symm.trans (same.trans (twos b (by simp))))

theorem hasOwnOrder_iff_ranked (comparable : xs.Pairwise Comparable) :
    HasOwnOrder xs ↔ Ranked xs := by
  have sorts : ∀ others, others.Perm xs → ∃ ys, sorted? others = some ys ∧
      arranged others = .ok ys := by
    intro others perm
    obtain ⟨ys, sorted⟩ := Option.isSome_iff_exists.mp
      (sorted?_isSome (Sorting.pairwise_of_perm perm comparable))
    exact ⟨ys, sorted, by rw [arranged, sorted]⟩
  constructor
  · intro own x first y second apart
    by_contra beside
    rw [not_or] at beside
    refine apart (eq_of_kept own first second fun front rest perm several two => ?_)
    have compared : front.Pairwise Comparable :=
      (List.pairwise_append.mp (Sorting.pairwise_of_perm perm comparable)).1
    have behind : front.Pairwise fun a b => b.isBelow? a = some false := by
      refine compared.imp_of_mem fun {a b} member member' comparable => ?_
      obtain ⟨below, order⟩ := Option.isSome_iff_exists.mp comparable.backward
      cases below with
      | false => exact order
      | true =>
        rcases two a member with rfl | rfl <;> rcases two b member' with rfl | rfl
        · exact absurd order (not_below_self _)
        · exact absurd order beside.2
        · exact absurd order beside.1
        · exact absurd order (not_below_self _)
    obtain ⟨ys, sorted, settled⟩ := sorts _ perm
    have ahead : Sorting.Ahead isBelow? front (front ++ rest) :=
      ⟨List.prefix_append _ _, several, behind.isChain⟩
    exact ⟨ys, settled, (sortOf_sorted? sorted).keeps front ahead⟩
  · intro ranked others perm
    obtain ⟨ys, sorted, settled⟩ := sorts xs (.refl xs)
    obtain ⟨zs, sorted', settled'⟩ := sorts others perm
    rw [settled, settled', sorted?_eq_of_perm ranked perm sorted sorted']

theorem hasOwnOrder_iff_literals (writable : ∀ x ∈ xs, x.isWritable)
    (unsorted : ∀ others, others.Perm xs → sorted? others = none) :
    HasOwnOrder xs ↔ ∀ x ∈ xs, ∀ y ∈ xs, x.literal = y.literal → x = y := by
  have byLiteral : ∀ others, others.Perm xs → arranged others = .ok (sortedByLiteral others) := by
    intro others perm
    have all : allWritable others :=
      allWritable_iff.mpr fun x member => writable x (perm.mem_iff.mp member)
    simp [arranged, unsorted others perm, all]
  constructor
  · intro own x first y second same
    refine eq_of_kept own first second fun front rest perm _ two => ⟨_, byLiteral _ perm, ?_⟩
    refine sublist_sortedByLiteral fun a member b member' => ?_
    rcases two a member with rfl | rfl <;> rcases two b member' with rfl | rfl <;>
      first | rfl | exact same | exact same.symm
  · intro told others perm
    rw [byLiteral others perm, byLiteral xs (.refl xs)]
    have same : (sortedByLiteral others).Perm (sortedByLiteral xs) :=
      (perm_sortedByLiteral others).trans (perm.trans (perm_sortedByLiteral xs).symm)
    refine congrArg _ (same.eq_of_pairwise (fun x y first second left right => ?_)
      (pairwise_sortedByLiteral others) (pairwise_sortedByLiteral xs))
    have first' : x ∈ xs := perm.mem_iff.mp ((perm_sortedByLiteral others).mem_iff.mp first)
    have second' : y ∈ xs := (perm_sortedByLiteral xs).mem_iff.mp second
    exact told x first' y second' (le_antisymm left right)

/-! ## Plain values -/

/-- Whether values are plain and no two of them are equal. -/
structure PlainSet (xs : List Value) : Prop where
  plain : ∀ x ∈ xs, IsPlain x
  distinct : xs.Pairwise fun x y => ¬ x.equal y

theorem PlainSet.pairwise_below (isSet : PlainSet xs) (sorted : sorted? xs = some ys) :
    ys.Pairwise Below := by
  have below : ∀ x ∈ xs, ∀ y ∈ xs, ¬ y.equal x → InOrder x y → Below x y := by
    rintro x first y second apart (beside | below)
    · have plain := isSet.plain y second
      rcases plain.trichotomy (isSet.plain x first) (by simp [beside]) with same | below | above
      · exact absurd same apart
      · cases beside.symm.trans below
      · exact above
    · exact below
  refine pairwise_of_sorted? Below.trans ?_ sorted
  refine isSet.distinct.imp_of_mem fun {x y} first second apart => ⟨?_, ?_⟩
  · exact below x first y second fun same => apart ((isSet.plain y second).equal_symm same)
  · exact below y second x first apart

theorem PlainSet.of_perm (isSet : PlainSet xs) (perm : ys.Perm xs) : PlainSet ys where
  plain x member := isSet.plain x (perm.mem_iff.mp member)
  distinct := by
    have apart : xs.Pairwise fun x y => ¬ x.equal y ∧ ¬ y.equal x :=
      isSet.distinct.imp_of_mem fun first second apart =>
        ⟨apart, fun same => apart ((isSet.plain _ second).equal_symm same)⟩
    exact (perm.symm.pairwise apart And.symm).imp And.left

/-- A plain set can be sorted whatever the order in which it comes, and has then an order of its
own, or it can be sorted in none. -/
theorem PlainSet.sorts_or_not (isSet : PlainSet xs) :
    (xs.Pairwise Comparable ∧ Ranked xs) ∨ ∀ others, others.Perm xs → sorted? others = none := by
  by_cases unsorted : ∀ others, others.Perm xs → sorted? others = none
  · exact .inr unsorted
  simp only [not_forall] at unsorted
  obtain ⟨others, perm, sorts⟩ := unsorted
  obtain ⟨ys, sorted⟩ := Option.ne_none_iff_exists'.mp sorts
  have same : ys.Perm xs := (sortOf_sorted? sorted).perm.trans perm
  have chain := (isSet.of_perm perm).pairwise_below sorted
  have plain : ∀ y ∈ ys, IsPlain y := fun y member => isSet.plain y (same.mem_iff.mp member)
  have comparable : ys.Pairwise Comparable := by
    refine chain.imp_of_mem fun first second below => ⟨?_, ?_⟩
    · exact Option.isSome_iff_exists.mpr ⟨true, below⟩
    · exact Below.isBelow?_isSome below (plain _ first) (plain _ second)
  have related : ys.Pairwise fun x y => Below x y ∨ Below y x := chain.imp .inl
  refine .inl ⟨same.pairwise comparable Sorting.Comparable.symm, fun x first y second apart => ?_⟩
  have symm : Std.Symm fun x y => Below x y ∨ Below y x := ⟨fun _ _ => Or.symm⟩
  exact related.forall (same.mem_iff.mpr first) (same.mem_iff.mpr second) apart

end ScopedSql.Value
