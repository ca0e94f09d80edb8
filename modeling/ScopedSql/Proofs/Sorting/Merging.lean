import Mathlib.Data.List.Chain
import Mathlib.Data.List.Perm.Basic
import ScopedSql.Sorting

/-! What merging two runs keeps, whatever the comparison.

A step of a merge moves values from the front of one side behind what is merged. `Merge.Advances`
says what this keeps, and the whole merge is as many such steps as it takes: at its end each side
has kept its order, and any two neighbours were compared and stand in the order that came of it.
-/

set_option autoImplicit false

namespace ScopedSql.Sorting

variable {α β γ : Type}

/-! ## Computations that may fail -/

/-- A computation whose result, if there is one, is as said, and that has one if its questions are
answered. -/
structure Yields (x : Option β) (answered : Prop) (P : β → Prop) : Prop where
  result : ∀ b, x = some b → P b
  isSome : answered → x.isSome

namespace Yields

variable {x : Option β} {answered : Prop} {P : β → Prop}

theorem of_holds {b : β} (holds : P b) : Yields (some b) answered P :=
  ⟨fun _ same => Option.some.inj same ▸ holds, fun _ => rfl⟩

theorem of_unanswered (unanswered : ¬answered) : Yields (none : Option β) answered P :=
  ⟨fun _ same => (by cases same), fun given => absurd given unanswered⟩

theorem mono {answered' : Prop} (yields : Yields x answered P) (answers : answered' → answered) :
    Yields x answered' P :=
  ⟨yields.result, fun given => yields.isSome (answers given)⟩

theorem imp {Q : β → Prop} (yields : Yields x answered P) (into : ∀ b, P b → Q b) :
    Yields x answered Q :=
  ⟨fun b same => into b (yields.result b same), yields.isSome⟩

theorem bind {next : β → Option γ} {Q : γ → Prop} (first : Yields x answered P)
    (rest : ∀ b, P b → Yields (next b) answered Q) : Yields (x >>= next) answered Q := by
  cases x with
  | none => exact of_unanswered fun given => by cases first.isSome given
  | some b => exact rest b (first.result b rfl)

theorem map {f : β → γ} {Q : γ → Prop} (yields : Yields x answered P)
    (into : ∀ b, P b → Q (f b)) : Yields (x.map f) answered Q := by
  cases x with
  | none => exact of_unanswered fun given => by cases yields.isSome given
  | some b => exact of_holds (into b (yields.result b rfl))

end Yields

/-! ## Cuts -/

variable {goesOn? : α → Option Bool} {xs passed after : List α} {x : α} {cut : Cut α}

/-- A cut of a list behind a value that goes on, or at its front, and before one that does not, or
at its end. -/
structure CutBy (goesOn? : α → Option Bool) (xs : List α) (cut : Cut α) : Prop where
  whole : cut.before ++ cut.after = xs
  last : ∀ x ∈ cut.before.getLast?, goesOn? x = some true
  next : ∀ x ∈ cut.after.head?, goesOn? x = some false

namespace CutBy

theorem behind (whole : passed ++ x :: after = xs) (goesOn : goesOn? x = some true)
    (found : CutBy goesOn? after cut) :
    CutBy goesOn? xs ⟨passed ++ x :: cut.before, cut.after⟩ where
  whole := by simp [← whole, ← found.whole]
  last y isLast := by
    cases later : cut.before.getLast? with
    | none =>
      obtain rfl : x = y := by simpa [List.getLast?_cons, later] using isLast
      exact goesOn
    | some z =>
      obtain rfl : z = y := by simpa [List.getLast?_cons, later] using isLast
      exact found.last z later
  next := found.next

theorem ahead (whole : passed ++ x :: after = xs) (stops : goesOn? x = some false)
    (found : CutBy goesOn? passed cut) :
    CutBy goesOn? xs ⟨cut.before, cut.after ++ x :: after⟩ where
  whole := by simp [← whole, ← found.whole]
  last := found.last
  next y isNext := by
    cases sooner : cut.after.head? with
    | none =>
      obtain rfl : x = y := by simpa [List.head?_append, sooner] using isNext
      exact stops
    | some z =>
      obtain rfl : z = y := by simpa [List.head?_append, sooner] using isNext
      exact found.next z sooner

end CutBy

theorem take_append_of_drop {n : Nat} (split : xs.drop n = x :: after) :
    xs.take n ++ x :: after = xs := by
  rw [← split, List.take_append_drop]

def Answers (goesOn? : α → Option Bool) (xs : List α) : Prop :=
  ∀ x ∈ xs, (goesOn? x).isSome

theorem Answers.split (answers : Answers goesOn? xs) (whole : passed ++ x :: after = xs) :
    Answers goesOn? passed ∧ (goesOn? x).isSome ∧ Answers goesOn? after := by
  rw [← whole, Answers, List.forall_mem_append, List.forall_mem_cons] at answers
  exact answers

theorem bisect?_yields (turned : Bool) (goesOn? : α → Option Bool) (xs : List α) :
    Yields (bisect? turned goesOn? xs) (Answers goesOn? xs) (CutBy goesOn? xs) := by
  fun_induction bisect? turned goesOn? xs with
  | case1 xs middle split =>
    have empty : xs = [] := by
      rw [List.drop_eq_nil_iff] at split
      rw [← List.length_eq_zero_iff]
      grind
    exact .of_holds ⟨empty.symm, by simp, by simp⟩
  | case2 xs middle x after split unknown =>
    have whole := take_append_of_drop split
    exact .of_unanswered fun answers => by simpa [unknown] using (answers.split whole).2.1
  | case3 xs middle x after split goesOn ih =>
    have whole := take_append_of_drop split
    exact (ih.mono fun answers => (answers.split whole).2.2).map fun _ => .behind whole goesOn
  | case4 xs middle x after split stops ih =>
    have whole := take_append_of_drop split
    exact (ih.mono fun answers => (answers.split whole).1).map fun _ => .ahead whole stops

theorem climb?_yields (turned : Bool) (goesOn? : α → Option Bool) (distance : Nat) (xs : List α) :
    Yields (climb? turned goesOn? distance xs) (Answers goesOn? xs) (CutBy goesOn? xs) := by
  fun_induction climb? turned goesOn? distance xs with
  | case1 distance xs split => exact bisect?_yields turned goesOn? xs
  | case2 distance xs x after split unknown =>
    have whole := take_append_of_drop split
    exact .of_unanswered fun answers => by simpa [unknown] using (answers.split whole).2.1
  | case3 distance xs x after split goesOn ih =>
    have whole := take_append_of_drop split
    exact (ih.mono fun answers => (answers.split whole).2.2).map fun _ => .behind whole goesOn
  | case4 distance xs x after split stops =>
    have whole := take_append_of_drop split
    have halved := bisect?_yields turned goesOn? (xs.take distance)
    exact (halved.mono fun answers => (answers.split whole).1).map fun _ => .ahead whole stops

theorem gallop?_yields (turned : Bool) (goesOn? : α → Option Bool) (xs : List α) :
    Yields (gallop? turned goesOn? xs) (Answers goesOn? xs) (CutBy goesOn? xs) := by
  cases xs with
  | nil => exact .of_holds ⟨rfl, by simp, by simp⟩
  | cons x xs =>
    have whole : [] ++ x :: xs = x :: xs := rfl
    rw [gallop?]
    split
    · next unknown =>
      exact .of_unanswered fun answers => by simpa [unknown] using (answers.split whole).2.1
    · next goesOn =>
      have climbed := climb?_yields turned goesOn? 0 xs
      exact (climbed.mono fun answers => (answers.split whole).2.2).map fun _ => .behind whole goesOn
    · next stops => exact .of_holds ⟨rfl, by simp, by simpa using stops⟩

theorem map_not_eq_some {answer : Option Bool} {b : Bool} :
    answer.map not = some b ↔ answer = some !b := by
  cases answer <;> simp [Bool.not_eq_eq_eq_not]

/-! ## Steps of a merge -/

section

variable {R : α → α → Prop} {tail : List α}

-- Values go behind what is merged, before the other side.
theorem isChain_moved {merged taken rest other : List α} {y : α}
    (side : (merged ++ (taken ++ rest)).IsChain R) (across : (merged ++ y :: other).IsChain R)
    (link : ∀ x ∈ taken.getLast?, R x y) : (merged ++ taken ++ y :: other).IsChain R := by
  cases taken with
  | nil => simpa using across
  | cons z zs =>
    rw [← List.append_assoc] at side
    refine List.isChain_append.mpr ⟨(List.isChain_append.mp side).1,
      (List.isChain_append.mp across).2.1, fun x isLast y' isNext => ?_⟩
    obtain rfl : y = y' := by simpa using isNext
    refine link x ?_
    simpa [List.getLast?_append] using isLast

namespace Merge

/-- Both sides ascend from what is merged to what stands behind the merge, and the last value of the
first side may stand before that of the second. -/
structure Orderly (R : α → α → Prop) (tail : List α) (m : Merge α) : Prop where
  first : (m.merged ++ (m.first ++ tail)).IsChain R
  second : (m.merged ++ (m.second ++ tail)).IsChain R
  ends : ∀ x ∈ m.first.getLast?, ∀ y ∈ m.second.getLast?, R x y

structure Advances (R : α → α → Prop) (tail : List α) (m m' : Merge α) : Prop where
  perm : m'.result.Perm m.result
  first : (m.merged ++ m.first).Sublist (m'.merged ++ m'.first)
  second : (m.merged ++ m.second).Sublist (m'.merged ++ m'.second)
  fromFirst : m'.first <:+ m.first
  fromSecond : m'.second <:+ m.second
  orderly : m.Orderly R tail → m'.Orderly R tail

theorem Advances.refl (m : Merge α) : Advances R tail m m :=
  ⟨.refl _, .refl _, .refl _, List.suffix_refl _, List.suffix_refl _, id⟩

theorem Advances.trans {m m' m'' : Merge α} (one : Advances R tail m m')
    (other : Advances R tail m' m'') : Advances R tail m m'' where
  perm := other.perm.trans one.perm
  first := one.first.trans other.first
  second := one.second.trans other.second
  fromFirst := other.fromFirst.trans one.fromFirst
  fromSecond := other.fromSecond.trans one.fromSecond
  orderly orderly := other.orderly (one.orderly orderly)

theorem Advances.size_le {m m' : Merge α} (advances : Advances R tail m m') : m'.size ≤ m.size :=
  Nat.add_le_add advances.fromFirst.length_le advances.fromSecond.length_le

variable {m : Merge α} {cut : Cut α} {y : α} {rest : List α}

theorem getLast?_of_suffix {xs ys : List α} (suffix : xs <:+ ys) {x : α}
    (isLast : x ∈ xs.getLast?) :
    x ∈ ys.getLast? := by
  obtain ⟨front, rfl⟩ := suffix
  rw [Option.mem_def] at isLast ⊢
  simp [List.getLast?_append, isLast]

theorem advances_takeFirst (whole : cut.before ++ cut.after = m.first)
    (second : m.second = y :: rest)
    (link : ∀ x ∈ cut.before.getLast?, R x y) : Advances R tail m (m.takeFirst cut) where
  perm := by simp [takeFirst, result, ← whole]
  first := by simp [takeFirst, ← whole]
  second := by simp [takeFirst]
  fromFirst := ⟨cut.before, whole⟩
  fromSecond := List.suffix_refl _
  orderly orderly := by
    have side := orderly.first
    have across := orderly.second
    rw [← whole, List.append_assoc] at side
    rw [second, List.cons_append] at across
    refine ⟨?_, ?_, fun x isLast y isLast' => ?_⟩
    · simpa [takeFirst] using side
    · simpa [takeFirst, second] using isChain_moved side across link
    · exact orderly.ends x (getLast?_of_suffix ⟨cut.before, whole⟩ isLast) y isLast'

theorem advances_takeSecond (whole : cut.before ++ cut.after = m.second)
    (first : m.first = y :: rest)
    (link : ∀ x ∈ cut.before.getLast?, R x y) : Advances R tail m (m.takeSecond cut) where
  perm := by
    rw [result, result, ← whole]
    simp only [takeSecond, List.append_assoc]
    exact List.Perm.append_left _ (List.perm_append_comm_assoc _ _ _)
  first := by simp [takeSecond]
  second := by simp [takeSecond, ← whole]
  fromFirst := List.suffix_refl _
  fromSecond := ⟨cut.before, whole⟩
  orderly orderly := by
    have side := orderly.second
    have across := orderly.first
    rw [← whole, List.append_assoc] at side
    rw [first, List.cons_append] at across
    refine ⟨?_, ?_, fun x isLast y isLast' => ?_⟩
    · simpa [takeSecond, first] using isChain_moved side across link
    · simpa [takeSecond] using side
    · exact orderly.ends x isLast y (getLast?_of_suffix ⟨cut.before, whole⟩ isLast')

theorem Orderly.isChain_result (orderly : m.Orderly R tail) (isOver : m.isOver) :
    (m.result ++ tail).IsChain R := by
  obtain ⟨merged, first, second⟩ := m
  cases first with
  | nil => simpa [result] using orderly.second
  | cons x xs =>
    match second, isOver with
    | [], _ => simpa [result] using orderly.first
    | [y], _ =>
      have side := orderly.first
      rw [← List.append_assoc] at side
      have across := (List.isChain_append.mp orderly.second).2.1
      have whole : ((merged ++ x :: xs) ++ ([y] ++ tail)).IsChain R := by
        refine List.isChain_append.mpr ⟨(List.isChain_append.mp side).1, across, ?_⟩
        intro last isLast next isNext
        obtain rfl : y = next := by simpa using isNext
        exact orderly.ends last (by simpa [List.getLast?_append] using isLast) y (by simp)
      simpa [result] using whole

/-! ## A whole merge -/

structure Decides (goesFirst? : α → α → Option Bool) (R : α → α → Prop) : Prop where
  first : ∀ {x y}, goesFirst? x y = some true → R x y
  second : ∀ {x y}, goesFirst? x y = some false → R y x

def Answered (goesFirst? : α → α → Option Bool) (m : Merge α) : Prop :=
  ∀ x ∈ m.first, ∀ y ∈ m.second, (goesFirst? x y).isSome

variable {goesFirst? : α → α → Option Bool}

theorem Answered.of_advances {m' : Merge α} (answered : m.Answered goesFirst?)
    (advances : Advances R tail m m') : m'.Answered goesFirst? := fun x first y second =>
  answered x (advances.fromFirst.mem first) y (advances.fromSecond.mem second)

-- A merge that comes to its end by a step took a value in that step.
theorem Advances.size_lt {m' : Merge α} (advances : Advances R tail m m') (ended : m'.isOver)
    (unfinished : ¬m.isOver) : m'.size < m.size := by
  have first := advances.fromFirst.length_le
  have second := advances.fromSecond.length_le
  by_contra same
  simp only [size] at same
  have first' := advances.fromFirst.eq_of_length (by omega)
  have second' := advances.fromSecond.eq_of_length (by omega)
  rw [isOver, first', second'] at ended
  exact unfinished ended

/-- What a step comes to that takes at least a value. -/
def TakesFrom (R : α → α → Prop) (tail : List α) (m m' : Merge α) : Prop :=
  m.Advances R tail m' ∧ (¬m.isOver → m'.size < m.size)

variable (turned : Bool) (tail : List α) (decides : Decides goesFirst? R)
include decides

theorem strideFirst?_yields (m : Merge α) :
    Yields (m.strideFirst? turned goesFirst?) (m.Answered goesFirst?)
      fun stride => m.TakesFrom R tail stride.merge := by
  rw [strideFirst?]
  split
  · next none =>
    exact .of_holds ⟨.refl m, fun unfinished => absurd (by simp [isOver, none]) unfinished⟩
  · next y rest second =>
    have galloped := gallop?_yields turned (fun x => goesFirst? x y) m.first
    refine (galloped.mono fun answered x first => answered x first y (by simp [second])).map ?_
    intro cut found
    have taken : m.Advances R tail (m.takeFirst cut) :=
      advances_takeFirst found.whole second fun x isLast => decides.first (found.last x isLast)
    dsimp only
    split
    · next ended => exact ⟨taken, taken.size_lt ended⟩
    · next unfinished =>
      obtain ⟨z, zs, left⟩ : ∃ z zs, cut.after = z :: zs :=
        List.exists_cons_of_ne_nil fun empty => unfinished (by simp [isOver, takeFirst, empty])
      have next : R y z := decides.second (found.next z (by simp [left]))
      have further : (m.takeFirst cut).Advances R tail ((m.takeFirst cut).takeSecond ⟨[y], rest⟩) :=
        advances_takeSecond second.symm left (by simpa using next)
      refine ⟨taken.trans further, fun _ => ?_⟩
      have length := taken.fromFirst.length_le
      simp only [size, takeFirst, takeSecond, second, List.length_cons] at length ⊢
      omega

theorem strideSecond?_yields (m : Merge α) :
    Yields (m.strideSecond? turned goesFirst?) (m.Answered goesFirst?)
      fun stride => m.TakesFrom R tail stride.merge := by
  rw [strideSecond?]
  split
  · next none =>
    exact .of_holds ⟨.refl m, fun unfinished => absurd (by simp [isOver, none]) unfinished⟩
  · next x rest first =>
    have galloped := gallop?_yields turned (fun y => (goesFirst? x y).map not) m.second
    refine (galloped.mono fun answered y second => ?_).map ?_
    · simpa using answered x (by simp [first]) y second
    intro cut found
    have taken : m.Advances R tail (m.takeSecond cut) :=
      advances_takeSecond found.whole first fun y isLast =>
        decides.second (map_not_eq_some.mp (found.last y isLast))
    dsimp only
    split
    · next ended => exact ⟨taken, taken.size_lt ended⟩
    · next unfinished =>
      obtain ⟨z, zs, left⟩ : ∃ z zs, cut.after = z :: zs :=
        List.exists_cons_of_ne_nil fun empty => unfinished (by simp [isOver, takeSecond, empty])
      have next : R x z := decides.first (map_not_eq_some.mp (found.next z (by simp [left])))
      have further :
          (m.takeSecond cut).Advances R tail ((m.takeSecond cut).takeFirst ⟨[x], rest⟩) :=
        advances_takeFirst first.symm left (by simpa using next)
      refine ⟨taken.trans further, fun _ => ?_⟩
      have length := taken.fromSecond.length_le
      simp only [size, takeFirst, takeSecond, first, List.length_cons] at length ⊢
      omega

theorem stride?_yields (onFirst : Bool) (m : Merge α) :
    Yields (m.stride? turned goesFirst? onFirst) (m.Answered goesFirst?)
      fun stride => m.TakesFrom R tail stride.merge := by
  rw [stride?]
  split
  · exact strideFirst?_yields turned tail decides m
  · exact strideSecond?_yields turned tail decides m

theorem round?_yields (m : Merge α) :
    Yields (m.round? turned goesFirst?) (m.Answered goesFirst?)
      fun stride => m.TakesFrom R tail stride.merge := by
  refine (stride?_yields turned tail decides turned m).bind fun one taken => ?_
  split
  · exact .of_holds taken
  · have second := stride?_yields turned tail decides (!turned) one.merge
    refine (second.mono fun answered => answered.of_advances taken.1).bind fun other further => ?_
    refine .of_holds ⟨taken.1.trans further.1, fun unfinished => ?_⟩
    exact further.1.size_le.trans_lt (taken.2 unfinished)

end Merge

namespace Progress

variable {goesFirst? : α → α → Option Bool} (turned : Bool) (tail : List α)
  (decides : Merge.Decides goesFirst? R)
include decides

theorem single?_yields (p : Progress α) (first second : Nat) :
    Yields (p.single? goesFirst? first second) (p.merge.Answered goesFirst?)
      fun next => p.merge.TakesFrom R tail next.merge := by
  rw [single?]
  split
  · next x xs y ys isFirst isSecond =>
    cases order : goesFirst? x y with
    | none =>
      refine .of_unanswered fun answered => ?_
      simpa [order] using answered x (by simp [isFirst]) y (by simp [isSecond])
    | some goesFirst =>
      refine .of_holds ?_
      cases goesFirst with
      | true =>
        refine ⟨Merge.advances_takeFirst isFirst.symm isSecond ?_, fun _ => ?_⟩
        · simpa using decides.first order
        · simp [Merge.size, Merge.takeFirst, isFirst]
      | false =>
        refine ⟨Merge.advances_takeSecond isSecond.symm isFirst ?_, fun _ => ?_⟩
        · simpa using decides.second order
        · simp [Merge.size, Merge.takeSecond, isSecond]
  · next others =>
    refine .of_holds ⟨.refl _, fun unfinished => absurd ?_ unfinished⟩
    cases first : p.merge.first with
    | nil => simp [Merge.isOver, first]
    | cons x xs =>
      cases second : p.merge.second with
      | nil => simp [Merge.isOver, second]
      | cons y ys => exact absurd second (others x xs y ys first)

theorem strides?_yields (p : Progress α) (again : Bool) :
    Yields (p.strides? turned goesFirst? again) (p.merge.Answered goesFirst?)
      fun next => p.merge.TakesFrom R tail next.merge := by
  refine (Merge.round?_yields turned tail decides p.merge).bind fun stride taken => ?_
  split
  · exact .of_holds taken
  · split
    · exact .of_holds taken
    · exact .of_holds taken

theorem step?_yields (p : Progress α) :
    Yields (p.step? turned goesFirst?) (p.merge.Answered goesFirst?)
      fun next => p.merge.TakesFrom R tail next.merge := by
  rw [step?]
  split
  · exact single?_yields tail decides p _ _
  · exact strides?_yields turned tail decides p _

/-- A merge of as many steps as there are values comes to its end. -/
theorem run?_yields (steps : Nat) (p : Progress α) (enough : p.merge.size ≤ steps) :
    Yields (run? turned goesFirst? steps p) (p.merge.Answered goesFirst?)
      fun last => p.merge.Advances R tail last.merge ∧ last.merge.isOver := by
  induction steps generalizing p with
  | zero =>
    rw [Merge.size] at enough
    have none : p.merge.first = [] := List.length_eq_zero_iff.mp (by omega)
    exact .of_holds ⟨.refl _, by simp [Merge.isOver, none]⟩
  | succ steps ih =>
    rw [run?]
    split
    · next ended => exact .of_holds ⟨.refl _, ended⟩
    · next unfinished =>
      refine (step?_yields turned tail decides p).bind fun next ⟨advances, shrinks⟩ => ?_
      have fewer := shrinks unfinished
      have later := (ih next (by omega)).mono fun answered =>
        Merge.Answered.of_advances answered advances
      exact later.imp fun last ⟨further, ended⟩ => ⟨advances.trans further, ended⟩

end Progress

/-! ## Merging two runs -/

/-- A list of the values of two lists, each in their order, that ascends if both do. -/
structure MergeOf (R : α → α → Prop) (xs ys zs : List α) : Prop where
  perm : zs.Perm (xs ++ ys)
  first : xs.Sublist zs
  second : ys.Sublist zs
  isChain : xs.IsChain R → ys.IsChain R → zs.IsChain R

/-- Where two lists meet: what of each stands at its place already, and what is left. -/
structure Meets (R : α → α → Prop) (next last : α) (low high : Cut α) : Prop where
  low_before : ∀ x ∈ low.before.getLast?, R x next
  low_after : ∀ x ∈ low.after.head?, R next x
  high_before : ∀ y ∈ high.before.getLast?, R last y
  high_after : ∀ y ∈ high.after.head?, R y last

theorem mergeOf_append {xs ys : List α} {last next : α} (isLast : xs.getLast? = some last)
    (isNext : ys.head? = some next) (link : R last next) : MergeOf R xs ys (xs ++ ys) where
  perm := .refl _
  first := List.sublist_append_left _ _
  second := List.sublist_append_right _ _
  isChain ascends ascends' := by
    refine List.isChain_append.mpr ⟨ascends, ascends', fun x hx y hy => ?_⟩
    rw [isLast] at hx
    rw [isNext] at hy
    cases hx
    cases hy
    exact link

theorem MergeOf.reverse {xs ys zs : List α}
    (merge : MergeOf (fun x y => R y x) ys.reverse xs.reverse zs) : MergeOf R xs ys zs.reverse where
  perm := by
    have turned : (ys.reverse ++ xs.reverse).Perm (xs ++ ys) := by
      rw [← List.reverse_append]
      exact List.reverse_perm _
    exact (List.reverse_perm _).trans (merge.perm.trans turned)
  first := by simpa using merge.second.reverse
  second := by simpa using merge.first.reverse
  isChain ascends ascends' := by
    rw [List.isChain_reverse]
    exact merge.isChain (List.isChain_reverse.mpr ascends') (List.isChain_reverse.mpr ascends)

-- The one list starts with what is merged already, and the other ends behind the merge.
theorem Merge.Advances.mergeOf {m m' : Merge α} {tail : List α} (advances : m.Advances R tail m')
    (ended : m'.isOver) (orderly : (m.merged ++ m.second).IsChain R → (m.first ++ tail).IsChain R →
      m.Orderly R tail) : MergeOf R (m.merged ++ m.second) (m.first ++ tail) (m'.result ++ tail) where
  perm := by
    have regrouped : (m.result ++ tail).Perm ((m.merged ++ m.second) ++ (m.first ++ tail)) := by
      simp only [Merge.result, List.append_assoc]
      exact List.Perm.append_left _ (List.perm_append_comm_assoc _ _ _)
    exact (advances.perm.append_right tail).trans regrouped
  first := by
    refine advances.second.trans (List.Sublist.trans ?_ (List.sublist_append_left _ tail))
    exact List.Sublist.append_left (List.sublist_append_right _ _) _
  second := by
    have first : m.first.Sublist m'.result := by
      refine (List.sublist_append_right _ _).trans (advances.first.trans ?_)
      exact List.Sublist.append_left (List.sublist_append_left _ _) _
    exact first.append_right tail
  isChain ascends ascends' := (advances.orderly (orderly ascends ascends')).isChain_result ended

theorem mergeRest?_yields {goesFirst? : α → α → Option Bool} (turned : Bool)
    (decides : Merge.Decides goesFirst? R) (patience : Nat) {xs ys : List α} {next last : α}
    {low high : Cut α} (meets : Meets R next last low high)
    (lower : low.before ++ low.after = xs) (isLast : xs.getLast? = some last)
    (upper : high.before ++ high.after = ys.reverse) (isNext : ys.head? = some next)
    (left : low.after ≠ []) (left' : high.after ≠ []) :
    Yields (mergeRest? turned goesFirst? patience next low high)
      (∀ y ∈ ys, ∀ x ∈ xs, (goesFirst? y x).isSome)
      fun merged => MergeOf R xs ys merged.values := by
  have whole : high.after.reverse ++ high.before.reverse = ys := by
    rw [← List.reverse_append, upper, List.reverse_reverse]
  obtain ⟨others, first⟩ : ∃ others, high.after.reverse = next :: others := by
    obtain ⟨y, others, same⟩ := List.exists_cons_of_ne_nil (List.reverse_ne_nil_iff.mpr left')
    rw [← whole, same] at isNext
    cases isNext
    exact ⟨others, same⟩
  obtain ⟨z, zs, second⟩ := List.exists_cons_of_ne_nil left
  -- the first value of the second list is taken without being asked again
  let m : Merge α := ⟨low.before, high.after.reverse, low.after⟩
  let start : Merge α := m.takeFirst ⟨[next], others⟩
  have started : m.Advances R high.before.reverse start := by
    refine Merge.advances_takeFirst first.symm second ?_
    simpa using meets.low_after z (by simp [second])
  have answers : (∀ y ∈ ys, ∀ x ∈ xs, (goesFirst? y x).isSome) → start.Answered goesFirst? := by
    intro answered
    refine Merge.Answered.of_advances (fun y member x member' => answered y ?_ x ?_) started
    · exact whole ▸ List.mem_append_left _ member
    · exact lower ▸ List.mem_append_right _ member'
  have orderly : xs.IsChain R → ys.IsChain R → m.Orderly R high.before.reverse := by
    intro ascends ascends'
    refine ⟨?_, ?_, fun y hy x hx => ?_⟩
    · rw [whole]
      refine List.isChain_append.mpr ⟨?_, ascends', fun x hx y hy => ?_⟩
      · exact (List.isChain_append.mp (lower ▸ ascends)).1
      · obtain rfl := Option.some.inj (isNext.symm.trans hy)
        exact meets.low_before x hx
    · rw [← List.append_assoc, lower]
      refine List.isChain_append.mpr ⟨ascends, ?_, fun x hx y hy => ?_⟩
      · exact (List.isChain_append.mp (whole ▸ ascends')).2.1
      · obtain rfl := Option.some.inj (isLast.symm.trans hx)
        exact meets.high_before y (by simpa using hy)
    · obtain rfl := Option.some.inj
        (isLast.symm.trans (Merge.getLast?_of_suffix ⟨_, lower⟩ hx))
      exact meets.high_after y (by simpa [m] using hy)
  rw [mergeRest?, first]
  have run := Progress.run?_yields turned high.before.reverse decides start.size
    ⟨start, .single 0 0, patience⟩ le_rfl
  refine (run.mono answers).map fun p ⟨advances, ended⟩ => ?_
  have merge := (started.trans advances).mergeOf ended fun ascends ascends' =>
    orderly (lower ▸ ascends) (whole ▸ ascends')
  exact whole ▸ lower ▸ merge

end

/-! ## Comparing -/

variable {below? : α → α → Option Bool}

/-- Whether one value may stand right before another: the two were compared, and it is not above. -/
def InOrder (below? : α → α → Option Bool) (x y : α) : Prop :=
  below? y x = some false ∨ below? x y = some true

structure Comparable (below? : α → α → Option Bool) (x y : α) : Prop where
  forward : (below? x y).isSome
  backward : (below? y x).isSome

theorem Comparable.symm {x y : α} (comparable : Comparable below? x y) : Comparable below? y x :=
  ⟨comparable.backward, comparable.forward⟩

theorem merge?_yields (patience : Nat) (xs ys : List α) :
    Yields (merge? below? patience xs ys) (∀ x ∈ xs, ∀ y ∈ ys, Comparable below? x y)
      fun merged => MergeOf (InOrder below?) xs ys merged.values := by
  rw [merge?]
  split
  · next last next isLast isNext =>
    have first : next ∈ ys := List.mem_of_mem_head? isNext
    have final : last ∈ xs := List.mem_of_getLast? isLast
    have low := gallop?_yields false (fun x => (below? next x).map not) xs
    refine (low.mono fun answered x member => ?_).bind fun low lower => ?_
    · simpa using (answered x member next first).backward
    split
    · next empty =>
      refine .of_holds (mergeOf_append isLast isNext (.inl ?_))
      have all : low.before = xs := by simpa [List.isEmpty_iff.mp empty] using lower.whole
      exact map_not_eq_some.mp (lower.last last (all ▸ isLast))
    next left =>
    have high := gallop?_yields true (fun y => (below? y last).map not) ys.reverse
    refine (high.mono fun answered y member => ?_).bind fun high upper => ?_
    · simpa using (answered last final y (List.mem_reverse.mp member)).backward
    split
    · next empty =>
      refine .of_holds (mergeOf_append isLast isNext (.inl ?_))
      have all : high.before = ys.reverse := by simpa [List.isEmpty_iff.mp empty] using upper.whole
      exact map_not_eq_some.mp (upper.last next (by simpa [all] using isNext))
    next left' =>
    rw [List.isEmpty_iff] at left left'
    have low_before : ∀ x ∈ low.before.getLast?, InOrder below? x next := fun x hx =>
      .inl (map_not_eq_some.mp (lower.last x hx))
    have low_after : ∀ x ∈ low.after.head?, InOrder below? next x := fun x hx =>
      .inr (map_not_eq_some.mp (lower.next x hx))
    have high_before : ∀ y ∈ high.before.getLast?, InOrder below? last y := fun y hy =>
      .inl (map_not_eq_some.mp (upper.last y hy))
    have high_after : ∀ y ∈ high.after.head?, InOrder below? y last := fun y hy =>
      .inr (map_not_eq_some.mp (upper.next y hy))
    split
    · have decides : Merge.Decides (fun y x => below? y x) (InOrder below?) := ⟨.inr, .inl⟩
      refine (mergeRest?_yields false decides patience
        ⟨low_before, low_after, high_before, high_after⟩ lower.whole isLast upper.whole isNext left
        left').mono fun answered y member x member' => ?_
      exact (answered x member' y member).backward
    · have decides : Merge.Decides (fun x y => below? y x) fun x y => InOrder below? y x :=
        ⟨.inr, .inl⟩
      have turned : low.before ++ low.after = xs.reverse.reverse := by
        rw [List.reverse_reverse, lower.whole]
      have rest := mergeRest?_yields true decides patience
        ⟨high_before, high_after, low_before, low_after⟩ upper.whole (by simpa using isNext) turned
        (by simpa using isLast) left' left
      refine (rest.mono fun answered x member y member' => ?_).bind fun merged merge =>
        .of_holds merge.reverse
      rw [List.mem_reverse] at member member'
      exact (answered x member y member').backward
  · next single =>
    have none : xs = [] ∨ ys = [] := by
      by_contra some
      rw [not_or] at some
      exact single _ _ (List.getLast?_eq_some_getLast some.1) (List.head?_eq_some_head some.2)
    refine .of_holds ⟨.refl _, List.sublist_append_left _ _, List.sublist_append_right _ _,
      fun ascends ascends' => ?_⟩
    rcases none with rfl | rfl
    · simpa using ascends'
    · simpa using ascends

end ScopedSql.Sorting
