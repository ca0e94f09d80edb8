/-!
Sorting by a comparison that may fail. A list is cut into runs that ascend already or that descend
and are turned around, and a run that is too short takes in what follows it, value by value. Runs
are merged in the order of a balanced tree over their places; a merge that keeps taking from one
side goes on in strides. Whether values that are in no total order can be sorted, and to what,
depends on which of them are compared, so no comparison is added or left out.
-/

set_option autoImplicit false

namespace ScopedSql.Sorting

variable {α : Type}

/-! ## Cutting a list -/

structure Cut (α : Type) where
  before : List α
  after : List α

/-- Cuts a list behind the values that go on, by halving. Between two values in the middle the later
one is asked, but of a list that was turned around the one that was later before. -/
def bisect? (turned : Bool) (goesOn? : α → Option Bool) (xs : List α) : Option (Cut α) :=
  let middle := (if turned then xs.length - 1 else xs.length) / 2
  match _split : xs.drop middle with
  | [] => some ⟨[], []⟩
  | x :: after =>
    match goesOn? x with
    | none => none
    | some true =>
      (bisect? turned goesOn? after).map fun cut => ⟨xs.take middle ++ x :: cut.before, cut.after⟩
    | some false =>
      (bisect? turned goesOn? (xs.take middle)).map fun cut => ⟨cut.before, cut.after ++ x :: after⟩
termination_by xs.length
decreasing_by
  all_goals
    have length := congrArg List.length _split
    simp only [List.length_drop, List.length_cons, List.length_take] at length ⊢
    grind

def climb? (turned : Bool) (goesOn? : α → Option Bool) (distance : Nat) (xs : List α) :
    Option (Cut α) :=
  match _split : xs.drop distance with
  | [] => bisect? turned goesOn? xs
  | x :: after =>
    match goesOn? x with
    | none => none
    | some true =>
      (climb? turned goesOn? (2 * distance + 1) after).map fun cut =>
        ⟨xs.take distance ++ x :: cut.before, cut.after⟩
    | some false =>
      (bisect? turned goesOn? (xs.take distance)).map fun cut =>
        ⟨cut.before, cut.after ++ x :: after⟩
termination_by xs.length
decreasing_by
  have length := congrArg List.length _split
  simp only [List.length_drop, List.length_cons] at length
  omega

/-- Cuts a list behind the values that go on, starting from its front. -/
def gallop? (turned : Bool) (goesOn? : α → Option Bool) : List α → Option (Cut α)
  | [] => some ⟨[], []⟩
  | x :: xs =>
    match goesOn? x with
    | none => none
    | some true => (climb? turned goesOn? 0 xs).map fun cut => ⟨x :: cut.before, cut.after⟩
    | some false => some ⟨[], x :: xs⟩

/-! ## Merging -/

/-- A merge on the way: what is merged, and what is left of both sides. -/
structure Merge (α : Type) where
  merged : List α
  first : List α
  second : List α

namespace Merge

/-- Whether nothing is left to compare: the last value of the second side goes behind the first. -/
def isOver (m : Merge α) : Bool :=
  m.first.isEmpty || m.second.length ≤ 1

def result (m : Merge α) : List α :=
  m.merged ++ (m.first ++ m.second)

def size (m : Merge α) : Nat :=
  m.first.length + m.second.length

def takeFirst (m : Merge α) (cut : Cut α) : Merge α :=
  { m with merged := m.merged ++ cut.before, first := cut.after }

def takeSecond (m : Merge α) (cut : Cut α) : Merge α :=
  { m with merged := m.merged ++ cut.before, second := cut.after }

end Merge

structure Stride (α : Type) where
  merge : Merge α
  isLong : Bool

def longStride : Nat := 7

namespace Merge

variable (turned : Bool) (goesFirst? : α → α → Option Bool)

def strideFirst? (m : Merge α) : Option (Stride α) :=
  match m.second with
  | [] => some ⟨m, false⟩
  | y :: rest =>
    (gallop? turned (fun x => goesFirst? x y) m.first).map fun cut =>
      let taken := m.takeFirst cut
      ⟨if taken.isOver then taken else taken.takeSecond ⟨[y], rest⟩,
        longStride ≤ cut.before.length⟩

def strideSecond? (m : Merge α) : Option (Stride α) :=
  match m.first with
  | [] => some ⟨m, false⟩
  | x :: rest =>
    (gallop? turned (fun y => (goesFirst? x y).map not) m.second).map fun cut =>
      let taken := m.takeSecond cut
      ⟨if taken.isOver then taken else taken.takeFirst ⟨[x], rest⟩,
        longStride ≤ cut.before.length⟩

def stride? (onFirst : Bool) (m : Merge α) : Option (Stride α) :=
  if onFirst then m.strideFirst? turned goesFirst? else m.strideSecond? turned goesFirst?

/-- A stride on each side. Of lists that were turned around the first is the lower one, and the
lower one is the first to go. -/
def round? (m : Merge α) : Option (Stride α) := do
  let one ← m.stride? turned goesFirst? turned
  if one.merge.isOver then return one
  let other ← one.merge.stride? turned goesFirst? (!turned)
  return { other with isLong := one.isLong || other.isLong }

end Merge

inductive Pace where
  | single (first second : Nat)
  | strides (again : Bool)

structure Progress (α : Type) where
  merge : Merge α
  pace : Pace
  patience : Nat

namespace Progress

def paceAfter (patience first second : Nat) : Pace :=
  if patience ≤ first || patience ≤ second then .strides false else .single first second

variable (turned : Bool) (goesFirst? : α → α → Option Bool)

def single? (p : Progress α) (first second : Nat) : Option (Progress α) :=
  match p.merge.first, p.merge.second with
  | x :: xs, y :: ys =>
    (goesFirst? x y).map fun isFirst =>
      if isFirst then
        { p with
          merge := p.merge.takeFirst ⟨[x], xs⟩
          pace := paceAfter p.patience (first + 1) 0 }
      else
        { p with
          merge := p.merge.takeSecond ⟨[y], ys⟩
          pace := paceAfter p.patience 0 (second + 1) }
  | _, _ => some p

/-- Goes a round of strides. While rounds go on strides come sooner, and later once they end. -/
def strides? (p : Progress α) (again : Bool) : Option (Progress α) := do
  let patience := if again && 1 < p.patience then p.patience - 1 else p.patience
  let stride ← p.merge.round? turned goesFirst?
  if stride.merge.isOver then return ⟨stride.merge, p.pace, patience⟩
  else if stride.isLong then return ⟨stride.merge, .strides true, patience⟩
  else return ⟨stride.merge, .single 0 0, patience + 1⟩

def step? (p : Progress α) : Option (Progress α) :=
  match p.pace with
  | .single first second => p.single? goesFirst? first second
  | .strides again => p.strides? turned goesFirst? again

/-- Merges to the end. Every step takes a value, so there are no more steps than values. -/
def run? : Nat → Progress α → Option (Progress α)
  | 0, p => some p
  | steps + 1, p => if p.merge.isOver then some p else (p.step? turned goesFirst?).bind (run? steps)

end Progress

structure Merged (α : Type) where
  values : List α
  patience : Nat

variable (below? : α → α → Option Bool)

/-- Merges what is left of two runs, `low` of the one and `high`, turned around, of the other, whose
first value `next` goes first. -/
def mergeRest? (turned : Bool) (goesFirst? : α → α → Option Bool) (patience : Nat) (next : α)
    (low high : Cut α) : Option (Merged α) :=
  let start : Merge α := ⟨low.before ++ [next], high.after.reverse.tail, low.after⟩
  (Progress.run? turned goesFirst? start.size ⟨start, .single 0 0, patience⟩).map fun p =>
    ⟨p.merge.result ++ high.before.reverse, p.patience⟩

/-- Merges two runs. What stands at its place already, before the first value of the second run or
behind the last one of the first, is left alone. The longer rest makes room for the shorter one; if
that is the second, all is done from the end. -/
def merge? (patience : Nat) (xs ys : List α) : Option (Merged α) :=
  match xs.getLast?, ys.head? with
  | some last, some next => do
    let low ← gallop? false (fun x => (below? next x).map not) xs
    if low.after.isEmpty then return ⟨xs ++ ys, patience⟩
    let high ← gallop? true (fun y => (below? y last).map not) ys.reverse
    if high.after.isEmpty then return ⟨xs ++ ys, patience⟩
    if low.after.length ≤ high.after.length then
      mergeRest? false (fun y x => below? y x) patience next low high
    else
      let merged ← mergeRest? true (fun x y => below? y x) patience last high low
      return { merged with values := merged.values.reverse }
  | _, _ => some ⟨xs ++ ys, patience⟩

/-! ## Runs -/

def runBehind? (falling : Bool) (x : α) : List α → Option (Cut α)
  | [] => some ⟨[], []⟩
  | y :: rest => do
    if (← below? y x) = falling then
      let cut ← runBehind? falling y rest
      return ⟨y :: cut.before, cut.after⟩
    else return ⟨[], y :: rest⟩

/-- Cuts a list behind the run that it starts with, which is turned around if it descends. -/
def leadingRun? : List α → Option (Cut α)
  | x :: y :: rest => do
    let falling ← below? y x
    let cut ← runBehind? below? falling y rest
    let run := x :: y :: cut.before
    return ⟨if falling then run.reverse else run, cut.after⟩
  | xs => some ⟨xs, []⟩

/-- Puts a value behind the values of a run that are not above it. -/
def insert? (run : List α) (x : α) : Option (List α) :=
  (bisect? false (fun y => (below? x y).map not) run).map fun cut => cut.before ++ x :: cut.after

/-- How long the runs of a list are to be: at most 64, and so that about a power of two of them
makes up the list. -/
def leastRun (odd n : Nat) : Nat :=
  if n < 64 then n + odd else leastRun (max odd (n % 2)) (n / 2)

variable {below?}

theorem runBehind?_whole {falling : Bool} {x : α} {xs : List α} {cut : Cut α}
    (found : runBehind? below? falling x xs = some cut) : cut.before ++ cut.after = xs := by
  fun_induction runBehind? below? falling x xs generalizing cut with
  | case1 => cases found; rfl
  | case2 x y rest ih =>
    cases order : below? y x with
    | none => simp [order] at found
    | some below =>
      by_cases same : below = falling
      · obtain ⟨found', later, rfl⟩ : ∃ found', runBehind? below? falling y rest = some found' ∧
            Cut.mk (y :: found'.before) found'.after = cut := by
          simpa [order, same, Option.bind_eq_some_iff] using found
        simp [ih later]
      · have here : Cut.mk [] (y :: rest) = cut := by simpa [order, same] using found
        rw [← here]
        rfl

theorem leadingRun?_shortens {x : α} {xs : List α} {cut : Cut α}
    (found : leadingRun? below? (x :: xs) = some cut) : cut.after.length < (x :: xs).length := by
  cases xs with
  | nil =>
    cases found
    simp
  | cons y rest =>
    obtain ⟨falling, _, behind, later, rfl⟩ : ∃ falling, below? y x = some falling ∧
        ∃ behind, runBehind? below? falling y rest = some behind ∧
          Cut.mk (if falling then (x :: y :: behind.before).reverse else x :: y :: behind.before)
            behind.after = cut := by
      simpa [leadingRun?, Option.bind_eq_some_iff] using found
    have whole := congrArg List.length (runBehind?_whole later)
    simp only [List.length_append, List.length_cons] at whole ⊢
    omega

variable (below?)

/-- The runs of a list, in order. One that is too short takes in what follows it. -/
def runs? (least : Nat) (xs : List α) : Option (List (List α)) :=
  match xs with
  | [] => some []
  | x :: xs =>
    match _found : leadingRun? below? (x :: xs) with
    | none => none
    | some cut => do
      let missing := least - cut.before.length
      let run ← (cut.after.take missing).foldlM (insert? below?) cut.before
      return run :: (← runs? least (cut.after.drop missing))
termination_by xs.length
decreasing_by
  have shorter := leadingRun?_shortens _found
  simp only [List.length_drop]
  omega

/-! ## The order of the merges -/

/-- A run that waits to be merged, and how deep in the tree it meets the run above it. -/
structure Waiting (α : Type) where
  run : List α
  depth : Nat

/-- The depth at which two neighbours meet in a balanced tree over places: the first binary digit at
which their middles differ, given by twice the middles. Each digit doubles their distance, so
`digits` need not be more than there are places. -/
def meetingDepth (places : Nat) : Nat → Nat → Nat → Nat
  | 0, _, _ => 0
  | digits + 1, middle, middle' =>
    if places ≤ middle then
      meetingDepth places digits (2 * (middle - places)) (2 * (middle' - places)) + 1
    else if places ≤ middle' then 1
    else meetingDepth places digits (2 * middle) (2 * middle') + 1

structure Pile (α : Type) where
  waiting : List (Waiting α)
  patience : Nat

/-- Puts a run on a pile, merged with those below it that it meets deeper than the next run. -/
def settle? (depth patience : Nat) (top : List α) : List (Waiting α) → Option (Pile α)
  | [] => some ⟨[⟨top, depth⟩], patience⟩
  | next :: rest =>
    if depth < next.depth then do
      let merged ← merge? below? patience next.run top
      settle? depth merged.patience merged.values rest
    else some ⟨⟨top, depth⟩ :: next :: rest, patience⟩

/-- Merges the runs of a pile, the third with the second where it is shorter than the top one. -/
def collapse? (patience : Nat) : List (List α) → Option (List α)
  | [] => some []
  | [run] => some run
  | [top, next] => (merge? below? patience next top).map Merged.values
  | top :: next :: third :: rest =>
    if third.length < top.length then do
      let merged ← merge? below? patience third next
      collapse? merged.patience (top :: merged.values :: rest)
    else do
      let merged ← merge? below? patience next top
      collapse? merged.patience (merged.values :: third :: rest)
termination_by runs => runs.length

def mergeAll? (places patience : Nat) (waiting : List (Waiting α)) (top : List α) :
    List (List α) → Option (List α)
  | [] => collapse? below? patience (top :: waiting.map Waiting.run)
  | next :: runs => do
    let middle := 2 * (waiting.map Waiting.run).flatten.length + top.length
    let depth := meetingDepth places places middle (middle + top.length + next.length)
    let pile ← settle? below? depth patience top waiting
    mergeAll? places pile.patience pile.waiting next runs

/-- The values in order, if all of them that are compared can be. -/
def sorted? (xs : List α) : Option (List α) := do
  match ← runs? below? (leastRun 0 xs.length) xs with
  | [] => return []
  | run :: runs => mergeAll? below? xs.length longStride [] run runs

end ScopedSql.Sorting
