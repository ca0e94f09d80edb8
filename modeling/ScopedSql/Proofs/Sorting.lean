import ScopedSql.Proofs.Sorting.Merging

/-! What a sort keeps, whatever the comparison.

A sort whose comparisons all give an answer gives a list. The list has each value as often as the
one that was sorted, any two neighbours in it were compared and stand in the order that came of it,
and values at the front that ascend already stay in their order. Nothing is asked of the comparison:
it need not be transitive, and may deny both of two values to be below the other.
-/

set_option autoImplicit false

namespace ScopedSql.Sorting

variable {α : Type} {below? : α → α → Option Bool}

/-! ## Runs -/

/-- Values at the front of a list, two at least, of which none is below the one before it. -/
structure Ahead (below? : α → α → Option Bool) (front xs : List α) : Prop where
  start : front <+: xs
  several : 2 ≤ front.length
  ascends : front.IsChain fun x y => below? y x = some false

theorem Ahead.of_cons_cons {front rest : List α} {x y : α}
    (ahead : Ahead below? front (x :: y :: rest)) :
    ∃ more, front = x :: y :: more ∧ more <+: rest ∧
      (x :: y :: more).IsChain fun x y => below? y x = some false := by
  obtain ⟨start, several, ascends⟩ := ahead
  rcases front with _ | ⟨a, _ | ⟨b, more⟩⟩
  · simp at several
  · simp at several
  · rw [List.cons_prefix_cons, List.cons_prefix_cons] at start
    obtain ⟨rfl, rfl, start⟩ := start
    exact ⟨more, rfl, start, ascends⟩

/-- The longest cut of a list that goes on with a run that ends in `x`. -/
structure GoesOn (below? : α → α → Option Bool) (falling : Bool) (x : α) (xs : List α)
    (cut : Cut α) : Prop where
  whole : cut.before ++ cut.after = xs
  isChain : (x :: cut.before).IsChain fun x y => below? y x = some falling
  longest : ∀ front, front <+: xs → ((x :: front).IsChain fun x y => below? y x = some falling) →
    front <+: cut.before

theorem runBehind?_yields (falling : Bool) (x : α) (xs : List α) :
    Yields (runBehind? below? falling x xs) ((x :: xs).Pairwise (Comparable below?))
      (GoesOn below? falling x xs) := by
  fun_induction runBehind? below? falling x xs with
  | case1 x => exact .of_holds ⟨rfl, by simp, fun front atFront _ => atFront⟩
  | case2 x y rest ih =>
    cases order : below? y x with
    | none =>
      refine .of_unanswered fun comparable => ?_
      simpa [order] using ((List.pairwise_cons.mp comparable).1 y (by simp)).backward
    | some below =>
      show Yields (if below = falling then _ else _) _ _
      split
      · next same =>
        subst same
        refine (ih.mono fun comparable => (List.pairwise_cons.mp comparable).2).bind
          fun cut goesOn => .of_holds ⟨by simp [goesOn.whole], ?_, fun front atFront chain => ?_⟩
        · exact List.isChain_cons_cons.mpr ⟨order, goesOn.isChain⟩
        · cases front with
          | nil => exact List.nil_prefix
          | cons z front =>
            obtain ⟨rfl, atFront'⟩ := List.cons_prefix_cons.mp atFront
            refine List.cons_prefix_cons.mpr ⟨rfl, goesOn.longest front atFront' ?_⟩
            exact (List.isChain_cons_cons.mp chain).2
      · next other =>
        refine .of_holds ⟨rfl, by simp, fun front atFront chain => ?_⟩
        cases front with
        | nil => exact List.nil_prefix
        | cons z front =>
          obtain ⟨rfl, _⟩ := List.cons_prefix_cons.mp atFront
          have again := (List.isChain_cons_cons.mp chain).1
          rw [order] at again
          exact absurd (Option.some.inj again) other

structure Leads (below? : α → α → Option Bool) (xs : List α) (cut : Cut α) : Prop where
  perm : (cut.before ++ cut.after).Perm xs
  isChain : cut.before.IsChain (InOrder below?)
  keeps : ∀ front, Ahead below? front xs → front.Sublist cut.before

theorem leadingRun?_yields (xs : List α) :
    Yields (leadingRun? below? xs) (xs.Pairwise (Comparable below?)) (Leads below? xs) := by
  match xs with
  | [] => exact .of_holds ⟨.refl _, by simp, fun front ahead => ahead.start.sublist⟩
  | [x] => exact .of_holds ⟨by simp, by simp, fun front ahead => ahead.start.sublist⟩
  | x :: y :: rest =>
    rw [leadingRun?]
    cases order : below? y x with
    | none =>
      refine .of_unanswered fun comparable => ?_
      simpa [order] using ((List.pairwise_cons.mp comparable).1 y (by simp)).backward
    | some falling =>
      refine ((runBehind?_yields falling y rest).mono fun comparable =>
        (List.pairwise_cons.mp comparable).2).bind fun cut goesOn => .of_holds ?_
      have chain : (x :: y :: cut.before).IsChain fun x y => below? y x = some falling :=
        List.isChain_cons_cons.mpr ⟨order, goesOn.isChain⟩
      have whole : (x :: y :: cut.before) ++ cut.after = x :: y :: rest := by simp [goesOn.whole]
      cases falling with
      | false =>
        refine ⟨by simp [goesOn.whole], ?_, fun front ahead => ?_⟩
        · exact chain.imp fun x y => .inl
        · obtain ⟨more, rfl, atFront, ascends⟩ := ahead.of_cons_cons
          have further := goesOn.longest more atFront (List.isChain_cons_cons.mp ascends).2
          exact ((further.sublist.cons_cons _).cons_cons _)
      | true =>
        refine ⟨?_, ?_, fun front ahead => ?_⟩
        · exact ((List.reverse_perm _).append_right _).trans (.of_eq whole)
        · exact List.isChain_reverse.mpr (chain.imp fun x y => .inr)
        · obtain ⟨more, rfl, _, ascends⟩ := ahead.of_cons_cons
          cases order.symm.trans (List.isChain_cons_cons.mp ascends).1

structure Grows (below? : α → α → Option Bool) (run more grown : List α) : Prop where
  perm : grown.Perm (run ++ more)
  kept : run.Sublist grown
  isChain : run.IsChain (InOrder below?) → grown.IsChain (InOrder below?)

theorem insert?_yields (run : List α) (x : α) :
    Yields (insert? below? run x) (∀ y ∈ run, Comparable below? x y)
      (Grows below? run [x]) := by
  have cut := bisect?_yields false (fun y => (below? x y).map not) run
  refine (cut.mono fun comparable y member => ?_).map fun cut found => ⟨?_, ?_, fun ascends => ?_⟩
  · simpa using (comparable y member).forward
  · rw [← found.whole]
    exact List.perm_middle.trans (List.perm_append_singleton x _).symm
  · rw [← found.whole]
    exact List.Sublist.append_left (List.sublist_cons_self x _) _
  · rw [← found.whole] at ascends
    have parts := List.isChain_append.mp ascends
    refine List.isChain_append.mpr ⟨parts.1, ?_, fun y hy z hz => ?_⟩
    · refine List.isChain_cons.mpr ⟨fun z hz => ?_, parts.2.1⟩
      exact .inr (map_not_eq_some.mp (found.next z hz))
    · obtain rfl : x = z := by simpa using hz
      exact .inl (map_not_eq_some.mp (found.last y hy))

theorem Grows.trans {run more rest grown grown' : List α} (one : Grows below? run more grown)
    (other : Grows below? grown rest grown') : Grows below? run (more ++ rest) grown' where
  perm := by
    rw [← List.append_assoc]
    exact other.perm.trans (one.perm.append_right rest)
  kept := one.kept.trans other.kept
  isChain ascends := other.isChain (one.isChain ascends)

theorem pairwise_of_perm {xs ys : List α} (perm : ys.Perm xs)
    (comparable : xs.Pairwise (Comparable below?)) : ys.Pairwise (Comparable below?) :=
  perm.symm.pairwise comparable Comparable.symm

theorem foldlM_insert?_yields (run more : List α) :
    Yields (more.foldlM (insert? below?) run) ((run ++ more).Pairwise (Comparable below?))
      (Grows below? run more) := by
  induction more generalizing run with
  | nil => exact .of_holds ⟨by simp, .refl _, id⟩
  | cons x more ih =>
    rw [List.foldlM_cons]
    refine ((insert?_yields run x).mono fun comparable y member => ?_).bind fun grown one => ?_
    · exact ((List.pairwise_append.mp comparable).2.2 y member x (by simp)).symm
    · refine ((ih grown).mono (pairwise_of_perm ?_)).imp fun _ => one.trans
      simpa using one.perm.append_right more

structure RunsOf (below? : α → α → Option Bool) (xs : List α) (runs : List (List α)) : Prop where
  perm : runs.flatten.Perm xs
  isChain : ∀ run ∈ runs, run.IsChain (InOrder below?)
  keeps : ∀ front, Ahead below? front xs → ∃ run ∈ runs.head?, front.Sublist run

theorem runs?_yields (least : Nat) (xs : List α) :
    Yields (runs? below? least xs) (xs.Pairwise (Comparable below?)) (RunsOf below? xs) := by
  fun_induction runs? below? least xs with
  | case1 =>
    refine .of_holds ⟨.refl _, by simp, fun front ahead => ?_⟩
    have several := ahead.several
    rw [List.prefix_nil.mp ahead.start] at several
    cases several
  | case2 x xs none =>
    refine .of_unanswered fun comparable => ?_
    simpa [none] using (leadingRun?_yields (x :: xs)).isSome comparable
  | case3 x xs cut found missing ih =>
    have leads := (leadingRun?_yields (x :: xs)).result cut found
    have split : cut.before ++ (cut.after.take missing ++ cut.after.drop missing) =
        cut.before ++ cut.after := by
      rw [List.take_append_drop]
    have comparable' : (x :: xs).Pairwise (Comparable below?) →
        (cut.before ++ cut.after.take missing).Pairwise (Comparable below?) ∧
          (cut.after.drop missing).Pairwise (Comparable below?) := by
      intro comparable
      have parted := pairwise_of_perm leads.perm comparable
      rw [← split, ← List.append_assoc, List.pairwise_append] at parted
      exact ⟨parted.1, parted.2.1⟩
    refine ((foldlM_insert?_yields cut.before (cut.after.take missing)).mono fun comparable =>
      (comparable' comparable).1).bind fun run grows => ?_
    refine (ih.mono fun comparable => (comparable' comparable).2).bind fun runs others => ?_
    refine .of_holds ⟨?_, ?_, fun front ahead => ?_⟩
    · rw [List.flatten_cons]
      refine (grows.perm.append others.perm).trans ?_
      rw [List.append_assoc, split]
      exact leads.perm
    · exact List.forall_mem_cons.mpr ⟨grows.isChain leads.isChain, others.isChain⟩
    · exact ⟨run, rfl, (leads.keeps front ahead).trans grows.kept⟩

/-! ## The order of the merges -/

structure Condenses (below? : α → α → Option Bool) (runs runs' : List (List α)) : Prop where
  perm : runs'.flatten.Perm runs.flatten
  isChain : (∀ run ∈ runs, run.IsChain (InOrder below?)) →
    ∀ run ∈ runs', run.IsChain (InOrder below?)
  keeps : ∀ front : List α, (∃ run ∈ runs.getLast?, front.Sublist run) →
    ∃ run ∈ runs'.getLast?, front.Sublist run

namespace Condenses

theorem refl (runs : List (List α)) : Condenses below? runs runs :=
  ⟨.refl _, id, fun _ => id⟩

theorem trans {runs runs' runs'' : List (List α)} (one : Condenses below? runs runs')
    (other : Condenses below? runs' runs'') : Condenses below? runs runs'' where
  perm := other.perm.trans one.perm
  isChain ascends := other.isChain (one.isChain ascends)
  keeps front kept := other.keeps front (one.keeps front kept)

theorem append_left (above : List (List α)) {runs runs' : List (List α)} (filled : runs ≠ [])
    (condenses : Condenses below? runs runs') :
    Condenses below? (above ++ runs) (above ++ runs') where
  perm := by
    rw [List.flatten_append, List.flatten_append]
    exact condenses.perm.append_left _
  isChain ascends := by
    rw [List.forall_mem_append] at ascends ⊢
    exact ⟨ascends.1, condenses.isChain ascends.2⟩
  keeps front kept := by
    rw [List.getLast?_append_of_ne_nil _ filled] at kept
    obtain ⟨run, isLast, kept⟩ := condenses.keeps front kept
    refine ⟨run, ?_, kept⟩
    rw [Option.mem_def] at isLast ⊢
    simp [List.getLast?_append, isLast]

theorem of_mergeOf {top next merged : List α} (rest : List (List α))
    (merge : MergeOf (InOrder below?) next top merged) :
    Condenses below? (top :: next :: rest) (merged :: rest) where
  perm := by
    simp only [List.flatten_cons, ← List.append_assoc]
    exact (merge.perm.trans List.perm_append_comm).append_right _
  isChain ascends := by
    rw [List.forall_mem_cons, List.forall_mem_cons] at ascends
    exact List.forall_mem_cons.mpr ⟨merge.isChain ascends.2.1 ascends.1, ascends.2.2⟩
  keeps front kept := by
    cases rest with
    | nil =>
      obtain ⟨run, isLast, kept⟩ := kept
      obtain rfl : next = run := by simpa using isLast
      exact ⟨merged, rfl, kept.trans merge.first⟩
    | cons run rest => simpa [List.getLast?_cons_cons] using kept

end Condenses

def AllComparable (below? : α → α → Option Bool) (runs : List (List α)) : Prop :=
  runs.flatten.Pairwise (Comparable below?)

theorem AllComparable.of_condenses {runs runs' : List (List α)}
    (comparable : AllComparable below? runs) (condenses : Condenses below? runs runs') :
    AllComparable below? runs' :=
  pairwise_of_perm condenses.perm comparable

theorem AllComparable.neighbours {above rest : List (List α)} {top next : List α}
    (comparable : AllComparable below? (above ++ top :: next :: rest)) :
    ∀ x ∈ next, ∀ y ∈ top, Comparable below? x y := by
  intro x member y member'
  rw [AllComparable, List.flatten_append, List.flatten_cons, List.flatten_cons] at comparable
  have top := (List.pairwise_append.mp comparable).2.1
  exact ((List.pairwise_append.mp top).2.2 y member' x (List.mem_append_left _ member)).symm

-- Two neighbours of a pile are merged, below some others.
theorem merge?_condenses (patience : Nat) (above : List (List α)) (top next : List α)
    (rest : List (List α)) :
    Yields (merge? below? patience next top) (AllComparable below? (above ++ top :: next :: rest))
      fun merged =>
        Condenses below? (above ++ top :: next :: rest) (above ++ merged.values :: rest) :=
  ((merge?_yields patience next top).mono AllComparable.neighbours).imp fun _ merge =>
    (Condenses.of_mergeOf rest merge).append_left above (by simp)

theorem settle?_yields (depth patience : Nat) (top : List α) (waiting : List (Waiting α)) :
    Yields (settle? below? depth patience top waiting)
      (AllComparable below? (top :: waiting.map Waiting.run))
      fun pile =>
        Condenses below? (top :: waiting.map Waiting.run) (pile.waiting.map Waiting.run) := by
  induction waiting generalizing top patience with
  | nil => exact .of_holds (.refl _)
  | cons next rest ih =>
    rw [settle?]
    split
    · refine (merge?_condenses patience [] top next.run _).bind fun merged condenses => ?_
      have further := ih merged.patience merged.values
      refine (further.mono fun comparable => ?_).imp fun pile => condenses.trans
      exact AllComparable.of_condenses comparable condenses
    · exact .of_holds (.refl _)

theorem collapse?_yields (patience : Nat) (runs : List (List α)) :
    Yields (collapse? below? patience runs) (AllComparable below? runs)
      fun sorted => Condenses below? runs [sorted] := by
  fun_induction collapse? below? patience runs with
  | case1 patience => exact .of_holds ⟨.refl _, by simp, by simp⟩
  | case2 patience run => exact .of_holds (.refl _)
  | case3 patience top next => exact (merge?_condenses patience [] top next []).map fun _ => id
  | case4 patience top next third rest shorter ih =>
    refine (merge?_condenses patience [top] next third rest).bind fun merged condenses => ?_
    refine ((ih merged).mono fun comparable => ?_).imp fun sorted => condenses.trans
    exact AllComparable.of_condenses comparable condenses
  | case5 patience top next third rest longer ih =>
    refine (merge?_condenses patience [] top next _).bind fun merged condenses => ?_
    refine ((ih merged).mono fun comparable => ?_).imp fun sorted => condenses.trans
    exact AllComparable.of_condenses comparable condenses

theorem mergeAll?_yields (places patience : Nat) (waiting : List (Waiting α)) (top : List α)
    (runs : List (List α)) :
    Yields (mergeAll? below? places patience waiting top runs)
      (AllComparable below? (runs.reverse ++ top :: waiting.map Waiting.run))
      fun sorted =>
        Condenses below? (runs.reverse ++ top :: waiting.map Waiting.run) [sorted] := by
  induction runs generalizing top patience waiting with
  | nil => exact collapse?_yields patience _
  | cons next runs ih =>
    rw [mergeAll?, List.reverse_cons]
    refine ((settle?_yields _ patience top waiting).mono fun comparable => ?_).bind
      fun pile settled => ?_
    · rw [AllComparable, List.flatten_append] at comparable
      exact (List.pairwise_append.mp comparable).2.1
    · have condenses := settled.append_left (runs.reverse ++ [next]) (by simp)
      rw [List.append_assoc _ _ (pile.waiting.map Waiting.run), List.singleton_append] at condenses
      refine ((ih _ _ next).mono fun comparable => ?_).imp fun sorted => condenses.trans
      exact AllComparable.of_condenses comparable condenses

/-! ## Sorting -/

/-- The values of a list, sorted: neighbours are in order, and the front is where it was. -/
structure SortOf (below? : α → α → Option Bool) (xs sorted : List α) : Prop where
  perm : sorted.Perm xs
  isChain : sorted.IsChain (InOrder below?)
  keeps : ∀ front, Ahead below? front xs → front.Sublist sorted

/-- A list whose values can all be compared is sorted, and what a list is sorted to is its own
values with all neighbours in order. -/
theorem sorted?_yields (below? : α → α → Option Bool) (xs : List α) :
    Yields (sorted? below? xs) (xs.Pairwise (Comparable below?)) (SortOf below? xs) := by
  refine (runs?_yields _ xs).bind fun runs ⟨perm, isChain, keeps⟩ => ?_
  cases runs with
  | nil =>
    refine .of_holds ⟨perm, .nil, fun front ahead => ?_⟩
    obtain ⟨run, none, _⟩ := keeps front ahead
    cases none
  | cons run runs =>
    have pile : runs.reverse ++ [run] = (run :: runs).reverse := by simp
    have same : (runs.reverse ++ [run]).flatten.Perm xs := by
      rw [pile]
      exact (List.Perm.flatten (List.reverse_perm _)).trans perm
    refine ((mergeAll?_yields xs.length longStride [] run runs).mono fun comparable => ?_).imp
      fun sorted condenses => ⟨?_, ?_, fun front ahead => ?_⟩
    · exact pairwise_of_perm same comparable
    · simpa using condenses.perm.trans same
    · refine condenses.isChain (fun run member => isChain run ?_) sorted (by simp)
      exact List.mem_reverse.mp (pile ▸ member)
    · obtain ⟨first, isFirst, kept⟩ := keeps front ahead
      cases isFirst
      obtain ⟨last, isLast, kept⟩ := condenses.keeps front ⟨run, by simp, kept⟩
      cases isLast
      exact kept

end ScopedSql.Sorting
