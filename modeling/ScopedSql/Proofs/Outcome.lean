import Mathlib

/-! When a sequence of steps that may fail has a result: each of its steps has one. -/

set_option autoImplicit false

namespace ScopedSql

variable {ε α β : Type}

theorem Except.bind_eq_ok {x : Except ε α} {next : α → Except ε β} {b : β} :
    x >>= next = .ok b ↔ ∃ a, x = .ok a ∧ next a = .ok b := by
  constructor
  · intro same
    cases x with
    | error fault => cases same
    | ok a => exact ⟨a, rfl, same⟩
  · rintro ⟨a, rfl, same⟩
    exact same

theorem Except.pure_eq_ok {a b : α} : (pure a : Except ε α) = .ok b ↔ a = b :=
  ⟨Except.ok.inj, congrArg _⟩

theorem Except.map_eq_ok {f : α → β} {x : Except ε α} {b : β} :
    x.map f = .ok b ↔ ∃ a, x = .ok a ∧ f a = b := by
  cases x <;> simp [Except.map]

theorem Except.bind_eq_error {x : Except ε α} {next : α → Except ε β} {e : ε} :
    x >>= next = .error e ↔ x = .error e ∨ ∃ a, x = .ok a ∧ next a = .error e := by
  cases x with
  | error fault =>
    have same : (Except.error fault >>= next) = .error e ↔ fault = e :=
      ⟨fun same => by cases same; rfl, fun same => by cases same; rfl⟩
    simp [same]
  | ok a =>
    have same : (Except.ok a >>= next) = next a := rfl
    simp [same]

theorem Except.map_eq_error {f : α → β} {x : Except ε α} {e : ε} :
    x.map f = .error e ↔ x = .error e := by
  cases x <;> simp [Except.map]

theorem Except.mapM_eq_ok {f : α → Except ε β} {xs : List α} {ys : List β} :
    xs.mapM f = .ok ys ↔ List.Forall₂ (fun x y => f x = .ok y) xs ys := by
  induction xs generalizing ys with
  | nil =>
    rw [List.mapM_nil, Except.pure_eq_ok, List.forall₂_nil_left_iff]
    exact eq_comm
  | cons x xs ih =>
    simp only [List.mapM_cons, Except.bind_eq_ok, Except.pure_eq_ok, ih]
    constructor
    · rintro ⟨y, head, rest, tail, rfl⟩
      exact .cons head tail
    · rintro (_ | ⟨head, tail⟩)
      exact ⟨_, head, _, tail, rfl⟩

/-- A sequence of steps fails with the fault of the first step that fails. -/
theorem Except.mapM_eq_error {f : α → Except ε β} {xs : List α} {e : ε} :
    xs.mapM f = .error e ↔ ∃ earlier x later, xs = earlier ++ x :: later ∧
      (∀ y ∈ earlier, ∃ b, f y = .ok b) ∧ f x = .error e := by
  induction xs with
  | nil =>
    constructor
    · intro failed
      cases failed
    · rintro ⟨earlier, x, later, same, _⟩
      simp at same
  | cons head rest ih =>
    simp only [List.mapM_cons, Except.bind_eq_error, ih]
    constructor
    · rintro (failed | ⟨b, head, ⟨earlier, x, later, rfl, before, failed⟩ | ⟨_, _, impossible⟩⟩)
      · exact ⟨[], head, rest, rfl, by simp, failed⟩
      · refine ⟨_ :: earlier, x, later, rfl, ?_, failed⟩
        simpa using ⟨⟨b, head⟩, before⟩
      · cases impossible
    · rintro ⟨_ | ⟨first, earlier⟩, x, later, same, before, failed⟩
      · obtain ⟨rfl, rfl⟩ := List.cons.inj same
        exact .inl failed
      · obtain ⟨rfl, rfl⟩ := List.cons.inj same
        obtain ⟨b, head⟩ := before _ (List.mem_cons_self)
        exact .inr ⟨b, head, .inl ⟨earlier, x, later, rfl,
          fun y member => before y (List.mem_cons_of_mem _ member), failed⟩⟩

theorem Except.mapM_congr {f g : α → Except ε β} {xs : List α} (same : ∀ x ∈ xs, f x = g x) :
    xs.mapM f = xs.mapM g := by
  induction xs with
  | nil => rfl
  | cons x xs ih =>
    rw [List.mapM_cons, List.mapM_cons, same x (by simp),
      ih fun y member => same y (List.mem_cons_of_mem x member)]

theorem Except.forM_eq_ok {f : α → Except ε Unit} {xs : List α} :
    xs.forM f = .ok () ↔ ∀ x ∈ xs, f x = .ok () := by
  induction xs with
  | nil =>
    have done : ([] : List α).forM f = .ok () := rfl
    simp [done]
  | cons x xs ih =>
    have step : (x :: xs).forM f = f x >>= fun _ => xs.forM f := rfl
    rw [step, Except.bind_eq_ok, List.forall_mem_cons, ← ih]
    exact ⟨fun ⟨_, head, rest⟩ => ⟨head, rest⟩, fun ⟨head, rest⟩ => ⟨(), head, rest⟩⟩

theorem Except.exists_of_mem_mapM {f : α → Except ε β} {xs : List α} {ys : List β}
    (built : xs.mapM f = .ok ys) {y : β} (member : y ∈ ys) : ∃ x ∈ xs, f x = .ok y := by
  rw [Except.mapM_eq_ok] at built
  induction built with
  | nil => cases member
  | @cons x z xs ys head _ ih =>
    rcases List.mem_cons.mp member with rfl | later
    · exact ⟨x, by simp, head⟩
    · obtain ⟨x', among, same⟩ := ih later
      exact ⟨x', by simp [among], same⟩

theorem Except.mapM_related {α' β' : Type} {R : α → α' → Prop} {S : β → β' → Prop}
    {f : α → Except ε β} {g : α' → Except ε β'}
    (step : ∀ x x' y y', R x x' → f x = .ok y → g x' = .ok y' → S y y') {xs : List α}
    {xs' : List α'} (related : List.Forall₂ R xs xs') {ys : List β} {ys' : List β'}
    (first : xs.mapM f = .ok ys) (second : xs'.mapM g = .ok ys') : List.Forall₂ S ys ys' := by
  rw [Except.mapM_eq_ok] at first second
  induction related generalizing ys ys' with
  | nil =>
    cases first
    cases second
    exact .nil
  | cons head _ ih =>
    obtain _ | ⟨headFirst, tailFirst⟩ := first
    obtain _ | ⟨headSecond, tailSecond⟩ := second
    exact .cons (step _ _ _ _ head headFirst headSecond) (ih tailFirst tailSecond)

end ScopedSql
