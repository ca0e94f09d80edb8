import ScopedSql.Proofs.Number.Amount

/-! The natural order of values.

Being equal and being below pass on along a chain of values, whatever the values are made of. Of two
values that have an order one need not be below the other: a nan is beside all numbers, and sets are
ordered by inclusion only. Among plain values, which have neither of them inside, it is, unless the
two are equal.
-/

set_option autoImplicit false

namespace ScopedSql

theorem Number.isEqual_iff {x y : Number} :
    x.isEqual y ↔ ∃ a, x.amount? = some a ∧ y.amount? = some a := by
  rw [isEqual, compare?_eq, decide_eq_true_iff]
  cases x.amount? with
  | none => simp
  | some a =>
    cases y.amount? with
    | none => simp
    | some b =>
      show some (cmp a b) = some .eq ↔ _
      rw [Option.some_inj, cmp_eq_eq_iff]
      simp [eq_comm]

namespace RecordKind

theorem eq_or_columns_of_isComparable {first second : RecordKind}
    (comparable : first.isComparable second) :
    first = second ∨ ∃ b c, first = column b ∧ second = column c := by
  unfold isComparable at comparable
  split at comparable
  · exact .inr ⟨_, _, rfl, rfl⟩
  · cases comparable
  · cases comparable
  · cases comparable
  · exact .inl (of_decide_eq_true comparable)

theorem isComparable_trans {first second third : RecordKind}
    (left : first.isComparable second) (right : second.isComparable third) :
    first.isComparable third := by
  rcases eq_or_columns_of_isComparable left with rfl | ⟨_, _, rfl, rfl⟩
  · exact right
  · rcases eq_or_columns_of_isComparable right with rfl | ⟨_, _, _, rfl⟩
    · exact left
    · rfl

end RecordKind

namespace Value

/-! ## Induction -/

def components : Value → List Value
  | list items | tuple items | set items | frozenSet items => items
  | dict entries => entries.flatMap fun entry => [entry.1, entry.2]
  | record _ fields => fields.map (·.2)
  | null | bool _ | int _ | double _ | text _ | bytes _ | member _ => []

theorem sizeOf_lt_of_mem_components {x y : Value} (inside : y ∈ x.components) :
    sizeOf y < sizeOf x := by
  cases x with
  | list items | tuple items | set items | frozenSet items =>
    have smaller : sizeOf y < sizeOf items := List.sizeOf_lt_of_mem inside
    simp
    omega
  | dict entries =>
    obtain ⟨⟨key, value⟩, member, inside⟩ := List.mem_flatMap.mp inside
    have smaller := List.sizeOf_lt_of_mem member
    simp at smaller inside ⊢
    rcases inside with rfl | rfl <;> omega
  | record kind fields =>
    obtain ⟨⟨name, value⟩, member, rfl⟩ := List.mem_map.mp inside
    have smaller := List.sizeOf_lt_of_mem member
    simp at smaller ⊢
    omega
  | _ => cases inside

theorem components_induction {P : Value → Prop}
    (step : ∀ x, (∀ y ∈ x.components, P y) → P x) (x : Value) : P x :=
  step x fun y _ => components_induction step y
termination_by sizeOf x
decreasing_by exact sizeOf_lt_of_mem_components ‹_›

/-! ## Scalars -/

inductive Scalar where
  | nothing
  | amount (a : Amount)
  | text (s : String)
  | bytes (bs : List UInt8)

def Scalar.Below : Scalar → Scalar → Prop
  | amount a, amount b => a < b
  | text s, text t => s < t
  | bytes bs, bytes cs => bs < cs
  | _, _ => False

theorem Scalar.Below.trans {k l m : Scalar} (left : k.Below l) (right : l.Below m) :
    k.Below m := by
  cases k <;> cases l <;> first | exact left.elim | skip
  all_goals cases m <;> first | exact right.elim | skip
  · exact lt_trans (α := Amount) left right
  · exact lt_trans (α := String) left right
  · exact List.lt_trans (α := UInt8) left right

theorem Scalar.not_below_self (k : Scalar) : ¬ k.Below k := by
  cases k with
  | nothing => exact id
  | amount a => exact lt_irrefl a
  | text s => exact lt_irrefl s
  | bytes bs => exact List.lt_irrefl bs

theorem Scalar.exists_above_amount {P : Scalar → Prop} {a : Amount} :
    (∃ l, P l ∧ (amount a).Below l) ↔ ∃ b, P (amount b) ∧ a < b := by
  constructor
  · rintro ⟨_ | b | _ | _, found, less⟩ <;> first | exact less.elim | exact ⟨b, found, less⟩
  · rintro ⟨b, found, less⟩
    exact ⟨amount b, found, less⟩

theorem Scalar.exists_above_text {P : Scalar → Prop} {s : String} :
    (∃ l, P l ∧ (text s).Below l) ↔ ∃ t, P (text t) ∧ s < t := by
  constructor
  · rintro ⟨_ | _ | t | _, found, less⟩ <;> first | exact less.elim | exact ⟨t, found, less⟩
  · rintro ⟨t, found, less⟩
    exact ⟨text t, found, less⟩

theorem Scalar.exists_above_bytes {P : Scalar → Prop} {bs : List UInt8} :
    (∃ l, P l ∧ (bytes bs).Below l) ↔ ∃ cs, P (bytes cs) ∧ bs < cs := by
  constructor
  · rintro ⟨_ | _ | _ | cs, found, less⟩ <;> first | exact less.elim | exact ⟨cs, found, less⟩
  · rintro ⟨cs, found, less⟩
    exact ⟨bytes cs, found, less⟩

def scalar? : Value → Option Scalar
  | null => some .nothing
  | bool b => some (.amount (.ofRational ((if b then 1 else 0 : Int) : ℚ)))
  | int n => some (.amount (.ofRational n))
  | double x => x.amount?.map .amount
  | text s => some (.text s)
  | member m => some (.text m.word)
  | bytes bs => some (.bytes bs)
  | list _ | tuple _ | set _ | frozenSet _ | dict _ | record _ _ => none

variable {x y z : Value}

theorem scalar?_eq_amount {a : Amount} :
    x.scalar? = some (.amount a) ↔ ∃ m, x.asNumber? = some m ∧ m.amount? = some a := by
  cases x <;> simp [scalar?, asNumber?, Number.amount?]

theorem scalar?_eq_text {s : String} : x.scalar? = some (.text s) ↔ x.asText? = some s := by
  cases x <;> simp [scalar?, asText?]

theorem scalar?_eq_bytes {bs : List UInt8} : x.scalar? = some (.bytes bs) ↔ x = bytes bs := by
  cases x <;> simp [scalar?]

theorem scalar?_eq_nothing : x.scalar? = some .nothing ↔ x = null := by
  cases x <;> simp [scalar?]

theorem equal_eq_of_asNumber? {m : Number} (number : x.asNumber? = some m) :
    x.equal y = (y.asNumber?.map m.isEqual).getD false := by
  cases x with
  | bool | int | double =>
    cases number
    cases y <;> rfl
  | _ => cases number

theorem isBelow?_of_asNumber? {m : Number} (number : x.asNumber? = some m) :
    x.isBelow? y = y.asNumber?.map m.isBelow := by
  cases x with
  | bool | int | double =>
    cases number
    cases y <;> rfl
  | _ => cases number

theorem equal_eq_of_asText? {s : String} (text : x.asText? = some s) :
    x.equal y = (y.asText?.map (s == ·)).getD false := by
  cases x with
  | text | member =>
    cases text
    cases y <;> rfl
  | _ => cases text

theorem isBelow?_of_asText? {s : String} (text : x.asText? = some s) :
    x.isBelow? y = y.asText?.map fun t => decide (s < t) := by
  cases x with
  | text | member =>
    cases text
    cases y <;> rfl
  | _ => cases text

def Below (x y : Value) : Prop :=
  x.isBelow? y = some true

theorem equal_iff_of_scalar? {k : Scalar} (scalar : x.scalar? = some k) :
    x.equal y ↔ y.scalar? = some k := by
  cases k with
  | nothing =>
    obtain rfl := scalar?_eq_nothing.mp scalar
    rw [scalar?_eq_nothing]
    cases y <;> simp [equal, equalScalar, asNumber?, asText?]
  | amount a =>
    obtain ⟨m, number, amount⟩ := scalar?_eq_amount.mp scalar
    rw [equal_eq_of_asNumber? number, scalar?_eq_amount]
    cases y.asNumber? <;> simp [Number.isEqual_iff, amount]
  | text s =>
    rw [equal_eq_of_asText? (scalar?_eq_text.mp scalar), scalar?_eq_text]
    cases y.asText? with
    | none => simp
    | some t => simpa using eq_comm
  | bytes bs =>
    obtain rfl := scalar?_eq_bytes.mp scalar
    rw [scalar?_eq_bytes, eq_comm (b := bytes bs)]
    cases y <;> simp [equal, equalScalar, asNumber?, asText?]

theorem below_iff_of_scalar? {k : Scalar} (scalar : x.scalar? = some k) :
    Below x y ↔ ∃ l, y.scalar? = some l ∧ k.Below l := by
  cases k with
  | nothing =>
    obtain rfl := scalar?_eq_nothing.mp scalar
    cases y <;> exact ⟨nofun, fun ⟨_, _, less⟩ => less.elim⟩
  | amount a =>
    obtain ⟨m, number, amount⟩ := scalar?_eq_amount.mp scalar
    rw [Below, isBelow?_of_asNumber? number, Scalar.exists_above_amount]
    simp only [scalar?_eq_amount]
    cases y.asNumber? <;> simp [Number.isBelow_iff, amount]
  | text s =>
    rw [Below, isBelow?_of_asText? (scalar?_eq_text.mp scalar), Scalar.exists_above_text]
    simp only [scalar?_eq_text]
    cases y.asText? <;> simp
  | bytes bs =>
    obtain rfl := scalar?_eq_bytes.mp scalar
    rw [Scalar.exists_above_bytes]
    simp only [scalar?_eq_bytes]
    cases y with
    | bytes cs =>
      change some (decide (bs < cs)) = some true ↔ _
      simp
    | _ => exact ⟨nofun, fun ⟨_, other, _⟩ => nomatch other⟩

def hasItems : Value → Bool
  | list _ | tuple _ | set _ | frozenSet _ => true
  | _ => false

theorem not_below_of_single (single : x.hasItems = false) (scalar : x.scalar? = none) :
    ¬ Below x y := by
  cases x with
  | dict | record => cases y <;> simp [Below, isBelow?, asNumber?, asText?]
  | double x =>
    have nan : x.amount? = none := by simpa [scalar?] using scalar
    rw [Below, isBelow?_of_asNumber? rfl]
    cases y.asNumber? <;> simp [Number.isBelow_iff, Number.amount?, nan]
  | list | tuple | set | frozenSet => cases single
  | _ => cases scalar

theorem below_iff_of_single (single : x.hasItems = false) :
    Below x y ↔ ∃ k l, x.scalar? = some k ∧ y.scalar? = some l ∧ k.Below l := by
  cases scalar : x.scalar? with
  | none => simpa using not_below_of_single single scalar
  | some k => simpa using below_iff_of_scalar? scalar

/-! ## Collections -/

theorem eachIn_iff {xs ys : List Value} :
    eachIn xs ys ↔ ∀ x ∈ xs, ∃ y ∈ ys, x.equal y := by
  induction xs with
  | nil => simp [eachIn]
  | cons x xs ih => simp [eachIn, ih]

theorem eachEntryIn_iff {xs ys : List (Value × Value)} :
    eachEntryIn xs ys ↔ ∀ x ∈ xs, ∃ y ∈ ys, x.1.equal y.1 ∧ x.2.equal y.2 := by
  induction xs with
  | nil => simp [eachEntryIn]
  | cons x xs ih => simp [eachEntryIn, ih]

theorem eachFieldIn_iff {xs ys : List (String × Value)} :
    eachFieldIn xs ys ↔ ∀ x ∈ xs, ∃ y, ys.lookup x.1 = some y ∧ x.2.equal y := by
  induction xs with
  | nil => simp [eachFieldIn]
  | cons x xs ih =>
    rw [eachFieldIn, Bool.and_eq_true, ih, List.forall_mem_cons]
    cases ys.lookup x.1 <;> simp

def BelowAll (xs ys : List Value) : Prop :=
  isBelowAll? xs ys = some true

theorem belowAll_nil {ys : List Value} : BelowAll [] ys ↔ ys ≠ [] := by
  simp [BelowAll, isBelowAll?]

theorem not_belowAll_nil {xs : List Value} : ¬ BelowAll xs [] := by
  cases xs <;> simp [BelowAll, isBelowAll?]

theorem equalAll_cons {xs ys : List Value} :
    equalAll (x :: xs) (y :: ys) ↔ x.equal y ∧ equalAll xs ys := by
  simp [equalAll]

-- The first elements that differ decide.
theorem belowAll_cons {xs ys : List Value} (apart : Below x y → ¬ x.equal y) :
    BelowAll (x :: xs) (y :: ys) ↔ (x.equal y ∧ BelowAll xs ys) ∨ Below x y := by
  by_cases same : x.equal y
  · have beside : ¬ Below x y := fun below => apart below same
    simp [BelowAll, isBelowAll?, same, beside]
  · simp [BelowAll, isBelowAll?, same, Below]

def sequence? : Value → Option (Bool × List Value)
  | list items => some (false, items)
  | tuple items => some (true, items)
  | _ => none

theorem isBelow?_of_sequence? {isTuple : Bool} {xs ys : List Value}
    (isSequence : x.sequence? = some (isTuple, xs)) (other : y.sequence? = some (isTuple, ys)) :
    x.isBelow? y = isBelowAll? xs ys := by
  cases x with
  | list items | tuple items =>
    cases isSequence
    cases y <;> cases other
    rfl
  | _ => cases isSequence

theorem equal_iff_of_sequence? {isTuple : Bool} {xs : List Value}
    (isSequence : x.sequence? = some (isTuple, xs)) :
    x.equal y ↔ ∃ ys, y.sequence? = some (isTuple, ys) ∧ equalAll xs ys := by
  cases x with
  | list items | tuple items =>
    cases isSequence
    cases y <;> first
      | exact ⟨fun same => ⟨_, rfl, same⟩, fun ⟨_, other, same⟩ => by cases other; exact same⟩
      | exact ⟨nofun, fun ⟨_, other, _⟩ => nomatch other⟩
  | _ => cases isSequence

theorem below_iff_of_sequence? {isTuple : Bool} {xs : List Value}
    (isSequence : x.sequence? = some (isTuple, xs)) :
    Below x y ↔ ∃ ys, y.sequence? = some (isTuple, ys) ∧ BelowAll xs ys := by
  cases x with
  | list items | tuple items =>
    cases isSequence
    cases y <;> first
      | exact ⟨fun less => ⟨_, rfl, less⟩, fun ⟨_, other, less⟩ => by cases other; exact less⟩
      | exact ⟨nofun, fun ⟨_, other, _⟩ => nomatch other⟩
  | _ => cases isSequence

def setItems? : Value → Option (List Value)
  | set items | frozenSet items => some items
  | _ => none

theorem equal_iff_of_setItems? {xs : List Value} (isSet : x.setItems? = some xs) :
    x.equal y ↔ ∃ ys, y.setItems? = some ys ∧ xs.length = ys.length ∧
      ∀ x ∈ xs, ∃ y ∈ ys, x.equal y := by
  cases x with
  | set items | frozenSet items =>
    cases isSet
    cases y with
    | set ys | frozenSet ys =>
      change (xs.length == ys.length && eachIn xs ys) = true ↔ _
      simp [setItems?, eachIn_iff]
    | _ => exact ⟨nofun, fun ⟨_, other, _⟩ => nomatch other⟩
  | _ => cases isSet

theorem below_iff_of_setItems? {xs : List Value} (isSet : x.setItems? = some xs) :
    Below x y ↔ ∃ ys, y.setItems? = some ys ∧ xs.length < ys.length ∧
      ∀ x ∈ xs, ∃ y ∈ ys, x.equal y := by
  cases x with
  | set items | frozenSet items =>
    cases isSet
    cases y with
    | set ys | frozenSet ys =>
      change some (xs.length < ys.length && eachIn xs ys) = some true ↔ _
      simp [setItems?, eachIn_iff]
    | _ => exact ⟨nofun, fun ⟨_, other, _⟩ => nomatch other⟩
  | _ => cases isSet

theorem equal_dict_iff {xs : List (Value × Value)} :
    (dict xs).equal y ↔ ∃ ys, y = dict ys ∧ xs.length = ys.length ∧
      ∀ x ∈ xs, ∃ y ∈ ys, x.1.equal y.1 ∧ x.2.equal y.2 := by
  cases y with
  | dict ys =>
    have compared : (dict xs).equal (dict ys) = (xs.length == ys.length && eachEntryIn xs ys) := rfl
    simp [compared, eachEntryIn_iff]
  | _ => exact ⟨nofun, fun ⟨_, other, _⟩ => nomatch other⟩

theorem equal_record_iff {kind : RecordKind} {xs : List (String × Value)} :
    (record kind xs).equal y ↔ ∃ kind' ys, y = record kind' ys ∧ kind.isComparable kind' ∧
      xs.length = ys.length ∧ ∀ x ∈ xs, ∃ y, ys.lookup x.1 = some y ∧ x.2.equal y := by
  cases y with
  | record kind' ys =>
    have compared : (record kind xs).equal (record kind' ys) =
        (kind.isComparable kind' && xs.length == ys.length && eachFieldIn xs ys) := rfl
    simp [compared, eachFieldIn_iff, and_assoc]
  | _ => exact ⟨nofun, fun ⟨_, _, other, _⟩ => nomatch other⟩

/-! ## Laws -/

theorem not_equal_of_below (below : Below x y) : ¬ x.equal y := by
  induction x using components_induction generalizing y with
  | step x ih =>
    -- two sequences differ at the place that decides their order
    have sequence : ∀ {xs ys : List Value}, (∀ x ∈ xs, ∀ {y}, Below x y → ¬ x.equal y) →
        BelowAll xs ys → ¬ equalAll xs ys := by
      intro xs ys
      induction xs generalizing ys with
      | nil => cases ys <;> simp [belowAll_nil, equalAll]
      | cons x xs tail =>
        intro ih below
        cases ys with
        | nil => exact absurd below not_belowAll_nil
        | cons y ys =>
          rw [List.forall_mem_cons] at ih
          rw [equalAll_cons]
          rintro ⟨head, rest⟩
          rcases (belowAll_cons ih.1).mp below with ⟨_, later⟩ | here
          · exact tail ih.2 later rest
          · exact ih.1 here head
    cases x with
    | list xs | tuple xs =>
      obtain ⟨ys, isSequence, less⟩ := (below_iff_of_sequence? rfl).mp below
      rw [equal_iff_of_sequence? rfl, isSequence]
      rintro ⟨_, ⟨⟩, same⟩
      exact sequence ih less same
    | set xs | frozenSet xs =>
      obtain ⟨ys, isSet, fewer, _⟩ := (below_iff_of_setItems? rfl).mp below
      rw [equal_iff_of_setItems? rfl, isSet]
      rintro ⟨_, ⟨⟩, asMany, _⟩
      exact fewer.ne asMany
    | _ =>
      obtain ⟨k, l, left, right, less⟩ := (below_iff_of_single rfl).mp below
      rw [equal_iff_of_scalar? left, right]
      rintro ⟨⟩
      exact k.not_below_self less

theorem not_below_self (x : Value) : ¬ Below x x := by
  induction x using components_induction with
  | step x ih =>
    have sequence : ∀ {xs : List Value}, (∀ x ∈ xs, ¬ Below x x) → ¬ BelowAll xs xs := by
      intro xs
      induction xs with
      | nil => simp [belowAll_nil]
      | cons x xs tail =>
        intro ih
        rw [List.forall_mem_cons] at ih
        rw [belowAll_cons not_equal_of_below]
        rintro (⟨_, later⟩ | here)
        · exact tail ih.2 later
        · exact ih.1 here
    cases x with
    | list xs | tuple xs =>
      rw [below_iff_of_sequence? rfl]
      rintro ⟨_, ⟨⟩, below⟩
      exact sequence ih below
    | set xs | frozenSet xs =>
      rw [below_iff_of_setItems? rfl]
      rintro ⟨_, ⟨⟩, fewer, _⟩
      exact fewer.false
    | _ =>
      rw [below_iff_of_single rfl]
      rintro ⟨k, l, left, right, less⟩
      cases left.symm.trans right
      exact k.not_below_self less

/-- What is equal to a value, or above it, passes on to what is equal to that, or above it. -/
structure PassesOn (x : Value) : Prop where
  equal_equal {y z : Value} (left : x.equal y) (right : y.equal z) : x.equal z
  equal_below {y z : Value} (left : x.equal y) (right : Below y z) : Below x z
  below_equal {y z : Value} (left : Below x y) (right : y.equal z) : Below x z
  below_below {y z : Value} (left : Below x y) (right : Below y z) : Below x z

structure PassesOnAll (xs : List Value) : Prop where
  equal_equal {ys zs : List Value} (left : equalAll xs ys) (right : equalAll ys zs) :
    equalAll xs zs
  equal_below {ys zs : List Value} (left : equalAll xs ys) (right : BelowAll ys zs) :
    BelowAll xs zs
  below_equal {ys zs : List Value} (left : BelowAll xs ys) (right : equalAll ys zs) :
    BelowAll xs zs
  below_below {ys zs : List Value} (left : BelowAll xs ys) (right : BelowAll ys zs) :
    BelowAll xs zs

theorem passesOnAll {xs : List Value} (each : ∀ x ∈ xs, PassesOn x) : PassesOnAll xs := by
  induction xs with
  | nil =>
    constructor
    · intro ys zs left right
      cases ys with
      | nil => exact right
      | cons => cases left
    · intro ys zs left right
      cases ys with
      | nil => exact right
      | cons => cases left
    · intro ys zs left right
      cases zs with
      | nil => cases ys <;> simp_all [belowAll_nil, equalAll]
      | cons => simp [belowAll_nil]
    · intro ys zs left right
      cases zs with
      | nil => exact absurd right not_belowAll_nil
      | cons => simp [belowAll_nil]
  | cons x xs ih =>
    rw [List.forall_mem_cons] at each
    obtain ⟨head, tail⟩ := each
    have rest := ih tail
    constructor
    all_goals
      intro ys zs left right
      rcases ys with _ | ⟨y, ys⟩
      · first | exact absurd left not_belowAll_nil | cases left
      rcases zs with _ | ⟨z, zs⟩
      · first | exact absurd right not_belowAll_nil | cases right
      simp only [equalAll_cons, belowAll_cons not_equal_of_below] at left right ⊢
    · exact ⟨head.equal_equal left.1 right.1, rest.equal_equal left.2 right.2⟩
    · rcases right with ⟨same, later⟩ | here
      · exact .inl ⟨head.equal_equal left.1 same, rest.equal_below left.2 later⟩
      · exact .inr (head.equal_below left.1 here)
    · rcases left with ⟨same, later⟩ | here
      · exact .inl ⟨head.equal_equal same right.1, rest.below_equal later right.2⟩
      · exact .inr (head.below_equal here right.1)
    · rcases left with ⟨same, later⟩ | here
      · rcases right with ⟨same', later'⟩ | here'
        · exact .inl ⟨head.equal_equal same same', rest.below_below later later'⟩
        · exact .inr (head.equal_below same here')
      · rcases right with ⟨same', _⟩ | here'
        · exact .inr (head.below_equal here same')
        · exact .inr (head.below_below here here')

theorem passesOn_of_scalar? {k : Scalar} (scalar : x.scalar? = some k) : PassesOn x := by
  constructor
  · intro y z left right
    have same := (equal_iff_of_scalar? scalar).mp left
    exact (equal_iff_of_scalar? scalar).mpr ((equal_iff_of_scalar? same).mp right)
  · intro y z left right
    have same := (equal_iff_of_scalar? scalar).mp left
    exact (below_iff_of_scalar? scalar).mpr ((below_iff_of_scalar? same).mp right)
  · intro y z left right
    obtain ⟨l, other, less⟩ := (below_iff_of_scalar? scalar).mp left
    exact (below_iff_of_scalar? scalar).mpr ⟨l, (equal_iff_of_scalar? other).mp right, less⟩
  · intro y z left right
    obtain ⟨l, other, less⟩ := (below_iff_of_scalar? scalar).mp left
    obtain ⟨m, last, less'⟩ := (below_iff_of_scalar? other).mp right
    exact (below_iff_of_scalar? scalar).mpr ⟨m, last, less.trans less'⟩

theorem passesOn_of_sequence? {isTuple : Bool} {xs : List Value}
    (isSequence : x.sequence? = some (isTuple, xs)) (each : ∀ x ∈ xs, PassesOn x) :
    PassesOn x := by
  have all := passesOnAll each
  constructor
  · intro y z left right
    obtain ⟨ys, other, same⟩ := (equal_iff_of_sequence? isSequence).mp left
    obtain ⟨zs, last, same'⟩ := (equal_iff_of_sequence? other).mp right
    exact (equal_iff_of_sequence? isSequence).mpr ⟨zs, last, all.equal_equal same same'⟩
  · intro y z left right
    obtain ⟨ys, other, same⟩ := (equal_iff_of_sequence? isSequence).mp left
    obtain ⟨zs, last, less⟩ := (below_iff_of_sequence? other).mp right
    exact (below_iff_of_sequence? isSequence).mpr ⟨zs, last, all.equal_below same less⟩
  · intro y z left right
    obtain ⟨ys, other, less⟩ := (below_iff_of_sequence? isSequence).mp left
    obtain ⟨zs, last, same⟩ := (equal_iff_of_sequence? other).mp right
    exact (below_iff_of_sequence? isSequence).mpr ⟨zs, last, all.below_equal less same⟩
  · intro y z left right
    obtain ⟨ys, other, less⟩ := (below_iff_of_sequence? isSequence).mp left
    obtain ⟨zs, last, less'⟩ := (below_iff_of_sequence? other).mp right
    exact (below_iff_of_sequence? isSequence).mpr ⟨zs, last, all.below_below less less'⟩

theorem passesOn_of_setItems? {xs : List Value} (isSet : x.setItems? = some xs)
    (each : ∀ x ∈ xs, PassesOn x) : PassesOn x := by
  have among : ∀ {ys zs : List Value}, (∀ x ∈ xs, ∃ y ∈ ys, x.equal y) →
      (∀ y ∈ ys, ∃ z ∈ zs, y.equal z) → ∀ x ∈ xs, ∃ z ∈ zs, x.equal z := by
    intro ys zs left right x member
    obtain ⟨y, member', same⟩ := left x member
    obtain ⟨z, member'', same'⟩ := right y member'
    exact ⟨z, member'', (each x member).equal_equal same same'⟩
  constructor
  · intro y z left right
    obtain ⟨ys, other, asMany, inside⟩ := (equal_iff_of_setItems? isSet).mp left
    obtain ⟨zs, last, asMany', inside'⟩ := (equal_iff_of_setItems? other).mp right
    exact (equal_iff_of_setItems? isSet).mpr
      ⟨zs, last, asMany.trans asMany', among inside inside'⟩
  · intro y z left right
    obtain ⟨ys, other, asMany, inside⟩ := (equal_iff_of_setItems? isSet).mp left
    obtain ⟨zs, last, fewer, inside'⟩ := (below_iff_of_setItems? other).mp right
    exact (below_iff_of_setItems? isSet).mpr
      ⟨zs, last, asMany.trans_lt fewer, among inside inside'⟩
  · intro y z left right
    obtain ⟨ys, other, fewer, inside⟩ := (below_iff_of_setItems? isSet).mp left
    obtain ⟨zs, last, asMany, inside'⟩ := (equal_iff_of_setItems? other).mp right
    exact (below_iff_of_setItems? isSet).mpr
      ⟨zs, last, fewer.trans_eq asMany, among inside inside'⟩
  · intro y z left right
    obtain ⟨ys, other, fewer, inside⟩ := (below_iff_of_setItems? isSet).mp left
    obtain ⟨zs, last, fewer', inside'⟩ := (below_iff_of_setItems? other).mp right
    exact (below_iff_of_setItems? isSet).mpr
      ⟨zs, last, fewer.trans fewer', among inside inside'⟩

theorem passesOn_of_single (single : x.hasItems = false) (scalar : x.scalar? = none)
    (equal_equal : ∀ {y z}, x.equal y → y.equal z → x.equal z)
    (unordered : ∀ {y z}, x.equal y → ¬ Below y z) : PassesOn x where
  equal_equal := equal_equal
  equal_below left right := absurd right (unordered left)
  below_equal left := absurd left (not_below_of_single single scalar)
  below_below left := absurd left (not_below_of_single single scalar)

theorem passesOn (x : Value) : PassesOn x := by
  induction x using components_induction with
  | step x ih =>
    cases x with
    | list xs | tuple xs => exact passesOn_of_sequence? rfl ih
    | set xs | frozenSet xs => exact passesOn_of_setItems? rfl ih
    | dict xs =>
      have inside : ∀ entry ∈ xs, PassesOn entry.1 ∧ PassesOn entry.2 := by
        intro entry member
        constructor
        · exact ih _ (List.mem_flatMap.mpr ⟨entry, member, by simp⟩)
        · exact ih _ (List.mem_flatMap.mpr ⟨entry, member, by simp⟩)
      apply passesOn_of_single rfl rfl
      · intro y z left right
        obtain ⟨ys, rfl, asMany, among⟩ := equal_dict_iff.mp left
        obtain ⟨zs, rfl, asMany', among'⟩ := equal_dict_iff.mp right
        refine equal_dict_iff.mpr ⟨zs, rfl, asMany.trans asMany', fun entry member => ?_⟩
        obtain ⟨other, member', key, value⟩ := among entry member
        obtain ⟨last, member'', key', value'⟩ := among' other member'
        exact ⟨last, member'', (inside entry member).1.equal_equal key key',
          (inside entry member).2.equal_equal value value'⟩
      · intro y z left
        obtain ⟨ys, rfl, _⟩ := equal_dict_iff.mp left
        exact not_below_of_single rfl rfl
    | record kind xs =>
      apply passesOn_of_single rfl rfl
      · intro y z left right
        obtain ⟨kind', ys, rfl, comparable, asMany, among⟩ := equal_record_iff.mp left
        obtain ⟨kind'', zs, rfl, comparable', asMany', among'⟩ := equal_record_iff.mp right
        refine equal_record_iff.mpr ⟨kind'', zs, rfl,
          RecordKind.isComparable_trans comparable comparable', asMany.trans asMany',
          fun field member => ?_⟩
        obtain ⟨value, found, same⟩ := among field member
        obtain ⟨before, after, rfl, _⟩ := List.lookup_eq_some_iff.mp found
        obtain ⟨value', found', same'⟩ := among' (field.1, value) (by simp)
        have inside : field.2 ∈ xs.map (·.2) := List.mem_map.mpr ⟨field, member, rfl⟩
        exact ⟨value', found', (ih _ inside).equal_equal same same'⟩
      · intro y z left
        obtain ⟨kind', ys, rfl, _⟩ := equal_record_iff.mp left
        exact not_below_of_single rfl rfl
    | double x =>
      cases amount : x.amount? with
      | some a => exact passesOn_of_scalar? (k := .amount a) (by simp [scalar?, amount])
      | none =>
        have scalar : (double x).scalar? = none := by simp [scalar?, amount]
        have other : ∀ {y}, ¬ (double x).equal y := by
          intro y
          rw [equal_eq_of_asNumber? rfl]
          cases y.asNumber? <;> simp [Number.isEqual_iff, Number.amount?, amount]
        exact passesOn_of_single rfl scalar (fun left => absurd left other)
          (fun left => absurd left other)
    | _ => exact passesOn_of_scalar? rfl

theorem Below.trans (left : Below x y) (right : Below y z) : Below x z :=
  (passesOn x).below_below left right

/-! ## Plain values -/

def Scalar.isComparable : Scalar → Scalar → Bool
  | amount _, amount _ | text _, text _ | bytes _, bytes _ => true
  | _, _ => false

theorem Scalar.trichotomy {k l : Scalar} (comparable : k.isComparable l) :
    k = l ∨ k.Below l ∨ l.Below k := by
  cases k <;> cases l <;> first | cases comparable; done | skip
  case amount.amount a b =>
    rcases lt_trichotomy a b with less | rfl | greater
    exacts [.inr (.inl less), .inl rfl, .inr (.inr greater)]
  case text.text s t =>
    rcases lt_trichotomy s t with less | rfl | greater
    exacts [.inr (.inl less), .inl rfl, .inr (.inr greater)]
  case bytes.bytes bs cs =>
    by_cases less : bs < cs
    · exact .inr (.inl less)
    by_cases greater : cs < bs
    · exact .inr (.inr greater)
    · exact .inl (congrArg _ (List.le_antisymm greater less))

theorem exists_isComparable {k : Scalar} (scalar : x.scalar? = some k)
    (comparable : (x.isBelow? y).isSome) :
    y = double .nan ∨ ∃ l, y.scalar? = some l ∧ k.isComparable l := by
  cases k with
  | nothing =>
    obtain rfl := scalar?_eq_nothing.mp scalar
    cases y <;> simp [isBelow?, asNumber?, asText?] at comparable
  | amount a =>
    obtain ⟨m, number, _⟩ := scalar?_eq_amount.mp scalar
    rw [isBelow?_of_asNumber? number, Option.isSome_map] at comparable
    cases y with
    | bool | int => exact .inr ⟨_, rfl, rfl⟩
    | double y =>
      cases amount : y.amount? with
      | none => exact .inl (congrArg double (Double.amount?_eq_none_iff.mp amount))
      | some b => exact .inr ⟨.amount b, by simp [scalar?, amount], rfl⟩
    | _ => cases comparable
  | text s =>
    rw [isBelow?_of_asText? (scalar?_eq_text.mp scalar), Option.isSome_map] at comparable
    cases y with
    | text | member => exact .inr ⟨_, rfl, rfl⟩
    | _ => cases comparable
  | bytes bs =>
    obtain rfl := scalar?_eq_bytes.mp scalar
    cases y with
    | bytes => exact .inr ⟨_, rfl, rfl⟩
    | _ => cases comparable

/-- A scalar that is no nan, or a sequence of such values. -/
inductive IsPlain : Value → Prop where
  | scalar {x : Value} {k : Scalar} (scalar : x.scalar? = some k) : IsPlain x
  | sequence {x : Value} {isTuple : Bool} {xs : List Value}
      (isSequence : x.sequence? = some (isTuple, xs)) (each : ∀ x ∈ xs, IsPlain x) : IsPlain x

theorem IsPlain.equal_symm (plain : IsPlain x) (same : x.equal y) : y.equal x := by
  induction plain generalizing y with
  | scalar scalar =>
    exact (equal_iff_of_scalar? ((equal_iff_of_scalar? scalar).mp same)).mpr scalar
  | @sequence x isTuple xs isSequence each ih =>
    obtain ⟨ys, other, same⟩ := (equal_iff_of_sequence? isSequence).mp same
    refine (equal_iff_of_sequence? other).mpr ⟨xs, isSequence, ?_⟩
    clear isSequence other
    induction xs generalizing ys with
    | nil => cases ys <;> simp_all [equalAll]
    | cons x xs tail =>
      rw [List.forall_mem_cons] at each ih
      cases ys with
      | nil => cases same
      | cons y ys =>
        rw [equalAll_cons] at same ⊢
        exact ⟨ih.1 same.1, tail each.2 ih.2 ys same.2⟩

theorem exists_sequence? {isTuple : Bool} {xs : List Value}
    (isSequence : x.sequence? = some (isTuple, xs)) (comparable : (x.isBelow? y).isSome) :
    ∃ ys, y.sequence? = some (isTuple, ys) ∧ (isBelowAll? xs ys).isSome := by
  cases x with
  | list items | tuple items =>
    cases isSequence
    cases y <;> simp_all [isBelow?, sequence?]
  | _ => cases isSequence

-- Where the first sequence is equal to the start of the second, what is left of both decides.
theorem trichotomyAll {xs ys : List Value} (plain : ∀ x ∈ xs, IsPlain x)
    (each : ∀ x ∈ xs, ∀ y ∈ ys, (x.isBelow? y).isSome → x.equal y ∨ Below x y ∨ Below y x)
    (comparable : (isBelowAll? xs ys).isSome) :
    equalAll xs ys ∨ BelowAll xs ys ∨ BelowAll ys xs := by
  induction xs generalizing ys with
  | nil =>
    cases ys with
    | nil => exact .inl rfl
    | cons => exact .inr (.inl (belowAll_nil.mpr (by simp)))
  | cons x xs ih =>
    cases ys with
    | nil => exact .inr (.inr (belowAll_nil.mpr (by simp)))
    | cons y ys =>
      rw [List.forall_mem_cons] at plain
      simp only [equalAll_cons, belowAll_cons not_equal_of_below]
      by_cases same : x.equal y
      · have rest : (isBelowAll? xs ys).isSome := by simpa [isBelowAll?, same] using comparable
        have later : ∀ a ∈ xs, ∀ b ∈ ys, (a.isBelow? b).isSome →
            a.equal b ∨ Below a b ∨ Below b a := fun a first b second =>
          each a (List.mem_cons_of_mem _ first) b (List.mem_cons_of_mem _ second)
        rcases ih plain.2 later rest with equal | below | above
        · exact .inl ⟨same, equal⟩
        · exact .inr (.inl (.inl ⟨same, below⟩))
        · exact .inr (.inr (.inl ⟨plain.1.equal_symm same, above⟩))
      · have here : (x.isBelow? y).isSome := by simpa [isBelowAll?, same] using comparable
        rcases each x (by simp) y (by simp) here with equal | below | above
        · exact absurd equal same
        · exact .inr (.inl (.inr below))
        · exact .inr (.inr (.inr above))

/-- Of two plain values that can be compared one is below the other, unless they are equal. -/
theorem IsPlain.trichotomy (plain : IsPlain x) (plain' : IsPlain y)
    (comparable : (x.isBelow? y).isSome) : x.equal y ∨ Below x y ∨ Below y x := by
  induction plain generalizing y with
  | @scalar x k scalar =>
    rcases exists_isComparable scalar comparable with rfl | ⟨l, scalar', comparable⟩
    · cases plain' with
      | scalar scalar => cases scalar
      | sequence isSequence _ => cases isSequence
    · rw [equal_iff_of_scalar? scalar, below_iff_of_scalar? scalar, below_iff_of_scalar? scalar',
        scalar, scalar']
      simpa [eq_comm] using Scalar.trichotomy comparable
  | @sequence x isTuple xs isSequence each ih =>
    obtain ⟨ys, other, rest⟩ := exists_sequence? isSequence comparable
    cases plain' with
    | scalar scalar => cases y <;> first | cases scalar; done | cases other
    | sequence isSequence' each' =>
      obtain ⟨rfl, rfl⟩ := Prod.mk.inj (Option.some.inj (isSequence'.symm.trans other))
      have apart := trichotomyAll each (fun x first y second => ih x first (each' y second)) rest
      rcases apart with same | below | above
      · exact .inl ((equal_iff_of_sequence? isSequence).mpr ⟨_, other, same⟩)
      · exact .inr (.inl ((below_iff_of_sequence? isSequence).mpr ⟨_, other, below⟩))
      · exact .inr (.inr ((below_iff_of_sequence? other).mpr ⟨_, isSequence, above⟩))

theorem Scalar.Below.isBelow?_isSome {k l : Scalar} (less : k.Below l) (left : x.scalar? = some k)
    (right : y.scalar? = some l) : (y.isBelow? x).isSome := by
  cases k <;> cases l <;> first | exact less.elim | skip
  case amount.amount =>
    obtain ⟨m, number, _⟩ := scalar?_eq_amount.mp left
    obtain ⟨n, number', _⟩ := scalar?_eq_amount.mp right
    rw [isBelow?_of_asNumber? number', number]
    rfl
  case text.text =>
    rw [isBelow?_of_asText? (scalar?_eq_text.mp right), scalar?_eq_text.mp left]
    rfl
  case bytes.bytes =>
    obtain rfl := scalar?_eq_bytes.mp left
    obtain rfl := scalar?_eq_bytes.mp right
    rfl

theorem Below.isBelow?_isSome (below : Below x y) (plain : IsPlain x) (plain' : IsPlain y) :
    (y.isBelow? x).isSome := by
  induction plain generalizing y with
  | @scalar x k scalar =>
    obtain ⟨l, scalar', less⟩ := (below_iff_of_scalar? scalar).mp below
    exact less.isBelow?_isSome scalar scalar'
  | @sequence x isTuple xs isSequence each ih =>
    obtain ⟨ys, other, less⟩ := (below_iff_of_sequence? isSequence).mp below
    have each' : ∀ y ∈ ys, IsPlain y := by
      cases plain' with
      | scalar scalar => cases y <;> first | cases scalar; done | cases other
      | sequence isSequence' each' =>
        obtain ⟨rfl, rfl⟩ := Prod.mk.inj (Option.some.inj (isSequence'.symm.trans other))
        exact each'
    have sequence : (isBelowAll? ys xs).isSome := by
      clear isSequence other
      induction xs generalizing ys with
      | nil => cases ys <;> rfl
      | cons x xs tail =>
        cases ys with
        | nil => exact absurd less not_belowAll_nil
        | cons y ys =>
          rw [List.forall_mem_cons] at each each' ih
          rcases (belowAll_cons not_equal_of_below).mp less with ⟨same, later⟩ | here
          · have rest := tail each.2 ih.2 ys later each'.2
            simpa [isBelowAll?, each.1.equal_symm same] using rest
          · have apart : ¬ y.equal x := fun same =>
              not_equal_of_below here (each'.1.equal_symm same)
            simpa [isBelowAll?, apart] using ih.1 here each'.1
    rw [isBelow?_of_sequence? other isSequence]
    exact sequence

end Value

end ScopedSql
