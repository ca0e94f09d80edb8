import ScopedSql.Model.Coercion
import ScopedSql.Proofs.Outcome
import ScopedSql.Query.Call

/-! Calls that build a query.

What a building call changes is read off the call alone, so no query has a say in whether the call
is refused. A change touches one part of a query. Conditions and orderings are gathered in that
part, anything else takes the place of what was there, so calls that change different parts commute.
-/

set_option autoImplicit false

namespace ScopedSql

/-! ## Options that are checked once more -/

namespace Options

theorem readCount_countValue (name : String) (n : Option Nat) :
    readCount name (countValue n) = .ok n := by
  cases n with
  | none => rfl
  | some n =>
    have same : (Value.int n).equal (.int n) = true := by
      unfold Value.equal Value.equalScalar
      simp [Value.asNumber?, Number.isEqual, Number.compare?]
    unfold countValue readCount
    simp [Value.toInt, same]

/-- Of options whose orderings can be read only the page is left to check. -/
theorem make_tuple {orderBy : List Value} {terms : List OrderTerm}
    (read : orderBy.mapM OrderTerm.ofValue = .ok terms) (limit offset : Value)
    (fields : List Value) :
    make (.tuple orderBy) limit offset (.tuple fields) = (do
      let limit ← readCount "limit" limit
      let offset ← readCount "offset" offset
      return ⟨terms, limit, offset, fields⟩) := by
  have walked : (Value.tuple orderBy).elements = .ok orderBy := rfl
  unfold make
  rw [walked]
  change orderBy.mapM OrderTerm.ofValue >>= _ = _
  rw [read]
  rfl

theorem make_orderingsValue (terms : List OrderTerm) (limit offset : Value) (fields : List Value) :
    make (orderingsValue terms) limit offset (.tuple fields) = (do
      let limit ← readCount "limit" limit
      let offset ← readCount "offset" offset
      return ⟨terms, limit, offset, fields⟩) := by
  refine make_tuple ?_ limit offset fields
  rw [Except.mapM_eq_ok, List.forall₂_map_left_iff, List.forall₂_same]
  exact fun _ _ => rfl

theorem replaced_fields (o : Options) (fields : List Value) :
    o.replaced [("select_fields", .tuple fields)] = .ok { o with fields } := by
  change make (orderingsValue o.orderBy) (countValue o.limit) (countValue o.offset)
    (.tuple fields) = _
  rw [make_orderingsValue, readCount_countValue, readCount_countValue]
  rfl

theorem replaced_orderBy (o : Options) (orderBy : List OrderTerm) :
    o.replaced [("order_by", orderingsValue orderBy)] = .ok { o with orderBy } := by
  change make (orderingsValue orderBy) (countValue o.limit) (countValue o.offset)
    (.tuple o.fields) = _
  rw [make_orderingsValue, readCount_countValue, readCount_countValue]
  rfl

theorem replaced_limit (o : Options) (x : Value) :
    o.replaced [("limit", x)] = (fun limit => { o with limit }) <$> readCount "limit" x := by
  change make (orderingsValue o.orderBy) x (countValue o.offset) (.tuple o.fields) = _
  rw [make_orderingsValue, readCount_countValue, map_eq_pure_bind]
  rfl

theorem replaced_offset (o : Options) (x : Value) :
    o.replaced [("offset", x)] = (fun offset => { o with offset }) <$> readCount "offset" x := by
  change make (orderingsValue o.orderBy) (countValue o.limit) x (.tuple o.fields) = _
  rw [make_orderingsValue, readCount_countValue, map_eq_pure_bind]
  rfl

end Options

namespace Query

/-! ## What a call changes -/

inductive Part where
  | columns | table | conditions | orderings | limit | offset | tenant | context
  deriving DecidableEq

def Part.ofName? (name : String) : Option Part :=
  [("select", columns), ("from_", table), ("where", conditions), ("where_group", conditions),
    ("order_by", orderings), ("limit", Part.limit), ("offset", Part.offset),
    ("with_tenant", tenant), ("with_context", context)].lookup name

def Part.gathers : Part → Bool
  | conditions | orderings => true
  | _ => false

inductive Change where
  | columns (fields : List Value)
  | table (name : Value)
  | condition (item : FilterItem)
  | ordering (term : OrderTerm)
  | limit (n : Option Nat)
  | offset (n : Option Nat)
  | tenant (id : Value)
  | context (context : Context) (inputs : Dict)

namespace Change

def part : Change → Part
  | columns _ => .columns
  | table _ => .table
  | condition _ => .conditions
  | ordering _ => .orderings
  | limit _ => .limit
  | offset _ => .offset
  | tenant _ => .tenant
  | context .. => .context

/-- The change that a building call asks for; other calls ask for none. -/
def ofCall? [Check] (c : Call) : Except Fault (Option Change) := do
  match c.name with
  | "select" =>
    c.named.only []
    return some (.columns c.placed)
  | "from_" =>
    let parts ← c.parts ["table"]
    return some (.table (← parts.need "table"))
  | "where" =>
    let parts ← c.parts ["field_name", "operator", "value"]
    let field ← parts.need "field_name"
    return some (.condition
      (.single (← readFilter field (parts.lookup "operator") (parts.lookup "value"))))
  | "where_group" =>
    c.named.only ["combinator"]
    return some (.condition (.group (← FilterGroup.make (.tuple c.placed)
      (c.named.getD "combinator" (.member (.combinator .or))))))
  | "order_by" =>
    let parts ← c.parts ["field_name", "direction"]
    return some (.ordering (OrderTerm.make (← parts.need "field_name")
      (parts.getD "direction" .null)))
  | "limit" =>
    let parts ← c.parts ["limit"]
    return some (.limit (← Options.readCount "limit" (← parts.need "limit")))
  | "offset" =>
    let parts ← c.parts ["offset"]
    return some (.offset (← Options.readCount "offset" (← parts.need "offset")))
  | "with_tenant" =>
    let parts ← c.parts ["tenant_id"]
    return some (.tenant (← parts.need "tenant_id"))
  | "with_context" =>
    let parts ← c.parts ["context", "caller_inputs"]
    let context ← parts.need "context"
    let context ← Context.ofValue context
    let inputs ← Request.readInputs (parts.getD "caller_inputs" .null)
    return some (.context context inputs)
  | _ => return none

end Change

def changed (q : Query) : Change → Query
  | .columns fields => { q with options := { q.options with fields } }
  | .table table => { q with table }
  | .condition item => q.addFilter item
  | .ordering term =>
    { q with options := { q.options with orderBy := q.options.orderBy ++ [term] } }
  | .limit limit => { q with options := { q.options with limit } }
  | .offset offset => { q with options := { q.options with offset } }
  | .tenant tenantId => { q with tenantId }
  | .context context inputs => { q with context, inputs }

theorem fromTable_eq (q : Query) (table : Value) :
    q.fromTable table = q.changed (.table table) := rfl

theorem forTenant_eq (q : Query) (tenantId : Value) :
    q.forTenant tenantId = q.changed (.tenant tenantId) := rfl

theorem select_eq (q : Query) (fields : List Value) :
    q.select fields = pure (q.changed (.columns fields)) := by
  unfold select withOptions
  rw [Options.replaced_fields]
  rfl

theorem restrict_eq (q : Query) (field : Value) (operator value : Option Value) :
    q.restrict field operator value =
      (fun f => q.changed (.condition (.single f))) <$> readFilter field operator value := by
  unfold restrict
  rw [map_eq_pure_bind]
  rfl

theorem restrictGroup_eq (q : Query) (filters : List Value) (combinator : Value) :
    q.restrictGroup filters combinator =
      (fun g => q.changed (.condition (.group g))) <$>
        FilterGroup.make (.tuple filters) combinator := by
  unfold restrictGroup
  rw [map_eq_pure_bind]
  rfl

theorem orderBy_eq (q : Query) (field direction : Value) :
    q.orderBy field direction = pure (q.changed (.ordering (OrderTerm.make field direction))) := by
  unfold orderBy withOptions
  rw [Options.replaced_orderBy]
  rfl

theorem limit_eq (q : Query) (x : Value) :
    q.limit x = (fun n => q.changed (.limit n)) <$> Options.readCount "limit" x := by
  unfold limit withOptions
  rw [Options.replaced_limit, ← map_eq_pure_bind, Functor.map_map]
  rfl

theorem offset_eq (q : Query) (x : Value) :
    q.offset x = (fun n => q.changed (.offset n)) <$> Options.readCount "offset" x := by
  unfold offset withOptions
  rw [Options.replaced_offset, ← map_eq_pure_bind, Functor.map_map]
  rfl

section

variable [Check]

theorem inContext_eq (q : Query) (context inputs : Value) :
    q.inContext context inputs = (do
      let context ← Context.ofValue context
      (fun inputs => q.changed (.context context inputs)) <$> Request.readInputs inputs) := by
  unfold inContext
  simp only [map_eq_pure_bind]
  rfl

/-- A building call is refused, or changes a query, by what it is given alone. -/
theorem build?_eq (q : Query) (c : Call) :
    q.build? c = Option.map q.changed <$> Change.ofCall? c := by
  unfold build? Change.ofCall?
  split
  case h_10 => simp only [map_pure, Option.map_none]
  all_goals
    simp only [*, map_bind, map_pure, Option.map_some, bind_pure_comp, Functor.map_map,
      select_eq, fromTable_eq, restrict_eq, restrictGroup_eq, orderBy_eq, limit_eq, offset_eq,
      forTenant_eq, inContext_eq]

theorem build?_eq_some_iff {q q' : Query} {c : Call} :
    q.build? c = .ok (some q') ↔
      ∃ change, Change.ofCall? c = .ok (some change) ∧ q.changed change = q' := by
  rw [build?_eq]
  change (Change.ofCall? c).map _ = _ ↔ _
  simp [Except.map_eq_ok]

theorem build?_eq_error_iff {q : Query} {c : Call} {fault : Fault} :
    q.build? c = .error fault ↔ Change.ofCall? c = .error fault := by
  rw [build?_eq]
  exact Except.map_eq_error

theorem Change.part_of_call {c : Call} {change : Change} (asked : ofCall? c = .ok (some change)) :
    Part.ofName? c.name = some change.part := by
  unfold ofCall? at asked
  split at asked
  all_goals
    rename_i named
    simp only [Except.bind_eq_ok, Except.pure_eq_ok, Option.some.injEq, reduceCtorEq] at asked
  all_goals rw [named]
  case h_1 => obtain ⟨_, _, rfl⟩ := asked; rfl
  case h_2 | h_4 | h_5 | h_8 => obtain ⟨_, _, _, _, rfl⟩ := asked; rfl
  case h_3 | h_6 | h_7 => obtain ⟨_, _, _, _, _, _, rfl⟩ := asked; rfl
  case h_9 => obtain ⟨_, _, _, _, _, _, _, _, rfl⟩ := asked; rfl

end

/-! ## What is in a query -/

def content (q : Query) : Part → List Change
  | .columns => [.columns q.options.fields]
  | .table => [.table q.table]
  | .conditions => q.filters.map .condition
  | .orderings => q.options.orderBy.map .ordering
  | .limit => [.limit q.options.limit]
  | .offset => [.offset q.options.offset]
  | .tenant => [.tenant q.tenantId]
  | .context => [.context q.context q.inputs]

theorem eq_of_content {q q' : Query} (same : ∀ part, q.content part = q'.content part)
    (id : q.idColumn = q'.idColumn) : q = q' := by
  have columns := same .columns
  have table := same .table
  have conditions := same .conditions
  have orderings := same .orderings
  have limit := same .limit
  have offset := same .offset
  have tenant := same .tenant
  have context := same .context
  unfold content at conditions orderings
  rw [List.map_inj_right fun _ _ => Change.condition.inj] at conditions
  rw [List.map_inj_right fun _ _ => Change.ordering.inj] at orderings
  obtain ⟨_, _, _, ⟨_, _, _, _⟩, _, _, _⟩ := q
  obtain ⟨_, _, _, ⟨_, _, _, _⟩, _, _, _⟩ := q'
  simp only [content, List.cons.injEq, Change.columns.injEq, Change.table.injEq,
    Change.limit.injEq, Change.offset.injEq, Change.tenant.injEq, Change.context.injEq,
    and_true] at *
  obtain ⟨rfl, rfl⟩ := context
  subst columns table conditions orderings limit offset tenant id
  rfl

theorem content_changed (q : Query) (change : Change) (part : Part) :
    (q.changed change).content part =
      if change.part = part then
        if part.gathers then q.content part ++ [change] else [change]
      else q.content part := by
  cases change <;> cases part <;> simp [changed, content, Change.part, Part.gathers, addFilter]

/-- After changes a part has all of its own in order if it gathers, or else the last of them. -/
theorem content_after (q : Query) (changes : List Change) (part : Part) :
    (changes.foldl changed q).content part =
      if part.gathers then q.content part ++ changes.filter (·.part = part)
      else ((changes.filter (·.part = part)).getLast?.map ([·])).getD (q.content part) := by
  -- From the end, since the last change of a part that does not gather is the one that counts.
  induction changes using List.reverseRecOn with
  | nil => simp
  | append_singleton changes change ih =>
    rw [List.foldl_concat, content_changed, ih, List.filter_append]
    by_cases own : change.part = part
    · have last : [change].filter (·.part = part) = [change] := by simp [own]
      rw [if_pos own, last, List.getLast?_concat]
      split
      · exact List.append_assoc ..
      · rfl
    · have last : [change].filter (·.part = part) = [] := by simp [own]
      rw [if_neg own, last, List.append_nil]

theorem idColumn_after (q : Query) (changes : List Change) :
    (changes.foldl changed q).idColumn = q.idColumn := by
  induction changes generalizing q with
  | nil => rfl
  | cons change changes ih =>
    rw [List.foldl_cons, ih]
    cases change <;> rfl

/-! ## Sequences of calls -/

theorem asked_injective :
    Function.Injective fun change : Change => (.ok (some change) : Except Fault (Option Change)) :=
  fun _ _ same => Option.some.inj (Except.ok.inj same)

section

variable [Check]

/-- The query that building calls give, each on what the one before it gave. -/
inductive Builds : Query → List Call → Query → Prop where
  | nothing (q : Query) : Builds q [] q
  | call {q next last : Query} {c : Call} {calls : List Call}
      (built : q.build? c = .ok (some next)) (rest : Builds next calls last) :
      Builds q (c :: calls) last

def Part.calls (part : Part) (calls : List Call) : List Call :=
  calls.filter fun c => Part.ofName? c.name = some part

/-- Two sequences of calls that have the same conditions in order, the same orderings in order,
and the same last call on each other part. -/
structure SameChoices (calls calls' : List Call) : Prop where
  gathered : ∀ part : Part, part.gathers → part.calls calls = part.calls calls'
  last : ∀ part : Part, !part.gathers → (part.calls calls).getLast? = (part.calls calls').getLast?

def Asks (calls : List Call) (changes : List Change) : Prop :=
  calls.map Change.ofCall? = changes.map fun change => .ok (some change)

theorem Builds.asks {q last : Query} {calls : List Call} (builds : Builds q calls last) :
    ∃ changes, Asks calls changes ∧ changes.foldl changed q = last := by
  induction builds with
  | nothing q => exact ⟨[], rfl, rfl⟩
  | call built _ ih =>
    obtain ⟨change, asked, rfl⟩ := build?_eq_some_iff.mp built
    obtain ⟨changes, rest, rfl⟩ := ih
    refine ⟨change :: changes, ?_, rfl⟩
    unfold Asks at rest ⊢
    rw [List.map_cons, List.map_cons, asked, rest]

theorem Asks.part {calls : List Call} {changes : List Change} (asks : Asks calls changes)
    (part : Part) : Asks (part.calls calls) (changes.filter (·.part = part)) := by
  unfold Asks at asks ⊢
  induction calls generalizing changes with
  | nil =>
    rw [List.map_nil, eq_comm, List.map_eq_nil_iff] at asks
    rw [asks]
    rfl
  | cons c calls ih =>
    cases changes with
    | nil => cases asks
    | cons change changes =>
      obtain ⟨asked, rest⟩ := List.cons.inj asks
      have named := Change.part_of_call asked
      by_cases own : change.part = part
      · simp only [Part.calls] at ih ⊢
        simp [List.filter, named, own, asked, ih rest]
      · simp only [Part.calls] at ih ⊢
        simp [List.filter, named, own, ih rest]

theorem Asks.unique {calls : List Call} {changes changes' : List Change}
    (asks : Asks calls changes) (asks' : Asks calls changes') : changes = changes' :=
  List.map_injective_iff.mpr asked_injective (asks.symm.trans asks')

theorem Asks.getLast? {calls calls' : List Call} {changes changes' : List Change}
    (asks : Asks calls changes) (asks' : Asks calls' changes')
    (same : calls.getLast? = calls'.getLast?) : changes.getLast? = changes'.getLast? := by
  apply Option.map_injective asked_injective
  rw [← List.getLast?_map, ← List.getLast?_map, ← asks, ← asks', List.getLast?_map,
    List.getLast?_map, same]

/-- Calls on different parts commute: sequences of the same choices build the same query. -/
theorem Builds.unique {q last last' : Query} {calls calls' : List Call}
    (builds : Builds q calls last) (builds' : Builds q calls' last')
    (same : SameChoices calls calls') : last = last' := by
  obtain ⟨changes, asks, rfl⟩ := builds.asks
  obtain ⟨changes', asks', rfl⟩ := builds'.asks
  apply eq_of_content
  · intro part
    rw [content_after, content_after]
    by_cases gathers : part.gathers
    · have own := asks.part part
      rw [same.gathered part gathers] at own
      rw [if_pos gathers, if_pos gathers, own.unique (asks'.part part)]
    · rw [if_neg gathers, if_neg gathers,
        (asks.part part).getLast? (asks'.part part) (same.last part (by simpa using gathers))]
  · rw [idColumn_after, idColumn_after]

end

end Query

/-- Sequences of building calls with the same conditions and the same orderings in order, and with
the same last call on each other part, compile to the same statements. Whether a building call is
refused, and with what, is the same on all queries. -/
theorem building_calls_of_different_kinds_commute [Check] :
    (∀ (q last last' : Query) (calls calls' : List Call), q.Builds calls last →
      q.Builds calls' last' → Query.SameChoices calls calls' →
        ∀ a : Access, last.toStatement a = last'.toStatement a ∧
          last.toCountStatement a = last'.toCountStatement a) ∧
    ∀ (q q' : Query) (c : Call) (fault : Fault),
      q.build? c = .error fault ↔ q'.build? c = .error fault := by
  constructor
  · intro q last last' calls calls' builds builds' same a
    rw [builds.unique builds' same]
    exact ⟨rfl, rfl⟩
  · intro q q' c fault
    rw [Query.build?_eq_error_iff, Query.build?_eq_error_iff]

/-- A limit that is set, overridden and set again around a condition counts as its last setting, and
a negative one is refused by every query. -/
theorem last_limit_counts_wherever_condition_stands :
    let status : Call := ⟨"where", [.text "status", .text "open"], []⟩
    let limit := fun n : Int => Call.mk "limit" [.int n] []
    let base := Query.onTable .null (.text "tickets")
    (∃ q q', base.Builds [limit 5, status, limit 7, limit 9] q ∧ base.Builds [limit 9, status] q' ∧
      ∀ a, q.toStatement a = q'.toStatement a) ∧
    ∀ q : Query, q.build? (limit (-1)) = .error (.invalid (.negative "limit")) := by
  intro status limit base
  obtain ⟨commute, refused⟩ := building_calls_of_different_kinds_commute
  have same : Query.SameChoices [limit 5, status, limit 7, limit 9] [limit 9, status] := by
    constructor
    all_goals
      intro part kind
      cases part <;> first | rfl | cases kind
  constructor
  · obtain ⟨q, builds⟩ : ∃ q, base.Builds [limit 5, status, limit 7, limit 9] q :=
      ⟨_, .call rfl (.call rfl (.call rfl (.call rfl (.nothing _))))⟩
    obtain ⟨q', builds'⟩ : ∃ q', base.Builds [limit 9, status] q' :=
      ⟨_, .call rfl (.call rfl (.nothing _))⟩
    exact ⟨q, q', builds, builds', fun a => (commute base q q' _ _ builds builds' same a).1⟩
  · intro q
    exact (refused base q _ _).mp rfl

end ScopedSql
