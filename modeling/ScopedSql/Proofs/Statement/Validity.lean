import ScopedSql.Proofs.Filter
import ScopedSql.Proofs.Identifier
import ScopedSql.Proofs.Number.Display
import ScopedSql.Proofs.Predicate.Atom
import ScopedSql.Proofs.Statement.Assembly
import ScopedSql.Proofs.Value.Arrangement
import ScopedSql.Statement.Order

/-! When a statement can be compiled.

Each part of a statement is admitted under two conditions of its own: it has to be valid, and what
is to be written of it has to be writable. A part that is not valid is refused with a complaint
about a name or a value; one that is too long to be written is a misuse. As the parts are compiled
one after the other, a statement is admitted just if all its parts are, in whatever order they come.
-/

set_option autoImplicit false

namespace ScopedSql

/-- A complaint about what was given: a name that is none, or what is not valid. -/
def Fault.isRefusal : Fault → Bool
  | invalidIdentifier .. | invalid _ => true
  | _ => false

/-- A computation that succeeds just if something is valid and can be written. If it fails, either
it refuses what is not valid, or it is a misuse by what cannot be written. -/
structure Admits {α : Type} (x : Except Fault α) (valid writable : Prop) : Prop where
  ok_iff : (∃ a, x = .ok a) ↔ valid ∧ writable
  failure : ∀ fault, x = .error fault →
    fault.isRefusal ∧ ¬valid ∨ fault = .misuse .unreadable ∧ ¬writable

namespace Admits

variable {α β : Type} {p p' q q' : Prop}

theorem ok (a : α) : Admits (.ok a) True True :=
  ⟨⟨fun _ => ⟨trivial, trivial⟩, fun _ => ⟨a, rfl⟩⟩, fun _ same => by cases same⟩

theorem refused (fault : Fault) (refusal : fault.isRefusal) :
    Admits (.error fault : Except Fault α) False q :=
  ⟨⟨fun ⟨_, same⟩ => (by cases same), fun both => both.1.elim⟩,
    fun _ same => .inl ⟨Except.error.inj same ▸ refusal, id⟩⟩

theorem of_iff {x : Except Fault α} (admits : Admits x p q) (valid : p' ↔ p) (writable : q' ↔ q) :
    Admits x p' q' := by
  rw [valid, writable]
  exact admits

theorem bind {x : Except Fault α} {next : α → Except Fault β} (first : Admits x p q)
    (rest : ∀ a, x = .ok a → Admits (next a) p' q') : Admits (x >>= next) (p ∧ p') (q ∧ q') := by
  cases x with
  | error fault =>
    have failed : ¬(p ∧ q) := fun both => by
      obtain ⟨_, same⟩ := first.ok_iff.mpr both
      cases same
    refine ⟨⟨fun ⟨_, same⟩ => (by cases same), fun both => ?_⟩, ?_⟩
    · exact absurd ⟨both.1.1, both.2.1⟩ failed
    · rintro _ ⟨⟩
      exact (first.failure fault rfl).imp (And.imp_right fun refuted both => refuted both.1)
        (And.imp_right fun refuted both => refuted both.1)
  | ok a =>
    obtain ⟨valid, writable⟩ := first.ok_iff.mp ⟨a, rfl⟩
    exact (rest a rfl).of_iff (and_iff_right valid) (and_iff_right writable)

-- What is left of a computation that only rearranges its result.
theorem pure {x : Except Fault α} (admits : Admits x p q) (f : α → β) :
    Admits (x >>= fun a => Pure.pure (f a)) p q :=
  (admits.bind fun a _ => ok (f a)).of_iff (and_iff_left trivial).symm (and_iff_left trivial).symm

theorem mapM {xs : List α} {f : α → Except Fault β} {valid writable : α → Prop}
    (each : ∀ x, Admits (f x) (valid x) (writable x)) :
    Admits (xs.mapM f) (∀ x ∈ xs, valid x) (∀ x ∈ xs, writable x) := by
  induction xs with
  | nil => exact (ok []).of_iff (by simp) (by simp)
  | cons x xs ih =>
    rw [List.mapM_cons]
    exact ((each x).bind fun y _ => ih.pure (y :: ·)).of_iff List.forall_mem_cons
      List.forall_mem_cons

end Admits

/-! ## Values -/

namespace Value

theorem admits_written (x : Value) : Admits x.written True x.isWritable := by
  refine ⟨?_, fun fault failed => .inr ?_⟩
  · simp only [written_eq_ok, true_and]
    exact ⟨fun ⟨_, writable, _⟩ => writable, fun writable => ⟨_, writable, rfl⟩⟩
  · obtain ⟨unwritable, rfl⟩ := written_eq_error.mp failed
    simp [unwritable]

/-- Whether elements of a set can be put in an order: those that cannot be sorted have to be
written for it. -/
def CanArrange (items : List Value) : Prop :=
  sorted? items = none → ∀ x ∈ items, x.isWritable

theorem admits_arranged (items : List Value) : Admits (arranged items) True (CanArrange items) := by
  have fails : (∃ fault, arranged items = .error fault) ↔ ¬CanArrange items := by
    simp only [arranged_eq_error, CanArrange, exists_and_left, exists_eq, and_true, not_forall,
      exists_prop]
  refine ⟨?_, fun fault failed => .inr ⟨?_, fails.mp ⟨fault, failed⟩⟩⟩
  · cases settled : arranged items with
    | ok bound =>
      have passes : CanArrange items := by
        by_contra refuted
        obtain ⟨fault, failed⟩ := fails.mpr refuted
        cases settled.symm.trans failed
      simp [passes]
    | error fault => simp [fails.mp ⟨fault, settled⟩]
  · exact (arranged_eq_error.mp failed).2.2

end Value

/-! ## Names and filters -/

theorem Identifier.admits_ofText (s : String) : Admits (ofText s) (Dotted s) True := by
  refine ⟨?_, fun fault failed => .inl ?_⟩
  · rw [and_true]
    exact ofText_eq_ok_iff
  · have invalid : ¬Dotted s := by
      rw [← ofText_eq_ok_iff, failed]
      simp
    rw [ofText] at failed
    split at failed
    · cases failed
    · cases failed
      exact ⟨rfl, invalid⟩

theorem Identifier.admits_ofValue (x : Value) :
    Admits (ofValue x) (Dotted x.plain) x.isWritable := by
  refine (x.admits_written.bind fun s written => ?_).of_iff (true_and _).symm.to_iff
    (and_true _).symm.to_iff
  rw [(Value.written_eq_ok.mp written).2]
  exact admits_ofText s

def Operator.isPattern (op : Operator) : Bool :=
  op = .contains || op = .startsWith || op = .endsWith

/-- A filter on a column with a name, by an operator that takes the value. -/
structure Filter.Valid (f : Filter) : Prop where
  named : Identifier.Dotted f.field.plain
  taken : f.operator = .isIn ∨ f.operator = .notIn → ∀ entries, f.value ≠ .dict entries

structure Operator.CanWrite (op : Operator) (value : Value) : Prop where
  pattern : op.isPattern → value.isWritable
  members : op = .isIn ∨ op = .notIn → ∀ items, value = .set items ∨ value = .frozenSet items →
    Value.CanArrange items

/-- Whether what is written of a filter can be written: its column, and its value so far as the
operator writes it. -/
structure Filter.Writable (f : Filter) : Prop where
  named : f.field.isWritable
  value : f.operator.CanWrite f.value

namespace Test

theorem admits_valueList (value : Value) :
    Admits (valueList value) (∀ entries, value ≠ .dict entries)
      (∀ items, value = .set items ∨ value = .frozenSet items → Value.CanArrange items) := by
  cases value with
  | dict entries => exact (Admits.refused _ rfl).of_iff (by simp) Iff.rfl
  | set items | frozenSet items =>
    exact (Value.admits_arranged items).of_iff (by simp) (by simp)
  | _ => exact (Admits.ok _).of_iff (by simp) (by simp)

theorem admits_pattern (opening : String) (value : Value) (closing : String) :
    Admits (pattern opening value closing) True value.isWritable := by
  have text : Admits (patternText value) True value.isWritable := by
    cases value with
    | null => exact (Admits.ok "").of_iff Iff.rfl (by simp [Value.isWritable])
    | _ => exact Value.admits_written _
  exact text.pure _

theorem admits_ofOperator (op : Operator) (value : Value) : Admits (ofOperator op value)
    (op = .isIn ∨ op = .notIn → ∀ entries, value ≠ .dict entries) (op.CanWrite value) := by
  have writes : op.CanWrite value ↔ (op.isPattern → value.isWritable) ∧
      (op = .isIn ∨ op = .notIn → ∀ items, value = .set items ∨ value = .frozenSet items →
        Value.CanArrange items) :=
    ⟨fun can => ⟨can.pattern, can.members⟩, fun can => ⟨can.1, can.2⟩⟩
  cases op with
  | isIn | notIn =>
    exact ((admits_valueList value).pure _).of_iff (by simp) (by simp [writes, Operator.isPattern])
  | contains | startsWith | endsWith =>
    exact (admits_pattern _ value _).of_iff (by simp) (by simp [writes, Operator.isPattern])
  | _ => exact (Admits.ok _).of_iff (by simp) (by simp [writes, Operator.isPattern])

end Test

theorem Filter.admits_sql (f : Filter) : Admits (f.sql .standard) f.Valid f.Writable := by
  have tests : ∀ name : Identifier,
      Admits (RuleTable.standard.apply f.operator [.name name] f.value)
      (f.operator = .isIn ∨ f.operator = .notIn → ∀ entries, f.value ≠ .dict entries)
      (f.operator.CanWrite f.value) := by
    intro name
    rw [RuleTable.standard_apply]
    exact (Test.admits_ofOperator f.operator f.value).pure _
  refine ((Identifier.admits_ofValue f.field).bind fun name _ => tests name).of_iff ?_ ?_
  · exact ⟨fun valid => ⟨valid.named, valid.taken⟩, fun valid => ⟨valid.1, valid.2⟩⟩
  · exact ⟨fun can => ⟨can.named, can.value⟩, fun can => ⟨can.1, can.2⟩⟩

theorem FilterItem.admits_sql? (item : FilterItem) : Admits (item.sql? .standard)
    (∀ f ∈ item.filters, f.Valid) (∀ f ∈ item.filters, f.Writable) := by
  cases item with
  | single f => exact (f.admits_sql.pure some).of_iff (by simp [filters]) (by simp [filters])
  | group g => exact (Admits.mapM Filter.admits_sql).pure _

namespace Where

variable (items : List FilterItem)

def IsValid : Prop :=
  ∀ f ∈ items.flatMap FilterItem.filters, f.Valid

def IsWritable : Prop :=
  ∀ f ∈ items.flatMap FilterItem.filters, f.Writable

theorem forall_filters {p : Filter → Prop} : (∀ f ∈ items.flatMap FilterItem.filters, p f) ↔
    ∀ item ∈ items, ∀ f ∈ item.filters, p f := by
  simp only [List.mem_flatMap]
  exact ⟨fun all item member f within => all f ⟨item, member, within⟩,
    fun all f ⟨item, member, within⟩ => all item member f within⟩

theorem admits_predicates :
    Admits (predicates .standard items) (IsValid items) (IsWritable items) :=
  ((Admits.mapM FilterItem.admits_sql?).pure _).of_iff (forall_filters items)
    (forall_filters items)

theorem admits_ofItems : Admits (ofItems .standard items) (IsValid items) (IsWritable items) :=
  (admits_predicates items).pure clause

end Where

/-! ## Statements -/

namespace Assembler

theorem admits_nameSql (x : Value) :
    Admits (nameSql x) (Identifier.Dotted x.plain) x.isWritable :=
  (Identifier.admits_ofValue x).pure _

theorem admits_projection (fields : List Value) : Admits (projection fields)
    (∀ x ∈ fields, Identifier.Dotted x.plain) (∀ x ∈ fields, x.isWritable) := by
  cases fields with
  | nil => exact (Admits.ok _).of_iff (by simp) (by simp)
  | cons x rest => exact (Admits.mapM admits_nameSql).pure _

theorem admits_orderTerm (term : OrderTerm) :
    Admits (orderTerm term) (Identifier.Dotted term.field.plain) term.field.isWritable :=
  (admits_nameSql term.field).pure _

theorem admits_ordering (terms : List OrderTerm) : Admits (ordering terms)
    (∀ term ∈ terms, Identifier.Dotted term.field.plain)
    (∀ term ∈ terms, term.field.isWritable) := by
  cases terms with
  | nil => exact (Admits.ok _).of_iff (by simp) (by simp)
  | cons term rest => exact (Admits.mapM admits_orderTerm).pure _

theorem admits_paging (d : Dialect) (options : Options) :
    Admits (paging d options) True options.isShort := by
  rw [paging_eq]
  cases short : options.isShort with
  | true => exact (Admits.ok _).of_iff Iff.rfl (by simp)
  | false =>
    refine ⟨by simp [Value.misused], fun fault failed => .inr ?_⟩
    cases failed
    simp

/-- What picks a record: a column that is given by a name, and an id. -/
def Picks (idColumn id : Value) : Prop :=
  (idColumn.isGiven ∧ id ≠ .null) ∧ Identifier.Dotted idColumn.plain

theorem admits_idPredicate (idColumn id : Value) :
    Admits (idPredicate idColumn id) (Picks idColumn id) idColumn.isWritable := by
  unfold idPredicate Picks
  cases idColumn.isGiven with
  | false => exact (Admits.refused (.invalid .noIdColumn) rfl).of_iff (by simp) Iff.rfl
  | true =>
    cases id with
    | null => exact (Admits.refused (.invalid .noId) rfl).of_iff (by simp) Iff.rfl
    | _ => exact ((admits_nameSql idColumn).pure _).of_iff (by simp) Iff.rfl

theorem admits_assignment (entry : Value × Value) :
    Admits (assignment entry) (Identifier.Dotted entry.1.plain) entry.1.isWritable :=
  (admits_nameSql entry.1).pure _

variable (d : Dialect) (table idColumn id : Value) (items : List FilterItem)

theorem admits_idClause : Admits (idClause ⟨d, .standard⟩ idColumn id items)
    (Picks idColumn id ∧ Where.IsValid items) (idColumn.isWritable ∧ Where.IsWritable items) :=
  (admits_idPredicate idColumn id).bind fun _ _ => (Where.admits_predicates items).pure _

theorem admits_select (options : Options) : Admits (select ⟨d, .standard⟩ table items options)
    (Where.IsValid items ∧ (∀ x ∈ options.fields, Identifier.Dotted x.plain) ∧
      Identifier.Dotted table.plain ∧
        (∀ term ∈ options.orderBy, Identifier.Dotted term.field.plain) ∧ True)
    (Where.IsWritable items ∧ (∀ x ∈ options.fields, x.isWritable) ∧ table.isWritable ∧
        (∀ term ∈ options.orderBy, term.field.isWritable) ∧ options.isShort) :=
  (Where.admits_ofItems items).bind fun _ _ => (admits_projection options.fields).bind fun _ _ =>
    (admits_nameSql table).bind fun _ _ => (admits_ordering options.orderBy).bind fun _ _ =>
      (admits_paging d options).pure _

theorem admits_count : Admits (count ⟨d, .standard⟩ table items)
    (Where.IsValid items ∧ Identifier.Dotted table.plain)
    (Where.IsWritable items ∧ table.isWritable) :=
  (Where.admits_ofItems items).bind fun _ _ => (admits_nameSql table).pure _

theorem admits_findById : Admits (findById ⟨d, .standard⟩ table idColumn id items)
    ((Picks idColumn id ∧ Where.IsValid items) ∧ Identifier.Dotted table.plain)
    ((idColumn.isWritable ∧ Where.IsWritable items) ∧ table.isWritable) :=
  (admits_idClause d idColumn id items).bind fun _ _ => (admits_nameSql table).pure _

theorem admits_delete : Admits (delete ⟨d, .standard⟩ table idColumn id items)
    ((Picks idColumn id ∧ Where.IsValid items) ∧ Identifier.Dotted table.plain)
    ((idColumn.isWritable ∧ Where.IsWritable items) ∧ table.isWritable) :=
  (admits_idClause d idColumn id items).bind fun _ _ => (admits_nameSql table).pure _

theorem admits_update (data : Dict) : Admits (update ⟨d, .standard⟩ table idColumn id data items)
    (data ≠ [] ∧ (∀ entry ∈ data, Identifier.Dotted entry.1.plain) ∧
      (Picks idColumn id ∧ Where.IsValid items) ∧ Identifier.Dotted table.plain)
    ((∀ entry ∈ data, entry.1.isWritable) ∧
      (idColumn.isWritable ∧ Where.IsWritable items) ∧ table.isWritable) := by
  cases data with
  | nil => exact (Admits.refused _ rfl).of_iff (by simp) Iff.rfl
  | cons entry rest =>
    refine Admits.of_iff ((Admits.mapM admits_assignment).bind fun _ _ =>
      (admits_idClause d idColumn id items).bind fun _ _ => (admits_nameSql table).pure _) ?_
        Iff.rfl
    simp

theorem admits_insert (data : Dict) (asked : Value) :
    Admits (insert ⟨d, .standard⟩ table data asked)
      (data ≠ [] ∧ (∀ entry ∈ data, Identifier.Dotted entry.1.plain) ∧
        Identifier.Dotted table.plain)
      ((∀ entry ∈ data, entry.1.isWritable) ∧ table.isWritable) := by
  cases data with
  | nil => exact (Admits.refused _ rfl).of_iff (by simp) Iff.rfl
  | cons entry rest =>
    have column : ∀ entry : Value × Value,
        Admits (nameSql entry.1) (Identifier.Dotted entry.1.plain) entry.1.isWritable :=
      fun entry => admits_nameSql entry.1
    refine Admits.of_iff ((Admits.mapM column).bind fun _ _ => (admits_nameSql table).pure _) ?_
      Iff.rfl
    simp

end Assembler

/-! ## Orders -/

/-- A statement that is asked for with filters and groups, and with entries for a payload. -/
inductive TypedOrder where
  | select (table : Value) (items : List FilterItem) (options : Options)
  | count (table : Value) (items : List FilterItem)
  | findById (table idColumn id : Value) (items : List FilterItem)
  | insert (table : Value) (data : Dict) (asked : Value)
  | update (table idColumn id : Value) (data : Dict) (items : List FilterItem)
  | delete (table idColumn id : Value) (items : List FilterItem)

namespace TypedOrder

def listValue (items : List FilterItem) : Value :=
  .list (items.map FilterItem.toValue)

def order : TypedOrder → StatementOrder
  | select table items options => .select table (listValue items) options
  | count table items => .count table (listValue items)
  | findById table idColumn id items => .findById table idColumn id (listValue items)
  | insert table data asked => .insert table (.dict data) asked
  | update table idColumn id data items => .update table idColumn id (.dict data) (listValue items)
  | delete table idColumn id items => .delete table idColumn id (listValue items)

def filters : TypedOrder → List Filter
  | select _ items _ | count _ items | findById _ _ _ items | update _ _ _ _ items
  | delete _ _ _ items => items.flatMap FilterItem.filters
  | insert .. => []

def payload? : TypedOrder → Option Dict
  | insert _ data _ | update _ _ _ data _ => some data
  | select .. | count .. | findById .. | delete .. => none

def record? : TypedOrder → Option (Value × Value)
  | findById _ idColumn id _ | update _ idColumn id _ _ | delete _ idColumn id _ =>
    some (idColumn, id)
  | select .. | count .. | insert .. => none

/-- All that is to name a table or a column, but for the columns of filters. -/
def names : TypedOrder → List Value
  | select table _ options => table :: options.fields ++ options.orderBy.map OrderTerm.field
  | count table _ => [table]
  | findById table idColumn _ _ | delete table idColumn _ _ => [table, idColumn]
  | insert table data _ => table :: data.map (·.1)
  | update table idColumn _ data _ => table :: idColumn :: data.map (·.1)

def options? : TypedOrder → Option Options
  | select _ _ options => some options
  | count .. | findById .. | insert .. | update .. | delete .. => none

structure Valid (order : TypedOrder) : Prop where
  named : ∀ x ∈ order.names ++ order.filters.map Filter.field, Identifier.Dotted x.plain
  taken : ∀ f ∈ order.filters, f.operator = .isIn ∨ f.operator = .notIn →
    ∀ entries, f.value ≠ .dict entries
  filled : ∀ data, order.payload? = some data → data ≠ []
  picked : ∀ idColumn id, order.record? = some (idColumn, id) → idColumn.isGiven ∧ id ≠ .null

/-- Whether all that is written for a statement, and not bound, can be written: names, patterns,
numbers of a page, and elements of a set that only their literals put in an order. -/
structure Writable (order : TypedOrder) : Prop where
  named : ∀ x ∈ order.names ++ order.filters.map Filter.field, x.isWritable
  values : ∀ f ∈ order.filters, f.operator.CanWrite f.value
  paged : ∀ options, order.options? = some options → options.isShort

theorem valid_iff {order : TypedOrder} : order.Valid ↔
    ((∀ x ∈ order.names, Identifier.Dotted x.plain) ∧ ∀ f ∈ order.filters, f.Valid) ∧
      (∀ data, order.payload? = some data → data ≠ []) ∧
      ∀ idColumn id, order.record? = some (idColumn, id) → idColumn.isGiven ∧ id ≠ .null := by
  constructor
  · intro valid
    have named := List.forall_mem_append.mp valid.named
    have fields := List.forall_mem_map.mp named.2
    exact ⟨⟨named.1, fun f member => ⟨fields f member, valid.taken f member⟩⟩, valid.filled,
      valid.picked⟩
  · rintro ⟨⟨named, filters⟩, filled, picked⟩
    refine ⟨List.forall_mem_append.mpr ⟨named, List.forall_mem_map.mpr ?_⟩, ?_, filled, picked⟩
    · exact fun f member => (filters f member).named
    · exact fun f member => (filters f member).taken

theorem writable_iff {order : TypedOrder} : order.Writable ↔
    ((∀ x ∈ order.names, x.isWritable) ∧ ∀ f ∈ order.filters, f.Writable) ∧
      ∀ options, order.options? = some options → options.isShort := by
  constructor
  · intro writable
    have named := List.forall_mem_append.mp writable.named
    have fields := List.forall_mem_map.mp named.2
    exact ⟨⟨named.1, fun f member => ⟨fields f member, writable.values f member⟩⟩, writable.paged⟩
  · rintro ⟨⟨named, filters⟩, paged⟩
    refine ⟨List.forall_mem_append.mpr ⟨named, List.forall_mem_map.mpr ?_⟩, ?_, paged⟩
    · exact fun f member => (filters f member).named
    · exact fun f member => (filters f member).value

theorem listOf_listValue (items : List FilterItem) :
    FilterItem.listOf (listValue items) = .ok items :=
  FilterItem.listOf_toValue items

-- The filters are read once the id is admitted, and come out as they were.
theorem admits_afterId {idColumn id : Value} {items : List FilterItem}
    {next : List FilterItem → Except Fault Statement} {p q : Prop}
    (rest : Admits (next items) p q) :
    Admits (Assembler.filtersAfterId idColumn id (listValue items) >>= next)
      (Assembler.Picks idColumn id ∧ p) (idColumn.isWritable ∧ q) := by
  rw [Assembler.filtersAfterId, listOf_listValue]
  refine ((Assembler.admits_idPredicate idColumn id).pure fun _ => items).bind ?_
  intro read same
  obtain ⟨_, _, same⟩ := Except.bind_eq_ok.mp same
  obtain rfl := Except.pure_eq_ok.mp same
  exact rest

theorem admits_compile (d : Dialect) (order : TypedOrder) :
    Admits (Assembler.compile ⟨d, .standard⟩ order.order) order.Valid order.Writable := by
  refine Admits.of_iff ?_ valid_iff writable_iff
  cases order with
  | select table items options =>
    rw [TypedOrder.order, Assembler.compile, listOf_listValue]
    refine (Assembler.admits_select d table items options).of_iff ?_ ?_
    · simp [Where.IsValid, names, filters, payload?, record?, or_imp, forall_and]
      tauto
    · simp [Where.IsWritable, names, filters, options?, or_imp, forall_and]
      tauto
  | count table items =>
    rw [TypedOrder.order, Assembler.compile, listOf_listValue]
    refine (Assembler.admits_count d table items).of_iff ?_ ?_
    · simp [Where.IsValid, names, filters, payload?, record?]
      tauto
    · simp [Where.IsWritable, names, filters, options?]
      tauto
  | findById table idColumn id items =>
    refine (admits_afterId (Assembler.admits_findById d table idColumn id items)).of_iff ?_ ?_
    · simp [Where.IsValid, Assembler.Picks, names, filters, payload?, record?]
      tauto
    · simp [Where.IsWritable, names, filters, options?]
      tauto
  | insert table data asked =>
    cases data with
    | nil =>
      exact (Admits.refused (.invalid .emptyInsert) rfl).of_iff (by simp [payload?]) Iff.rfl
    | cons entry rest =>
      refine (Assembler.admits_insert d table (entry :: rest) asked).of_iff ?_ ?_
      · simp [names, filters, payload?, record?]
        tauto
      · simp [names, filters, options?]
        tauto
  | update table idColumn id data items =>
    cases data with
    | nil =>
      exact (Admits.refused (.invalid .emptyUpdate) rfl).of_iff (by simp [payload?]) Iff.rfl
    | cons entry rest =>
      refine Admits.of_iff ((Admits.mapM Assembler.admits_assignment).bind fun _ _ =>
        admits_afterId (Assembler.admits_update d table idColumn id items (entry :: rest))) ?_ ?_
      · simp [Where.IsValid, Assembler.Picks, names, filters, payload?, record?]
        tauto
      · simp [Where.IsWritable, names, filters, options?]
        tauto
  | delete table idColumn id items =>
    refine (admits_afterId (Assembler.admits_delete d table idColumn id items)).of_iff ?_ ?_
    · simp [Where.IsValid, Assembler.Picks, names, filters, payload?, record?]
      tauto
    · simp [Where.IsWritable, names, filters, options?]
      tauto

end TypedOrder

/-- A statement is compiled just if all names of its tables and columns are dotted segments, no
membership is in a dictionary, what is to be written has an entry, and what picks a record has a
column and an id, and if all that goes into its text can be written. Whatever else is asked for is
refused with a complaint about a name or a value, or is a misuse by an integer that is too long. -/
theorem statement_compiles_iff_valid (d : Dialect) (order : TypedOrder) :
    ((∃ s, Assembler.compile ⟨d, .standard⟩ order.order = .ok s) ↔
      order.Valid ∧ order.Writable) ∧
    ∀ fault, Assembler.compile ⟨d, .standard⟩ order.order = .error fault →
      ((∃ name segment, fault = .invalidIdentifier name segment) ∨
          ∃ cause, fault = .invalid cause) ∧ ¬order.Valid ∨
        fault = .misuse .unreadable ∧ ¬order.Writable := by
  obtain ⟨ok_iff, failure⟩ := TypedOrder.admits_compile d order
  refine ⟨ok_iff, fun fault failed => (failure fault failed).imp_left ?_⟩
  rintro ⟨refusal, invalid⟩
  refine ⟨?_, invalid⟩
  cases fault with
  | invalidIdentifier name segment => exact .inl ⟨name, segment, rfl⟩
  | invalid cause => exact .inr ⟨cause, rfl⟩
  | _ => cases refusal

/-- A select with a limit of one digit more than can be written is valid, and is neither compiled
nor refused. -/
theorem select_with_long_limit_is_misuse :
    let order : TypedOrder :=
      .select (.text "t") [] { Options.empty with limit := some (10 ^ Numeral.digitLimit) }
    order.Valid ∧
      Assembler.compile ⟨.sqlite, .standard⟩ order.order = .error (.misuse .unreadable) := by
  have limit : Numeral.isShort ((10 ^ Numeral.digitLimit : ℕ) : ℤ) = false := by
    rw [Nat.cast_pow]
    exact Numeral.isShort_limit
  generalize 10 ^ Numeral.digitLimit = n at limit
  intro order
  have long : ¬order.Writable := by
    intro writable
    have short := writable.paged _ rfl
    simp [Options.isShort, Options.empty, limit] at short
  have named : Identifier.Dotted "t" := Identifier.ofText_eq_ok_iff.mp ⟨_, rfl⟩
  have valid : order.Valid := by
    refine ⟨?_, ?_, ?_, ?_⟩
    · simpa [order, TypedOrder.names, TypedOrder.filters, Options.empty, Value.plain] using named
    · simp [order, TypedOrder.filters]
    · simp [order, TypedOrder.payload?]
    · simp [order, TypedOrder.record?]
  refine ⟨valid, ?_⟩
  obtain ⟨ok_iff, failure⟩ := TypedOrder.admits_compile .sqlite order
  cases compiled : Assembler.compile ⟨.sqlite, .standard⟩ order.order with
  | ok s => exact absurd (ok_iff.mp ⟨s, compiled⟩).2 long
  | error fault =>
    rcases failure fault compiled with ⟨_, invalid⟩ | ⟨rfl, _⟩
    · exact absurd valid invalid
    · rfl

end ScopedSql
