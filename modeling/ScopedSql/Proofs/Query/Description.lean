import ScopedSql.Access
import ScopedSql.Proofs.Filter
import ScopedSql.Proofs.Keys
import ScopedSql.Proofs.Query.Builders

/-! Filters and options described by dictionaries.

A dictionary that was written for a filter or for options is read back as what it was written for,
if the fields that it names are texts. Callers may therefore hand in either form, for the options
and for each filter of a list by itself, and get the same clause and the same statement.
-/

set_option autoImplicit false

namespace ScopedSql

theorem Operator.ofValue_word (op : Operator) : ofValue (.text op.word) = .ok op := by
  cases op <;> rfl

theorem SortDirection.ofValue_word (direction : SortDirection) :
    ofValue (.text direction.word) = direction := by
  cases direction <;> rfl

namespace Dict

theorem at?_append (entries others : Dict) (name : String) :
    (entries ++ others).at? name = (entries.at? name).or (others.at? name) := by
  induction entries with
  | nil => rfl
  | cons entry rest ih =>
    rw [List.cons_append, at?_cons, at?_cons, ih]
    split <;> rfl

theorem at?_singleton (key name : String) (x : Value) :
    at? [(.text key, x)] name = if key = name then some x else none :=
  at?_cons_text key name x []

theorem at?_unless (absent : Bool) (key name : String) (x : Value) :
    at? (if absent then [] else [(.text key, x)]) name =
      if key = name ∧ absent = false then some x else none := by
  cases absent with
  | true => simp [at?, get?]
  | false => simp [at?_singleton]

theorem at?_toList {α : Type} (value : α → Value) (key name : String) (x : Option α) :
    at? (x.map fun x => (Value.text key, value x)).toList name =
      if key = name then x.map value else none := by
  cases x with
  | none => simp [at?, get?]
  | some x => simp [at?_singleton]

end Dict

/-! ## Filters -/

namespace Filter

/-- Whether the field is a text, which is how dictionaries give it. -/
def HasName (f : Filter) : Prop :=
  ∃ name, f.field = .text name

theorem ofDict_toDict {f : Filter} (named : f.HasName) : ofDict f.toDict = .ok f := by
  obtain ⟨name, field⟩ := named
  have written : f.field.written = .ok name := by rw [field, Value.written_text]
  have read : ofDict f.toDict = .ok ⟨.text name, f.operator, f.value⟩ := by
    simp [ofDict, toDict, Dict.at?_cons_text, make, Operator.ofValue_word, written]
    rfl
  rw [read, ← field]

end Filter

/-! ## Options -/

namespace OrderTerm

def HasName (term : OrderTerm) : Prop :=
  ∃ name, term.field = .text name

theorem ofRecord?_toValue (term : OrderTerm) : ofRecord? term.toValue = some term :=
  rfl

theorem ofValue_toDict {term : OrderTerm} (named : term.HasName) :
    ofValue (.dict term.toDict) = .ok term := by
  obtain ⟨name, field⟩ := named
  have written : term.field.written = .ok name := by rw [field, Value.written_text]
  simp [ofValue, ofRecord?, ofDict, toDict, Dict.at?_cons_text, make,
    SortDirection.ofValue_word, written, ← field]

end OrderTerm

namespace Options

variable {o : Options}

def HasNames (o : Options) : Prop :=
  ∀ term ∈ o.orderBy, term.HasName

theorem at?_toDict (o : Options) (name : String) :
    o.toDict.at? name =
      ((((if "order_by" = name ∧ o.orderBy.isEmpty = false then
        some (Value.list (o.orderBy.map fun term => .dict term.toDict)) else none).or
      (if "limit" = name then o.limit.map fun n => .int n else none)).or
      (if "offset" = name then o.offset.map fun n => .int n else none)).or
      (if "select_fields" = name ∧ o.fields.isEmpty = false then some (.list o.fields)
        else none)) := by
  simp only [toDict, Dict.at?_append, Dict.at?_unless, Dict.at?_toList]

/-- The collection that is read where a list was written unless it was empty. -/
def readBack (xs : List Value) : Value :=
  if xs.isEmpty then .tuple [] else .list xs

theorem elements_readBack (xs : List Value) : (readBack xs).elements = .ok xs := by
  cases xs <;> rfl

theorem asText?_readBack (xs : List Value) : (readBack xs).asText? = none := by
  cases xs <;> rfl

theorem givenAt_orderBy (o : Options) :
    givenAt o.toDict "order_by" "orderBy" =
      readBack (o.orderBy.map fun term => .dict term.toDict) := by
  cases terms : o.orderBy <;> simp [givenAt, at?_toDict, terms, Value.isGiven, readBack]

theorem givenAt_fields (o : Options) :
    givenAt o.toDict "select_fields" "select" = readBack o.fields := by
  cases fields : o.fields <;> simp [givenAt, at?_toDict, fields, Value.isGiven, readBack]

theorem ofDict_toDict (named : o.HasNames) : ofDict o.toDict = .ok o := by
  have orderings : (o.orderBy.map fun term => Value.dict term.toDict).mapM OrderTerm.ofValue =
      .ok o.orderBy := by
    rw [Except.mapM_eq_ok, List.forall₂_map_left_iff, List.forall₂_same]
    exact fun term member => OrderTerm.ofValue_toDict (named term member)
  have limit : (o.toDict.at? "limit").getD .null = countValue o.limit := by
    simp [at?_toDict, countValue]
  have offset : (o.toDict.at? "offset").getD .null = countValue o.offset := by
    simp [at?_toDict, countValue]
  have columns : (if (readBack o.fields).asText?.isSome then Value.tuple [readBack o.fields]
      else readBack o.fields).elements = .ok o.fields := by
    simp only [asText?_readBack, Option.isSome_none, Bool.false_eq_true, if_false,
      elements_readBack]
  have made : make (.tuple (o.orderBy.map fun term => .dict term.toDict)) (countValue o.limit)
      (countValue o.offset) (.tuple o.fields) = .ok o := by
    rw [make_tuple orderings, readCount_countValue, readCount_countValue]
    rfl
  simp only [ofDict, limit, offset, givenAt_orderBy, givenAt_fields, elements_readBack, columns]
  exact made

theorem ofDescription_toDict (named : o.HasNames) :
    ofDescription (.dict o.toDict) = .ok o := by
  have read := ofDict_toDict named
  cases entries : o.toDict with
  | nil =>
    rw [entries] at read
    exact read
  | cons => rwa [entries] at read

end Options

/-! ## Either form -/

/-- The values that an item of a filter list may be handed in as: the item itself, and for a filter
of a text its dictionary. -/
inductive FilterItem.Given : FilterItem → Value → Prop where
  | object (item : FilterItem) : Given item item.toValue
  | dictionary {f : Filter} (named : f.HasName) : Given (.single f) (.dict f.toDict)

inductive Options.Given : Options → Value → Prop where
  | object (o : Options) : Given o o.toValue
  | dictionary {o : Options} (named : o.HasNames) : Given o (.dict o.toDict)

theorem FilterItem.ofValue_given {item : FilterItem} {x : Value} (given : item.Given x) :
    ofValue x = .ok item := by
  cases given with
  | object => exact ofValue_toValue item
  | dictionary named =>
    have read := Filter.ofDict_toDict named
    simp only [ofValue, Filter.ofRecord?, FilterGroup.ofRecord?, read]
    rfl

theorem FilterItem.listOf_given {items : List FilterItem} {xs : List Value}
    (given : List.Forall₂ Given items xs) : listOf (.list xs) = .ok items := by
  rw [listOf_list, Except.mapM_eq_ok]
  exact given.flip.imp fun _ _ => ofValue_given

theorem Options.ofRecord?_toValue (o : Options) : ofRecord? o.toValue = some o := by
  have terms := mapM_of_read_back OrderTerm.ofRecord?_toValue o.orderBy
  have count : ∀ n : Option Nat, ofRecord?.count? (countValue n) = n := by
    intro n
    cases n <;> rfl
  simp [toValue, ofRecord?, orderingsValue, terms, count]

theorem Request.readOptions_given {o : Options} {x : Value} (given : o.Given x) :
    readOptions x = .ok o := by
  cases given with
  | object => rw [readOptions, Options.ofRecord?_toValue]
  | dictionary named => exact Options.ofDescription_toDict named

theorem StatementOrder.ofParts_select (table filters : Value) {options : Value} {o : Options}
    (read : Options.ofDescription options = .ok o) :
    ofParts "select" [("table", table), ("filters", filters), ("options", options)] =
      .ok (.select table filters o) := by
  have shaped : Options.ofDescription (Parts.getD [("table", table), ("filters", filters),
      ("options", options)] "options" .null) = .ok o := read
  rw [ofParts, shaped]
  rfl

/-- A dictionary that was written for options or for a filter reads back as these, and in place of
any filters of a list and of the options it gives the same clause, statement and request. -/
theorem dictionary_forms_round_trip [Check] :
    (∀ o : Options, o.HasNames →
      Options.ofDict o.toDict = .ok o ∧ Options.ofDescription (.dict o.toDict) = .ok o) ∧
    (∀ f : Filter, f.HasName → Filter.ofDict f.toDict = .ok f) ∧
    ∀ (items : List FilterItem) (xs : List Value), List.Forall₂ FilterItem.Given items xs →
      (∀ (params : Parameters) (rules : RuleTable),
        (FilterItem.listOf (.list xs)).map (params.whereClause rules) =
          .ok (params.whereClause rules items)) ∧
      (∀ (a : Assembler) (table : Value) (o : Options), o.HasNames →
        a.compile (.select table (.list xs) o) = a.select table items o ∧
        (StatementOrder.ofParts "select"
            [("table", table), ("filters", .list xs), ("options", .dict o.toDict)] >>= a.compile) =
          a.select table items o) ∧
      ∀ (table tenantId context inputs idColumn : Value) (o : Options) (x : Value), o.Given x →
        Request.make table (.list xs) x tenantId context inputs idColumn =
          Request.make table (.list (items.map FilterItem.toValue)) o.toValue tenantId context
            inputs idColumn := by
  refine ⟨fun o named => ⟨Options.ofDict_toDict named, Options.ofDescription_toDict named⟩,
    fun f named => Filter.ofDict_toDict named, fun items xs given => ?_⟩
  have filters := FilterItem.listOf_given given
  have compiled : ∀ (a : Assembler) (table : Value) (o : Options),
      a.compile (.select table (.list xs) o) = a.select table items o := by
    intro a table o
    rw [Assembler.compile, filters]
    rfl
  refine ⟨fun params rules => ?_, fun a table o named => ⟨compiled a table o, ?_⟩,
    fun table tenantId context inputs idColumn o x shaped => ?_⟩
  · rw [filters]
    rfl
  · rw [StatementOrder.ofParts_select table _ (Options.ofDescription_toDict named)]
    exact compiled a table o
  · rw [Request.make, Request.make, filters, FilterItem.listOf_toValue,
      Request.readOptions_given shaped, Request.readOptions_given (.object o)]

/-- A page of no rows ordered downwards by a name with a minus in front, and a filter beside a
group, all but the group as dictionaries. -/
theorem page_and_filter_read_back_from_dictionaries :
    let page : Options := ⟨[⟨.text "-age", .descending⟩], some 0, none, [.text "id"]⟩
    let owned : Filter := ⟨.text "owner", .notIn, .list []⟩
    let shared : FilterItem := .group ⟨[⟨.text "shared", .eq, .bool true⟩], .or⟩
    Options.ofDict page.toDict = .ok page ∧ Filter.ofDict owned.toDict = .ok owned ∧
      (StatementOrder.ofParts "select" [("table", .text "docs"),
          ("filters", .list [.dict owned.toDict, shared.toValue]),
          ("options", .dict page.toDict)] >>= Assembler.compile ⟨.postgres, .standard⟩) =
        Assembler.select ⟨.postgres, .standard⟩ (.text "docs") [.single owned, shared] page := by
  intro page owned shared
  have settled := dictionary_forms_round_trip
  have names : page.HasNames := by
    simp only [page, Options.HasNames, List.mem_singleton, forall_eq]
    exact ⟨"-age", rfl⟩
  have named : owned.HasName := ⟨"owner", rfl⟩
  have given : List.Forall₂ FilterItem.Given [.single owned, shared]
      [.dict owned.toDict, shared.toValue] :=
    .cons (.dictionary named) (.cons (.object shared) .nil)
  exact ⟨(settled.1 page names).1, settled.2.1 owned named,
    ((settled.2.2 _ _ given).2.1 ⟨.postgres, .standard⟩ (.text "docs") page names).2⟩

end ScopedSql
