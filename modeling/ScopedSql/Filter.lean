import ScopedSql.Value.Dict
import ScopedSql.Value.Parts
import ScopedSql.Vocabulary.Naming

/-!
Filters: a column, an operator and a value, alone or in groups that are joined by one combinator.
Groups hold plain filters only. Callers hand filters in as objects or as dictionaries; reading a
list keeps its order.
-/

set_option autoImplicit false

namespace ScopedSql

/-- One condition on a column. The column's name is checked only when it is compiled. -/
structure Filter where
  field : Value
  operator : Operator
  value : Value

structure FilterGroup where
  filters : List Filter
  combinator : Combinator

inductive FilterItem where
  | single (filter : Filter)
  | group (group : FilterGroup)

namespace Filter

def make (field operator value : Value) : Except Fault Filter := do
  return ⟨field, ← Operator.ofValue operator, value⟩

def ofParts (parts : Parts) : Except Fault Filter := do
  parts.only ["field", "operator", "value"]
  make (← parts.need "field") (parts.getD "operator" .null) (parts.getD "value" .null)

/-- The filter that a dictionary describes. The key `operator` goes before `op`. -/
def ofDict (entries : Dict) : Except Fault Filter :=
  match entries.at? "field" with
  | none => .error (.invalid .filterWithoutField)
  | some field => do
    make (.text (← field.written))
      (((entries.at? "operator").orElse fun _ => entries.at? "op").getD .null)
      ((entries.at? "value").getD .null)

def toDict (f : Filter) : Dict :=
  [(.text "field", f.field), (.text "operator", .text f.operator.word), (.text "value", f.value)]

def toValue (f : Filter) : Value :=
  .record .filter
    [("field", f.field), ("operator", .member (.operator f.operator)), ("value", f.value)]

def ofRecord? : Value → Option Filter
  | .record .filter [(_, field), (_, .member (.operator op)), (_, value)] =>
    some ⟨field, op, value⟩
  | _ => none

end Filter

namespace FilterGroup

def make (filters combinator : Value) : Except Fault FilterGroup := do
  let items ← filters.elements
  let join ← Combinator.ofValue combinator
  match items.mapM Filter.ofRecord? with
  | some filters => return ⟨filters, join⟩
  | none => .error (.invalid .groupOfOthers)

/-- The group of some filters, by themselves joined by `OR`. -/
def ofParts (parts : Parts) : Except Fault FilterGroup := do
  parts.only ["filters", "combinator"]
  make (parts.getD "filters" (.tuple []))
    (parts.getD "combinator" (.member (.combinator .or)))

def toValue (g : FilterGroup) : Value :=
  .record .filterGroup [("filters", .tuple (g.filters.map Filter.toValue)),
    ("combinator", .member (.combinator g.combinator))]

def ofRecord? : Value → Option FilterGroup
  | .record .filterGroup [(_, .tuple items), (_, .member (.combinator join))] =>
    (items.mapM Filter.ofRecord?).map fun filters => ⟨filters, join⟩
  | _ => none

end FilterGroup

namespace FilterItem

def filters : FilterItem → List Filter
  | single f => [f]
  | group g => g.filters

def toValue : FilterItem → Value
  | single f => f.toValue
  | group g => g.toValue

def ofValue (x : Value) : Except Fault FilterItem :=
  match Filter.ofRecord? x, FilterGroup.ofRecord? x, x with
  | some f, _, _ => .ok (.single f)
  | none, some g, _ => .ok (.group g)
  | none, none, .dict entries => return .single (← Filter.ofDict entries)
  | none, none, x => .error (.invalid (.unsupportedFilter x.typeName))

/-- The items of a caller's filter list, in order. A list that is not given has none. -/
def listOf (x : Value) : Except Fault (List FilterItem) :=
  if x.isGiven then do (← x.elements).mapM ofValue else .ok []

end FilterItem

end ScopedSql
