import ScopedSql.Predicate.Basic

/-!
The table of rules that turn operators into predicates. The standard table has a rule for every
operator; a host may take rules out and put its own in. A rule that replaces another keeps its
place.
-/

set_option autoImplicit false

namespace ScopedSql

abbrev Rule := Sql → Value → Except Fault Sql

def Rule.standard (op : Operator) : Rule := fun column value => do
  return (← Test.ofOperator op value).sql column

structure RuleTable where
  entries : List (Operator × Rule)

namespace RuleTable

def empty : RuleTable := ⟨[]⟩

def standardOrder : List Operator :=
  [.eq, .neq, .gt, .lt, .gte, .lte, .like, .isIn, .notIn, .contains, .startsWith, .endsWith,
    .isNull, .isNotNull]

def standard : RuleTable :=
  ⟨standardOrder.map fun op => (op, Rule.standard op)⟩

def operators (rules : RuleTable) : List Operator :=
  rules.entries.map (·.1)

def find? (rules : RuleTable) (op : Operator) : Option Rule :=
  rules.entries.lookup op

/-- Enters a rule, in the place of an earlier one for the operator. -/
def register (rules : RuleTable) (op : Operator) (rule : Rule) : RuleTable :=
  if rules.operators.contains op then
    ⟨rules.entries.map fun entry => if entry.1 = op then (op, rule) else entry⟩
  else ⟨rules.entries ++ [(op, rule)]⟩

def unregister (rules : RuleTable) (op : Operator) : RuleTable :=
  ⟨rules.entries.filter fun entry => entry.1 ≠ op⟩

def unsupported (rules : RuleTable) (given : Value) : Fault :=
  .unsupportedOperator given (rules.operators.map fun op => .text op.word)

def apply (rules : RuleTable) (op : Operator) (column : Sql) (value : Value) : Except Fault Sql :=
  match rules.find? op with
  | some rule => rule column value
  | none => .error (rules.unsupported (.text op.word))

/-- The same for an operator named by a value: a member, or a text that is its word. The fault
shows the value that another object stands for, or else the plain text, which is written in either
case. -/
def applyNamed (rules : RuleTable) (name : Value) (column : Sql) (value : Value) :
    Except Fault Sql :=
  if !name.isKey then Value.misused .wrongType
  else match name.asText?.bind (Vocabulary.ofWord? (α := Operator)) with
    | some op => rules.apply op column value
    | none => do
      let word ← name.written
      throw (rules.unsupported ((name.attribute? "value").getD (.text word))).raised

end RuleTable

end ScopedSql
