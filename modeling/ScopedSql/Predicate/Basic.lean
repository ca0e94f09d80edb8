import ScopedSql.Filter
import ScopedSql.Sql

/-!
What the operators of filters say in SQL. An operator and a value give a test, and a test of a
column is a predicate: a comparison with one bound value, membership in a list of bound values, or
a null check. Membership in an empty list needs no column: it is `1=0`, and its negation `1=1`.
-/

set_option autoImplicit false

namespace ScopedSql

inductive Comparison where
  | eq | neq | gt | lt | gte | lte | like
  deriving DecidableEq, Repr

def Comparison.symbol : Comparison → String
  | eq => "=" | neq => "!=" | gt => ">" | lt => "<" | gte => ">=" | lte => "<=" | like => "LIKE"

inductive Test where
  | compare (comparison : Comparison) (value : Value)
  | isIn (values : List Value)
  | notIn (values : List Value)
  | isNull
  | isNotNull

namespace Test

/-- The values of a list to be a member of: nothing is the empty list and a scalar a list of one;
sets are put in an order of their own, and dictionaries are refused. -/
def valueList : Value → Except Fault (List Value)
  | .null => .ok []
  | .dict entries => .error (.invalid (.mappingAsSet (Value.typeName (.dict entries))))
  | .set items | .frozenSet items => Value.arranged items
  | .list items | .tuple items => .ok items
  | .record kind fields =>
    .ok ((Value.elements? (.record kind fields)).getD [.record kind fields])
  | x => .ok [x]

/-- A value as part of a pattern; nothing is the empty text. -/
def patternText : Value → Except Fault String
  | .null => .ok ""
  | x => x.written

def pattern (opening : String) (value : Value) (closing : String) : Except Fault Test := do
  return .compare .like (.text (opening ++ (← patternText value) ++ closing))

def ofOperator (op : Operator) (value : Value) : Except Fault Test :=
  match op with
  | .eq => .ok (.compare .eq value)
  | .neq => .ok (.compare .neq value)
  | .gt => .ok (.compare .gt value)
  | .lt => .ok (.compare .lt value)
  | .gte => .ok (.compare .gte value)
  | .lte => .ok (.compare .lte value)
  | .like => .ok (.compare .like value)
  | .contains => pattern "%" value "%"
  | .startsWith => pattern "" value "%"
  | .endsWith => pattern "%" value ""
  | .isIn => (valueList value).map .isIn
  | .notIn => (valueList value).map .notIn
  | .isNull => .ok .isNull
  | .isNotNull => .ok .isNotNull

def valueTuple (values : List Value) : Sql :=
  .text "(" :: Sql.joined ", " (values.map fun value => [.bound value]) ++ [.text ")"]

def sql (column : Sql) : Test → Sql
  | compare comparison value => column ++ [.text (" " ++ comparison.symbol ++ " "), .bound value]
  | isIn [] => [.text "1=0"]
  | isIn values => column ++ .text " IN " :: valueTuple values
  | notIn [] => [.text "1=1"]
  | notIn values => column ++ .text " NOT IN " :: valueTuple values
  | isNull => column ++ [.text " IS NULL"]
  | isNotNull => column ++ [.text " IS NOT NULL"]

end Test

end ScopedSql
