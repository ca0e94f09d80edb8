/-!
The closed vocabularies of the domain. Each member has a word, by which callers and answers name
it, and a label, which display forms show. A member can stand wherever a text can, and is then
read as its word.
-/

set_option autoImplicit false

namespace ScopedSql

inductive Operator where
  | eq | neq | gt | lt | gte | lte
  | isIn | notIn
  | like | contains | startsWith | endsWith
  | isNull | isNotNull
  deriving DecidableEq, Repr, Inhabited

inductive Combinator where
  | and | or
  deriving DecidableEq, Repr, Inhabited

inductive SortDirection where
  | ascending | descending
  deriving DecidableEq, Repr, Inhabited

inductive TenancyStrategy where
  | schema | tablePrefix | column | none
  deriving DecidableEq, Repr, Inhabited

inductive InputKind where
  | number | string
  deriving DecidableEq, Repr, Inhabited

inductive ColumnType where
  | string | text | integer | boolean | date | datetime | json | uuid
  deriving DecidableEq, Repr, Inhabited

/-- What happens to a row when the row it refers to changes. -/
inductive ReferentialAction where
  | cascade | restrict | setNull | setDefault | noAction
  deriving DecidableEq, Repr, Inhabited

class Vocabulary (α : Type) where
  title : String
  members : List α
  word : α → String
  label : α → String

namespace Vocabulary

def ofWord? {α : Type} [Vocabulary α] (s : String) : Option α :=
  (members (α := α)).find? fun member => word member = s

def words (α : Type) [Vocabulary α] : List String :=
  (members (α := α)).map word

end Vocabulary

def Operator.word : Operator → String
  | eq => "eq" | neq => "neq" | gt => "gt" | lt => "lt" | gte => "gte" | lte => "lte"
  | isIn => "in" | notIn => "nin"
  | like => "like" | contains => "contains" | startsWith => "startswith" | endsWith => "endswith"
  | isNull => "is_null" | isNotNull => "is_not_null"

instance : Vocabulary Operator where
  title := "FilterOperator"
  members := [.eq, .neq, .gt, .lt, .gte, .lte, .isIn, .notIn, .like, .contains, .startsWith,
    .endsWith, .isNull, .isNotNull]
  word := Operator.word
  label
    | .eq => "EQ" | .neq => "NEQ" | .gt => "GT" | .lt => "LT" | .gte => "GTE" | .lte => "LTE"
    | .isIn => "IN" | .notIn => "NIN"
    | .like => "LIKE" | .contains => "CONTAINS" | .startsWith => "STARTSWITH"
    | .endsWith => "ENDSWITH" | .isNull => "IS_NULL" | .isNotNull => "IS_NOT_NULL"

def Combinator.word : Combinator → String
  | and => "AND" | or => "OR"

instance : Vocabulary Combinator where
  title := "Combinator"
  members := [.and, .or]
  word := Combinator.word
  label := Combinator.word

def SortDirection.word : SortDirection → String
  | ascending => "ASC" | descending => "DESC"

instance : Vocabulary SortDirection where
  title := "SortDirection"
  members := [.ascending, .descending]
  word := SortDirection.word
  label := SortDirection.word

instance : Vocabulary TenancyStrategy where
  title := "TenancyStrategy"
  members := [.schema, .tablePrefix, .column, .none]
  word
    | .schema => "schema" | .tablePrefix => "table-prefix" | .column => "column" | .none => "none"
  label
    | .schema => "SCHEMA" | .tablePrefix => "TABLE_PREFIX" | .column => "COLUMN" | .none => "NONE"

instance : Vocabulary InputKind where
  title := "ConditionValueType"
  members := [.number, .string]
  word | .number => "number" | .string => "string"
  label | .number => "NUMBER" | .string => "STRING"

def ColumnType.word : ColumnType → String
  | string => "string" | text => "text" | integer => "integer" | boolean => "boolean"
  | date => "date" | datetime => "datetime" | json => "json" | uuid => "uuid"

instance : Vocabulary ColumnType where
  title := "LogicalType"
  members := [.string, .text, .integer, .boolean, .date, .datetime, .json, .uuid]
  word := ColumnType.word
  label
    | .string => "STRING" | .text => "TEXT" | .integer => "INTEGER" | .boolean => "BOOLEAN"
    | .date => "DATE" | .datetime => "DATETIME" | .json => "JSON" | .uuid => "UUID"

def ReferentialAction.word : ReferentialAction → String
  | cascade => "CASCADE" | restrict => "RESTRICT" | setNull => "SET NULL"
  | setDefault => "SET DEFAULT" | noAction => "NO ACTION"

instance : Vocabulary ReferentialAction where
  title := "ReferentialAction"
  members := [.cascade, .restrict, .setNull, .setDefault, .noAction]
  word := ReferentialAction.word
  label
    | .cascade => "CASCADE" | .restrict => "RESTRICT" | .setNull => "SET_NULL"
    | .setDefault => "SET_DEFAULT" | .noAction => "NO_ACTION"

inductive Member where
  | operator (op : Operator)
  | combinator (join : Combinator)
  | direction (direction : SortDirection)
  | strategy (strategy : TenancyStrategy)
  | inputKind (kind : InputKind)
  | columnType (type : ColumnType)
  | action (action : ReferentialAction)
  deriving DecidableEq, Repr

namespace Member

def word : Member → String
  | operator x => Vocabulary.word x
  | combinator x => Vocabulary.word x
  | direction x => Vocabulary.word x
  | strategy x => Vocabulary.word x
  | inputKind x => Vocabulary.word x
  | columnType x => Vocabulary.word x
  | action x => Vocabulary.word x

def title : Member → String
  | operator _ => Vocabulary.title Operator
  | combinator _ => Vocabulary.title Combinator
  | direction _ => Vocabulary.title SortDirection
  | strategy _ => Vocabulary.title TenancyStrategy
  | inputKind _ => Vocabulary.title InputKind
  | columnType _ => Vocabulary.title ColumnType
  | action _ => Vocabulary.title ReferentialAction

def name (m : Member) : String :=
  m.title ++ "." ++ match m with
    | operator x => Vocabulary.label x
    | combinator x => Vocabulary.label x
    | direction x => Vocabulary.label x
    | strategy x => Vocabulary.label x
    | inputKind x => Vocabulary.label x
    | columnType x => Vocabulary.label x
    | action x => Vocabulary.label x

end Member

end ScopedSql
