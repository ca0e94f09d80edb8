import ScopedSql.Number.Double
import ScopedSql.Vocabulary

/-!
The values that callers hand in: filter values, record ids, payloads, contexts and whole requests
arrive without a fixed type. A value is a scalar, a collection, a member of a vocabulary, or a
record: an object of the domain that was built before. A dictionary keeps its entries in order, and
a set its elements in the order in which they are iterated.
-/

set_option autoImplicit false

namespace ScopedSql

inductive RecordKind where
  | filter | filterGroup | sort | options
  | user | context | condition | constraint | restriction
  | tenancy | priority | reference
  | column (hasDefault : Bool)
  | postgresProfile | mysqlProfile | sqliteProfile
  deriving DecidableEq, Repr

namespace RecordKind

def title : RecordKind → String
  | filter => "Filter" | filterGroup => "FilterGroup" | sort => "SortField"
  | options => "QueryOptions"
  | user => "UserContext" | context => "RequestContext" | condition => "RLSCondition"
  | constraint => "ConditionMetadata" | restriction => "RestrictionGroup"
  | tenancy => "TenancyConfig" | priority => "RolePriority" | column _ => "ColumnDefinition"
  | reference => "ForeignKeyReference"
  | postgresProfile => "PostgresDialect" | mysqlProfile => "MySQLDialect"
  | sqliteProfile => "SQLiteDialect"

/-- Whether records of the kind are checked models, which can be walked field by field. -/
def isModel : RecordKind → Bool
  | user | context | condition | constraint | restriction | tenancy | column _ | reference => true
  | filter | filterGroup | sort | options | priority => false
  | postgresProfile | mysqlProfile | sqliteProfile => false

def userAttributes : List String := ["id", "roles", "department"]

def isAdded (kind : RecordKind) (name : String) : Bool :=
  kind = user && !userAttributes.contains name

/-- Whether records of two kinds are compared field by field. Two objects of a dialect are never
the same, since a dialect has no fields of its own. -/
def isComparable : RecordKind → RecordKind → Bool
  | column _, column _ => true
  | postgresProfile, _ | mysqlProfile, _ | sqliteProfile, _ => false
  | kind, kind' => kind = kind'

end RecordKind

/-- A value, as callers hand it in and as statements bind it. Objects that are only passed on, such
as decimals, dates and unique ids, are left out, and so are iterators, which can be walked only
once. -/
inductive Value where
  | null
  | bool (b : Bool)
  | int (n : Int)
  | double (x : Double)
  | text (s : String)
  | bytes (bs : List UInt8)
  | list (items : List Value)
  | tuple (items : List Value)
  | set (items : List Value)
  | frozenSet (items : List Value)
  | dict (entries : List (Value × Value))
  | member (m : Member)
  | record (kind : RecordKind) (fields : List (String × Value))
  deriving Inhabited

namespace Value

def typeName : Value → String
  | null => "NoneType"
  | bool _ => "bool"
  | int _ => "int"
  | double _ => "float"
  | text _ => "str"
  | bytes _ => "bytes"
  | list _ => "list"
  | tuple _ => "tuple"
  | set _ => "set"
  | frozenSet _ => "frozenset"
  | dict _ => "dict"
  | member m => m.title
  | record kind _ => kind.title

def asText? : Value → Option String
  | text s => some s
  | member m => some m.word
  | _ => none

/-- Whether a value counts as given: nothing, zero and whatever is empty do not. -/
def isGiven : Value → Bool
  | null => false
  | bool b => b
  | int n => n ≠ 0
  | double x => !x.isZero
  | text s => s ≠ ""
  | bytes bs => !bs.isEmpty
  | list items | tuple items | set items | frozenSet items => !items.isEmpty
  | dict entries => !entries.isEmpty
  | member _ | record .. => true

def ofText? : Option String → Value
  | some s => text s
  | none => null

end Value

end ScopedSql
