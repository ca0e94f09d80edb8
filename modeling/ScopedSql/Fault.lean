import ScopedSql.Text.Similarity
import ScopedSql.Value.Text

/-!
What can go wrong, as causes. A fault names what happened and carries what a caller needs to know;
`Fault.message` is its wording and `Fault.detail` its structured form. A bad model carries located
issues, and a misuse is an operation that met a value of a type it is not made for.
-/

set_option autoImplicit false

namespace ScopedSql

inductive Step where
  | key (name : String)
  | index (position : Int)
  deriving DecidableEq, Repr

inductive IssueKind where
  | missing
  | modelType | stringType | stringUnicode | boolType | boolParsing
  | floatType | floatParsing | intType | intParsing | intParsingSize | intFromFloat
  | finiteNumber
  | tupleType | listType | dictType | notMember | invalidKey
  | rejected (reason : String)
  deriving DecidableEq, Repr

def IssueKind.code : IssueKind → String
  | missing => "missing"
  | modelType => "model_type"
  | stringType => "string_type"
  | stringUnicode => "string_unicode"
  | boolType => "bool_type"
  | boolParsing => "bool_parsing"
  | floatType => "float_type"
  | floatParsing => "float_parsing"
  | intType => "int_type"
  | intParsing => "int_parsing"
  | intParsingSize => "int_parsing_size"
  | intFromFloat => "int_from_float"
  | finiteNumber => "finite_number"
  | tupleType => "tuple_type"
  | listType => "list_type"
  | dictType => "dict_type"
  | notMember => "enum"
  | invalidKey => "invalid_key"
  | rejected _ => "value_error"

structure Issue where
  place : List Step
  kind : IssueKind
  deriving DecidableEq, Repr

inductive Misuse where
  | wrongType
  | noSuchMember
  | missingKey
  | noSuchPosition
  | unreadable
  | outOfRange
  | nothingRecorded
  | interrupted
  deriving DecidableEq, Repr

inductive Invalid where
  | filterWithoutField
  | unsupportedFilter (typeName : String)
  | groupOfOthers
  | notAnInteger (name : String)
  | negative (name : String)
  | mappingAsSet (typeName : String)
  | emptyInsert
  | emptyUpdate
  | noIdColumn
  | noId
  | noColumns
  | schemasUnsupported (dialect : String)
  | notANumber (field : String)
  | belowMinimum (field : String) (bound : Double)
  | aboveMaximum (field : String) (bound : Double)
  | notAnOption (field : String) (item : Value)
  | operatorWithoutValue (field given : Value) (op : Operator)
  | noTable
  | noExecutor
  | reported (errors : Value)

namespace Invalid

def under (key : String) (message : String) : Value :=
  .dict [(.text key, .list [.text message])]

def shown : Invalid → List Value
  | notAnOption _ item => [item]
  | operatorWithoutValue field given _ => [field, given]
  | reported errors => [errors]
  | _ => []

def errors : Invalid → Value
  | filterWithoutField => under "field" "Filter is missing 'field'"
  | unsupportedFilter typeName => under "filters" ("Unsupported filter type: " ++ typeName)
  | groupOfOthers => under "filters" "Filter groups may only contain plain filters"
  | notAnInteger name => under name (name ++ " must be an integer")
  | negative name => under name (name ++ " must not be negative")
  | mappingAsSet typeName =>
    under "__root__" ("Set operators take a list of values, not a " ++ typeName)
  | emptyInsert => under "data" "Insert requires at least one column"
  | emptyUpdate => under "data" "Update requires at least one column"
  | noIdColumn => under "id_column" "An id column is required"
  | noId => under "id" "An id value is required"
  | noColumns => under "columns" "A table needs at least one column"
  | schemasUnsupported dialect => under "dialect" (dialect ++ " does not support schemas")
  | notANumber field => under field "Value must be a number"
  | belowMinimum field bound => under field ("Value must be at least " ++ bound.briefText)
  | aboveMaximum field bound => under field ("Value must be at most " ++ bound.briefText)
  | notAnOption field item => under field ("Invalid option: " ++ item.literal)
  | operatorWithoutValue field given op =>
    .dict [(field, .list [.text ("where(" ++ field.literal ++ ", " ++ given.literal ++
      ") names the " ++ Text.quoted op.word ++
      " operator without a value; pass the value as a third argument")])]
  | noTable => under "table" "No table selected; call from_() first"
  | noExecutor => under "executor" "Query scope has no executor"
  | reported errors => errors

end Invalid

/-- A fault: why an operation gave no result. What a caller gave is carried as it was given; the
names that would have been valid are texts or members. -/
inductive Fault where
  | general (args : List Value)
  | notFound (args : List Value)
  | invalidIdentifier (given segment : Value)
  | unsupportedOperator (given : Value) (valid : List Value)
  | unsupportedDialect (given : Value) (available : List Value)
  | invalid (cause : Invalid)
  | policyMismatch (roles : Value)
  | recordNotFound (table id : Value)
  | executionFailed (operation sql : Value) (cause : String)
  | badModel (issues : List Issue)
  | misuse (kind : Misuse)

namespace Fault

def nameText (x : Value) : String :=
  x.asText?.getD ""

def sortedNames (names : List Value) : List Value :=
  names.mergeSort fun x y => nameText x ≤ nameText y

def enumerated (names : List Value) : String :=
  String.intercalate ", " (names.map nameText)

def suggested (given : Value) (valid : List Value) : List Value :=
  Text.suggestions nameText given.plain valid

def unknownWord (given : String) (words : List String) : Fault :=
  .unsupportedOperator (.text given) (words.map .text)

def argumentText : List Value → String
  | [] => ""
  | [x] => x.plain
  | xs => Value.literal (.tuple xs)

def message : Fault → String
  | general args | notFound args => argumentText args
  | invalidIdentifier given _ => "Invalid identifier: " ++ given.literal
  | unsupportedOperator given valid =>
    let close := suggested given valid
    "Unsupported operator: '" ++ given.plain ++ "'." ++
      (if close.isEmpty then "" else " Did you mean: " ++ enumerated close ++ "?") ++
      " Valid operators: " ++ enumerated (sortedNames valid)
  | unsupportedDialect given available =>
    "Unsupported dialect: " ++ given.literal ++ ". Available: " ++
      enumerated (sortedNames available)
  | invalid cause => cause.errors.plain
  | policyMismatch roles => "No row restriction configured for roles " ++ roles.literal
  | recordNotFound table id => "No record found in " ++ table.plain ++ " with id=" ++ id.literal
  | executionFailed operation _ cause => "Failed to " ++ operation.plain ++ ": " ++ cause
  | badModel _ | misuse _ => ""

def shown : Fault → List Value
  | invalidIdentifier given _ | unsupportedOperator given _ | unsupportedDialect given _ => [given]
  | invalid cause => cause.shown
  | policyMismatch roles => [roles]
  | recordNotFound table id => [table, id]
  | executionFailed operation _ _ => [operation]
  | general _ | notFound _ | badModel _ | misuse _ => []

def isWritable (fault : Fault) : Bool :=
  fault.shown.all Value.isWritable

/-- What comes of raising a fault. It is worded when it is made, so that one that shows a value that
cannot be written comes to that misuse instead. -/
def raised (fault : Fault) : Fault :=
  if fault.isWritable then fault else .misuse .unreadable

def title : Fault → String
  | general _ => "RowGuardError"
  | notFound _ => "NotFoundError"
  | invalidIdentifier .. => "InvalidIdentifierError"
  | unsupportedOperator .. => "UnsupportedOperatorError"
  | unsupportedDialect .. => "UnsupportedDialectError"
  | invalid _ => "ValidationError"
  | policyMismatch _ => "PolicyMismatchError"
  | recordNotFound .. => "RecordNotFoundError"
  | executionFailed .. => "ExecutionError"
  | badModel _ => "ModelError"
  | misuse _ => "Misuse"

def detail (fault : Fault) : List (String × Value) :=
  match fault with
  | invalidIdentifier given segment =>
    [("error", .text "INVALID_IDENTIFIER"), ("identifier", given), ("segment", segment)]
  | unsupportedOperator given valid =>
    [("error", .text "UNSUPPORTED_OPERATOR"), ("operator", given),
      ("suggestions", .list (suggested given valid)),
      ("valid_operators", .list (sortedNames valid))]
  | invalid cause => [("error", .text "VALIDATION_ERROR"), ("errors", cause.errors)]
  | policyMismatch roles => [("error", .text "POLICY_MISMATCH"), ("roles", roles)]
  | recordNotFound table id =>
    [("error", .text "NOT_FOUND"), ("table", table), ("id", id)]
  | executionFailed operation _ cause =>
    [("error", .text "EXECUTION_ERROR"), ("operation", operation),
      ("message", .text cause)]
  | _ => [("error", .text fault.title), ("message", .text fault.message)]

end Fault

end ScopedSql
