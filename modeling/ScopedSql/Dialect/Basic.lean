import ScopedSql.Identifier
import ScopedSql.Text.LetterCase

/-!
The three dialects of SQL and what differs between them: the quote of a name, the form of a
placeholder, the paging clause, the types of columns and their defaults.
-/

set_option autoImplicit false

namespace ScopedSql

inductive Dialect where
  | postgres | mysql | sqlite
  deriving DecidableEq, Repr, Inhabited

namespace Dialect

def name : Dialect → String
  | postgres => "postgres"
  | mysql => "mysql"
  | sqlite => "sqlite"

def quoteMark : Dialect → String
  | mysql => "`"
  | postgres | sqlite => "\""

def hasReturning : Dialect → Bool
  | postgres => true
  | mysql | sqlite => false

def hasSchemas : Dialect → Bool
  | postgres | mysql => true
  | sqlite => false

def quote (d : Dialect) (name : Identifier) : String :=
  name.quoted d.quoteMark

def placeholder (d : Dialect) (position : Int) : String :=
  match d with
  | postgres => "$" ++ toString (position + 1)
  | mysql | sqlite => "?"

/-- The placeholder of a position that a caller gives. Where placeholders are numbered the position
has to be a number, and the next one has to be short enough to be written. -/
def placeholderAt (d : Dialect) (position : Value) : Except Fault String :=
  match d, position.asNumber? with
  | postgres, some (.int n) =>
    if Numeral.isShort (n + 1) then .ok (d.placeholder n) else Value.misused .unreadable
  | postgres, some (.double x) => .ok ("$" ++ (x.add (Double.ofInt 1)).text)
  | postgres, none => Value.misused .wrongType
  | mysql, _ | sqlite, _ => .ok (d.placeholder 0)

/-- The greatest number of rows, for a limit that stands only before an offset. -/
def allRows : Int := 18446744073709551615

/-- The limit that stands before an offset where none was asked for. -/
def limitBeforeOffset : Dialect → Option Int
  | postgres => none
  | mysql => some allRows
  | sqlite => some (-1)

/-- The text of a limit and an offset; where an offset needs a limit before it, one that keeps all
rows is put in. -/
def pagingText (d : Dialect) (limit offset : Option Int) : String :=
  let limit := if limit.isNone && offset.isSome then d.limitBeforeOffset else limit
  String.intercalate " "
    ((limit.map fun n => "LIMIT " ++ toString n).toList ++
      (offset.map fun n => "OFFSET " ++ toString n).toList)

def pagingClause (d : Dialect) (limit offset : Option Int) : Except Fault String :=
  if limit.all Numeral.isShort && offset.all Numeral.isShort then .ok (d.pagingText limit offset)
  else Value.misused .unreadable

/-- The paging clause for a limit and an offset that a caller gives; nothing asks for none. -/
def pagingClauseOf (d : Dialect) (limit offset : Value) : Except Fault String := do
  let limit ← read limit
  let offset ← read offset
  d.pagingClause limit offset
where
  read : Value → Except Fault (Option Int)
    | .null => .ok none
    | x => x.toInt.map some

def typeName : Dialect → ColumnType → String
  | postgres, .string | mysql, .string => "VARCHAR(255)"
  | sqlite, .string => "TEXT"
  | _, .text => "TEXT"
  | postgres, .integer | sqlite, .integer => "INTEGER"
  | mysql, .integer => "INT"
  | postgres, .boolean | mysql, .boolean => "BOOLEAN"
  | sqlite, .boolean => "INTEGER"
  | postgres, .date | mysql, .date => "DATE"
  | sqlite, .date => "TEXT"
  | postgres, .datetime => "TIMESTAMP"
  | mysql, .datetime => "DATETIME"
  | sqlite, .datetime => "TEXT"
  | postgres, .json => "JSONB"
  | mysql, .json => "JSON"
  | sqlite, .json => "TEXT"
  | postgres, .uuid => "UUID"
  | mysql, .uuid => "VARCHAR(36)"
  | sqlite, .uuid => "TEXT"

/-- The type for a type's word in any letter case; other words are written in capitals. -/
def typeNamed (d : Dialect) (word : String) : String :=
  let key := Text.small word
  match Vocabulary.ofWord? (α := ColumnType) key with
  | some type => d.typeName type
  | none => Text.capital key

def boolText (d : Dialect) (b : Bool) : String :=
  match d with
  | sqlite => if b then "1" else "0"
  | postgres | mysql => if b then "TRUE" else "FALSE"

def stringLiteral (s : String) : String :=
  String.ofList
    ('\'' :: s.toList.flatMap (fun c => if c = '\'' then ['\'', '\''] else [c]) ++ ['\''])

/-- The text of a column default: numbers and truth values as they are, the current time in any
letter case by its keyword, every other value as the literal of its plain text. -/
def defaultText (d : Dialect) (x : Value) : String :=
  let inCapitals := x.asText?.map Text.capital
  if inCapitals = some "CURRENT_TIMESTAMP" then "CURRENT_TIMESTAMP"
  else match x with
    | .null => "NULL"
    | .bool b => d.boolText b
    | .int _ | .double _ => x.literal
    | _ => stringLiteral x.plain

def defaultClause (d : Dialect) (x : Value) : Except Fault String :=
  if x.isWritable then .ok (d.defaultText x) else Value.misused .unreadable

/-- What makes a column count up by itself, where the dialect has a clause for it. -/
def autoIncrement? : Dialect → Option String
  | postgres => some "GENERATED ALWAYS AS IDENTITY"
  | mysql => some "AUTO_INCREMENT"
  | sqlite => none

def toValue : Dialect → Value
  | postgres => .record .postgresProfile []
  | mysql => .record .mysqlProfile []
  | sqlite => .record .sqliteProfile []

def ofName? (name : String) : Option Dialect :=
  [postgres, mysql, sqlite].find? fun d => d.name = name

def ofRecord? : Value → Option Dialect
  | .record .postgresProfile _ => some postgres
  | .record .mysqlProfile _ => some mysql
  | .record .sqliteProfile _ => some sqlite
  | _ => none

end Dialect

end ScopedSql
