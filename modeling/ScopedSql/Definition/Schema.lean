import ScopedSql.Definition.Column
import ScopedSql.Statement.Assembler

/-!
Statements on the database itself: tables made from columns, schemas made, dropped and listed, and
questions to the catalog. Names are checked as everywhere; the catalog is asked by bound values.
-/

set_option autoImplicit false

namespace ScopedSql.Definition

open Assembler (nameSql)

/-- Statements that only define or ask; they belong to no table unless one is named. -/
def statement (d : Dialect) (kind : StatementKind) (table : Value) (body : Sql) : Statement :=
  .ofSql d kind table .null (.bool false) body

def word (asked : Bool) (s : String) : Sql :=
  if asked then [.text s] else []

def defaultSql (d : Dialect) : Option Value → Except Fault Sql
  | some x => return [.text ("DEFAULT " ++ (← d.defaultClause x))]
  | none => return []

/-- One column. A primary key needs no `NOT NULL` of its own. -/
def columnSql (d : Dialect) (c : Column) : Except Fault Sql := do
  let name ← nameSql (.text c.name)
  let default ← defaultSql d c.default
  return Sql.spaced [name, [.text (d.typeNamed c.type.word)],
    if c.autoIncrement then (d.autoIncrement?.map fun s => [Piece.text s]).getD [] else [],
    default,
    word (!c.nullable && !c.primaryKey) "NOT NULL",
    word c.unique "UNIQUE",
    word c.primaryKey "PRIMARY KEY"]

def actionSql (event : String) (action : Option ReferentialAction) : Sql :=
  match action with
  | some a => [.text ("ON " ++ event ++ " " ++ a.word)]
  | none => []

def foreignKeySql (name : String) (r : Reference) : Except Fault Sql := do
  let column ← nameSql (.text name)
  let table ← nameSql (.text r.table)
  let target ← nameSql (.text r.column)
  return Sql.spaced [
    .text "FOREIGN KEY (" :: column ++ [.text ")"],
    .text "REFERENCES " :: table ++ .text "(" :: target ++ [.text ")"],
    actionSql "DELETE" r.onDelete, actionSql "UPDATE" r.onUpdate]

def foreignKeys (columns : List Column) : Except Fault (List Sql) :=
  (columns.filterMap fun c => c.references.map fun r => (c.name, r)).mapM
    fun (name, r) => foreignKeySql name r

def createTable (d : Dialect) (table : Value) (columns : List Column) (ifNotExists : Bool) :
    Except Fault Statement := do
  if columns.isEmpty then throw (.invalid .noColumns)
  let parts ← columns.mapM (columnSql d)
  let constraints ← foreignKeys columns
  let name ← nameSql table
  return statement d .definition table
    (Sql.spaced [[.text "CREATE TABLE"], word ifNotExists "IF NOT EXISTS", name,
      .text "(" :: Sql.joined ", " (parts ++ constraints) ++ [.text ")"]])

def requireSchemas (d : Dialect) : Except Fault Unit :=
  if d.hasSchemas then .ok () else .error (.invalid (.schemasUnsupported d.name))

def createSchema (d : Dialect) (schema : Value) : Except Fault Statement := do
  requireSchemas d
  let name ← nameSql schema
  let keyword := if d = .mysql then "DATABASE" else "SCHEMA"
  return statement d .definition .null
    (.text ("CREATE " ++ keyword ++ " IF NOT EXISTS ") :: name)

/-- Drops a schema, with what is in it if the dialect has to be told. -/
def dropSchema (d : Dialect) (schema : Value) (cascade : Bool) : Except Fault Statement := do
  requireSchemas d
  let name ← nameSql schema
  let keyword := if d = .mysql then "DATABASE" else "SCHEMA"
  return statement d .definition .null
    (Sql.spaced [[.text ("DROP " ++ keyword ++ " IF EXISTS")], name,
      word (cascade && d ≠ .mysql) "CASCADE"])

/-- All schemas that are not the system's own. -/
def listSchemas (d : Dialect) : Except Fault Statement := do
  requireSchemas d
  let body :=
    if d = .mysql then
      "SELECT SCHEMA_NAME AS schema_name FROM information_schema.SCHEMATA " ++
        "WHERE SCHEMA_NAME NOT IN " ++
        "('information_schema', 'mysql', 'performance_schema', 'sys')"
    else
      "SELECT schema_name FROM information_schema.schemata WHERE schema_name NOT IN " ++
        "('information_schema', 'pg_catalog', 'pg_toast')"
  return statement d .select .null [.text body]

def schemaOrPublic (schema : Value) : Value :=
  if schema.isGiven then schema else .text "public"

def tableExists (d : Dialect) (table schema : Value) : Statement :=
  statement d .select .null <|
    match d with
    | .sqlite =>
      [.text "SELECT name FROM sqlite_master WHERE type = 'table' AND name = ", .bound table,
        .text " LIMIT 1"]
    | .mysql =>
      [.text "SELECT table_name FROM information_schema.tables ",
        .text "WHERE table_schema = DATABASE() AND table_name = ", .bound table,
        .text " LIMIT 1"]
    | .postgres =>
      [.text "SELECT table_name FROM information_schema.tables WHERE table_schema = ",
        .bound (schemaOrPublic schema), .text " AND table_name = ", .bound table,
        .text " LIMIT 1"]

def tableColumns (d : Dialect) (table schema : Value) : Except Fault Statement := do
  let body ← match d with
    | .sqlite => do
      pure (.text "PRAGMA table_info(" :: (← nameSql table) ++ [.text ")"])
    | .mysql =>
      pure [.text "SELECT COLUMN_NAME AS name, DATA_TYPE AS type, ",
        .text "IS_NULLABLE = 'YES' AS nullable, COLUMN_DEFAULT AS `default` ",
        .text "FROM information_schema.columns ",
        .text "WHERE table_schema = DATABASE() AND table_name = ", .bound table,
        .text " ORDER BY ORDINAL_POSITION"]
    | .postgres =>
      pure [.text "SELECT column_name AS name, data_type AS type, ",
        .text "is_nullable = 'YES' AS nullable, column_default AS \"default\" ",
        .text "FROM information_schema.columns WHERE table_schema = ",
        .bound (schemaOrPublic schema), .text " AND table_name = ", .bound table,
        .text " ORDER BY ordinal_position"]
  return statement d .select .null body

/-- The statement of a kind from its named parts; tables are made from columns instead. -/
def ofParts (d : Dialect) (kind : String) (parts : Parts) : Except Fault Statement := do
  match kind with
  | "create_schema" =>
    parts.only ["schema"]
    createSchema d (← parts.need "schema")
  | "drop_schema" =>
    parts.only ["schema", "cascade"]
    dropSchema d (← parts.need "schema") (parts.getD "cascade" (.bool true)).isGiven
  | "list_schemas" =>
    parts.only []
    listSchemas d
  | "table_exists" =>
    parts.only ["table", "schema"]
    return tableExists d (← parts.need "table") (parts.getD "schema" .null)
  | "table_columns" =>
    parts.only ["table", "schema"]
    tableColumns d (← parts.need "table") (parts.getD "schema" .null)
  | _ => Value.misused .noSuchMember

end ScopedSql.Definition
