import ScopedSql.Dialect.Basic
import ScopedSql.Model.Check

/-!
Columns of a table to be made, as models: a name, a type and what else is asked of the column. A
default that is given as nothing differs from no default.
-/

set_option autoImplicit false

namespace ScopedSql

variable [Check]

structure Reference where
  table : String
  column : String
  onDelete : Option ReferentialAction
  onUpdate : Option ReferentialAction

structure Column where
  name : String
  type : ColumnType
  nullable : Bool
  unique : Bool
  primaryKey : Bool
  autoIncrement : Bool
  default : Option Value
  references : Option Reference

namespace Reference

def actionValue (action : Option ReferentialAction) : Value :=
  (action.map fun a => Value.member (.action a)).getD .null

def action? : Value → Option ReferentialAction
  | .member (.action a) => some a
  | _ => none

def toValue (r : Reference) : Value :=
  .record .reference [("table", .text r.table), ("column", .text r.column),
    ("on_delete", actionValue r.onDelete), ("on_update", actionValue r.onUpdate)]

def ofRecord? : Value → Option Reference
  | .record .reference [(_, .text table), (_, .text column), (_, onDelete), (_, onUpdate)] =>
    some ⟨table, column, action? onDelete, action? onUpdate⟩
  | _ => none

def ofSettings (es : Dict) : Checked Reference :=
  Reference.mk
    <$> Check.required es "table" Check.text
    <*> Check.optional es "column" "id" Check.text
    <*> Check.optional es "on_delete" none (Checked.orNull Check.member)
    <*> Check.optional es "on_update" none (Checked.orNull Check.member)

def check (x : Value) : Checked Reference :=
  Check.model ofRecord? ofSettings x

end Reference

namespace Column

/-- A column as a value. Its kind tells a default that is missing from one that is nothing. -/
def toValue (c : Column) : Value :=
  .record (.column c.default.isSome) [("name", .text c.name),
    ("type", .member (.columnType c.type)), ("nullable", .bool c.nullable),
    ("unique", .bool c.unique), ("primary_key", .bool c.primaryKey),
    ("auto_increment", .bool c.autoIncrement), ("default", c.default.getD .null),
    ("references", (c.references.map Reference.toValue).getD .null)]

def ofRecord? : Value → Option Column
  | .record (.column hasDefault) [(_, .text name), (_, .member (.columnType type)),
      (_, .bool nullable), (_, .bool unique), (_, .bool primaryKey), (_, .bool autoIncrement),
      (_, default), (_, references)] =>
    some ⟨name, type, nullable, unique, primaryKey, autoIncrement,
      if hasDefault then some default else none, Reference.ofRecord? references⟩
  | _ => none

def ofSettings (es : Dict) : Checked Column :=
  Column.mk
    <$> Check.required es "name" Check.text
    <*> Check.optional es "type" .string Check.member
    <*> Check.optional es "nullable" true Check.flag
    <*> Check.optional es "unique" false Check.flag
    <*> Check.aliased es "primaryKey" "primary_key" false Check.flag
    <*> Check.aliased es "autoIncrement" "auto_increment" false Check.flag
    <*> Checked.valid (es.at? "default")
    <*> Check.optional es "references" none (Checked.orNull Reference.check)

def check (x : Value) : Checked Column :=
  Check.model ofRecord? ofSettings x

end Column

end ScopedSql
