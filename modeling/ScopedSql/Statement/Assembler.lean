import ScopedSql.Options
import ScopedSql.Predicate.Where
import ScopedSql.Statement.Basic

/-!
The six statements on rows. Names are always checked and values always bound; clauses that are
not needed leave no text. Where several things are wrong, the fault is that of the part that is
compiled first: the `WHERE` clause before the projection and the table of a read, columns and
values before the table of a write.
-/

set_option autoImplicit false

namespace ScopedSql

/-- What statements are assembled for: a dialect, and rules for the operators of filters. -/
structure Assembler where
  dialect : Dialect
  rules : RuleTable

namespace Assembler

def nameSql (x : Value) : Except Fault Sql := do
  return [.name (← Identifier.ofValue x)]

def projection (fields : List Value) : Except Fault Sql := do
  if fields.isEmpty then return [.text "*"]
  else return Sql.joined ", " (← fields.mapM nameSql)

def orderTerm (term : OrderTerm) : Except Fault Sql := do
  return (← nameSql term.field) ++ [.text (" " ++ term.direction.word)]

def ordering (terms : List OrderTerm) : Except Fault Sql := do
  if terms.isEmpty then return []
  else return .text "ORDER BY " :: Sql.joined ", " (← terms.mapM orderTerm)

def paging (d : Dialect) (options : Options) : Except Fault Sql := do
  if options.limit.isNone && options.offset.isNone then return []
  else
    return [.text
      (← d.pagingClause (options.limit.map Int.ofNat) (options.offset.map Int.ofNat))]

def idPredicate (idColumn id : Value) : Except Fault Sql := do
  if !idColumn.isGiven then throw (.invalid .noIdColumn)
  if let .null := id then throw (.invalid .noId)
  return (← nameSql idColumn) ++ [.text " = ", .bound id]

def idClause (a : Assembler) (idColumn id : Value) (items : List FilterItem) :
    Except Fault Sql := do
  let first ← idPredicate idColumn id
  return Where.clause (first :: (← Where.predicates a.rules items))

def select (a : Assembler) (table : Value) (items : List FilterItem) (options : Options) :
    Except Fault Statement := do
  let scope ← Where.ofItems a.rules items
  let columns ← projection options.fields
  let name ← nameSql table
  let order ← ordering options.orderBy
  let page ← paging a.dialect options
  return .ofSql a.dialect .select table .null (.bool false)
    (Sql.spaced [[.text "SELECT"], columns, [.text "FROM"], name, scope, order, page])

def count (a : Assembler) (table : Value) (items : List FilterItem) : Except Fault Statement := do
  let scope ← Where.ofItems a.rules items
  let name ← nameSql table
  return .ofSql a.dialect .count table .null (.bool false)
    (Sql.spaced [[.text "SELECT COUNT(*) as count FROM"], name, scope])

def findById (a : Assembler) (table idColumn id : Value) (items : List FilterItem) :
    Except Fault Statement := do
  let scope ← a.idClause idColumn id items
  let name ← nameSql table
  return .ofSql a.dialect .findById table idColumn (.bool false)
    (Sql.spaced [[.text "SELECT * FROM"], name, scope, [.text "LIMIT 1"]])

/-- What an insert is to return: what was asked for, or by itself whatever the dialect can; nothing
where that is declined or the dialect cannot. -/
def returningOf (d : Dialect) (asked : Value) : Value :=
  match d.hasReturning, asked with
  | false, _ => .bool false
  | true, .null => .bool true
  | true, asked => if asked.isGiven then asked else .bool false

def insert (a : Assembler) (table : Value) (data : Dict) (asked : Value) :
    Except Fault Statement := do
  if data.isEmpty then throw (.invalid .emptyInsert)
  let columns ← data.mapM fun entry => nameSql entry.1
  let name ← nameSql table
  let returning := returningOf a.dialect asked
  return .ofSql a.dialect .insert table .null returning
    (Sql.spaced
      [[.text "INSERT INTO"], name,
        .text "(" :: Sql.joined ", " columns ++ [.text ")"], [.text "VALUES"],
        Test.valueTuple (data.map (·.2)),
        if returning.isGiven then [.text "RETURNING *"] else []])

def assignment (entry : Value × Value) : Except Fault Sql := do
  return (← nameSql entry.1) ++ [.text " = ", .bound entry.2]

def update (a : Assembler) (table idColumn id : Value) (data : Dict) (items : List FilterItem) :
    Except Fault Statement := do
  if data.isEmpty then throw (.invalid .emptyUpdate)
  let sets ← data.mapM assignment
  let scope ← a.idClause idColumn id items
  let name ← nameSql table
  return .ofSql a.dialect .update table idColumn (.bool false)
    (Sql.spaced [[.text "UPDATE"], name, [.text "SET"], Sql.joined ", " sets, scope])

def delete (a : Assembler) (table idColumn id : Value) (items : List FilterItem) :
    Except Fault Statement := do
  let scope ← a.idClause idColumn id items
  let name ← nameSql table
  return .ofSql a.dialect .delete table idColumn (.bool false)
    (Sql.spaced [[.text "DELETE FROM"], name, scope])

end Assembler

end ScopedSql
