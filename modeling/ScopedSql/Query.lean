import ScopedSql.Access

/-!
Queries that are built step by step. Every step gives a new query, so one query may be the base of
many. What does not change from query to query is its scope: the access and the tenant.
-/

set_option autoImplicit false

namespace ScopedSql

variable [Check]

structure Query where
  tenantId : Value
  table : Value
  filters : List FilterItem
  options : Options
  context : Context
  inputs : Dict
  idColumn : Value

namespace Query

def onTable (tenantId table : Value) : Query :=
  ⟨tenantId, table, [], .empty, .empty, [], Request.standardIdColumn⟩

def withOptions (q : Query) (parts : Parts) : Except Fault Query := do
  return { q with options := ← q.options.replaced parts }

def select (q : Query) (fields : List Value) : Except Fault Query :=
  q.withOptions [("select_fields", .tuple fields)]

def fromTable (q : Query) (table : Value) : Query :=
  { q with table }

/-- The filter of a column and one more argument. The name of a null check is that check; the name
of another operator lacks its value and is refused; everything else is compared for equality. -/
def shorthand (field given : Value) : Except Fault Filter :=
  match given.asText?, Operator.ofValue given with
  | some _, .ok op =>
    if op.takesValue then
      -- the messages are worded before they are entered under the column
      if field.isKey || !field.isWritable then
        .error (Fault.invalid (.operatorWithoutValue field given op)).raised
      else Value.misused .wrongType
    else .ok ⟨field, op, .null⟩
  | _, _ => .ok ⟨field, .eq, given⟩

/-- The text of what stands for an argument that is missing. Its address is left out. -/
def missingMark : String := "<object object>"

/-- The filter of the arguments of a condition: a ready filter, a column alone, a column and a
value, or a column, an operator and a value. Where the operator alone is missing, the mark in its
place is no operator. -/
def readFilter (field : Value) (operator value : Option Value) : Except Fault Filter :=
  match Filter.ofRecord? field, operator, value with
  | some f, _, _ => .ok f
  | none, none, none => .ok ⟨field, .eq, .null⟩
  | none, some given, none => shorthand field given
  | none, none, some _ => .error (.unknownWord missingMark (Vocabulary.words Operator))
  | none, some operator, some value => Filter.make field operator value

def addFilter (q : Query) (item : FilterItem) : Query :=
  { q with filters := q.filters ++ [item] }

def restrict (q : Query) (field : Value) (operator value : Option Value) :
    Except Fault Query := do
  return q.addFilter (.single (← readFilter field operator value))

def restrictGroup (q : Query) (filters : List Value) (combinator : Value) :
    Except Fault Query := do
  return q.addFilter (.group (← FilterGroup.make (.tuple filters) combinator))

def orderBy (q : Query) (field direction : Value) : Except Fault Query :=
  q.withOptions
    [("order_by", Options.orderingsValue (q.options.orderBy ++ [OrderTerm.make field direction]))]

def limit (q : Query) (x : Value) : Except Fault Query :=
  q.withOptions [("limit", x)]

def offset (q : Query) (x : Value) : Except Fault Query :=
  q.withOptions [("offset", x)]

def forTenant (q : Query) (tenantId : Value) : Query :=
  { q with tenantId }

def inContext (q : Query) (context inputs : Value) : Except Fault Query := do
  let context ← Context.ofValue context
  let inputs ← Request.readInputs inputs
  return { q with context, inputs }

/-- The request that a query stands for; it needs a table. -/
def toRequest (q : Query) : Except Fault Request :=
  if q.table.isGiven then
    .ok ⟨q.table, q.filters, q.options, q.tenantId, q.context, q.inputs, q.idColumn⟩
  else .error (.invalid .noTable)

def toStatement (a : Access) (q : Query) : Traced Statement := do
  let r ← q.toRequest
  let p ← a.policy r
  Statement.reported (a.select r p)

def toCountStatement (a : Access) (q : Query) : Traced Statement := do
  let r ← q.toRequest
  let p ← a.policy r
  Statement.reported (a.count r p)

end Query

end ScopedSql
