import ScopedSql.Predicate.RuleTable

/-!
From filter lists to `WHERE` clauses. Each filter becomes one predicate and each group that has
members one parenthesised sub-clause; the predicates are joined by `AND` in the order of the list.
`Parameters` is the running list of bound values that several clauses of one text may share.
-/

set_option autoImplicit false

namespace ScopedSql

def Filter.sql (rules : RuleTable) (f : Filter) : Except Fault Sql := do
  let column ← Identifier.ofValue f.field
  rules.apply f.operator [.name column] f.value

namespace FilterGroup

/-- Predicates joined by a combinator; a single one needs no parentheses. -/
def joinedSql (join : Combinator) : List Sql → Option Sql
  | [] => none
  | [part] => some part
  | parts =>
    some (.text "(" :: Sql.joined (" " ++ join.word ++ " ") parts ++ [.text ")"])

def sql? (rules : RuleTable) (g : FilterGroup) : Except Fault (Option Sql) := do
  return joinedSql g.combinator (← g.filters.mapM fun f => f.sql rules)

end FilterGroup

def FilterItem.sql? (rules : RuleTable) : FilterItem → Except Fault (Option Sql)
  | single f => return some (← f.sql rules)
  | group g => g.sql? rules

namespace Where

def predicates (rules : RuleTable) (items : List FilterItem) : Except Fault (List Sql) := do
  return (← items.mapM fun item => item.sql? rules).filterMap id

/-- The clause of some predicates; no predicates need no clause. -/
def clause : List Sql → Sql
  | [] => []
  | parts => .text "WHERE " :: Sql.joined " AND " parts

def ofItems (rules : RuleTable) (items : List FilterItem) : Except Fault Sql := do
  return clause (← predicates rules items)

/-- The values that a list binds before the first filter that cannot be compiled. -/
def boundBefore (rules : RuleTable) : List Filter → List Value
  | [] => []
  | f :: rest =>
    match f.sql rules with
    | .ok sql => sql.values ++ boundBefore rules rest
    | .error _ => []

end Where

structure Parameters where
  dialect : Dialect
  values : List Value

namespace Parameters

/-- Appends the values of a piece of text and renders it at their positions. -/
def write (params : Parameters) (sql : Sql) : String × Parameters :=
  (sql.render params.dialect params.values.length,
    { params with values := params.values ++ sql.values })

def writeAll (params : Parameters) : List Sql → List String × Parameters
  | [] => ([], params)
  | sql :: rest =>
    let (text, params) := params.write sql
    let (texts, params) := params.writeAll rest
    (text :: texts, params)

def add (params : Parameters) (value : Value) : String × Parameters :=
  params.write [.bound value]

def extend (params : Parameters) (values : List Value) : List String × Parameters :=
  params.writeAll (values.map fun value => [.bound value])

/-- Compiles filters with `build` and renders the result with `write`. If a filter cannot be
compiled, the values of the ones before it stay bound. -/
def compile {α β : Type} (params : Parameters) (rules : RuleTable) (filters : List Filter)
    (build : Except Fault α) (write : Parameters → α → β × Parameters) :
    Except Fault β × Parameters :=
  match build with
  | .ok sql =>
    let (text, params) := write params sql
    (.ok text, params)
  | .error fault =>
    (.error fault,
      { params with values := params.values ++ Where.boundBefore rules filters })

def predicates (params : Parameters) (rules : RuleTable) (items : List FilterItem) :
    Except Fault (List String) × Parameters :=
  params.compile rules (items.flatMap FilterItem.filters) (Where.predicates rules items) writeAll

def whereClause (params : Parameters) (rules : RuleTable) (items : List FilterItem) :
    Except Fault String × Parameters :=
  params.compile rules (items.flatMap FilterItem.filters) (Where.ofItems rules items) write

def group (params : Parameters) (rules : RuleTable) (g : FilterGroup) :
    Except Fault (Option String) × Parameters :=
  params.compile rules g.filters (g.sql? rules) fun params sql =>
    match sql with
    | none => (none, params)
    | some sql =>
      let (text, params) := params.write sql
      (some text, params)

end Parameters

end ScopedSql
