import ScopedSql.Value.Dict

/-!
Which role wins. With a priority, the highest rank wins and ranked roles go before unranked ones;
without one, the greatest number among the roles wins. Among equals, and where nothing tells the
roles apart, the first one wins. A priority that callers describe has integers for ranks; a
ready-made one may rank by any values, and two ranks that cannot be compared are a misuse.
-/

set_option autoImplicit false

namespace ScopedSql

structure Priority where
  ranks : Value

namespace Priority

def ofEntries (entries : List (String × Int)) : Priority :=
  ⟨.dict (Dict.ofEntries (entries.map fun entry => (.text entry.1, .int entry.2)))⟩

def descending : List String → List (String × Int)
  | [] => []
  | role :: rest => (role, (rest.length : Int) + 1) :: descending rest

/-- The priority of a list of roles, the highest first; the last place of a role counts. -/
def ofOrder (roles : List String) : Priority :=
  ofEntries (descending roles)

def toValue (p : Priority) : Value :=
  .record .priority [("ranks", p.ranks)]

def ofRecord? : Value → Option Priority
  | .record .priority [(_, ranks)] => some ⟨ranks⟩
  | _ => none

def readEntry (entry : Value × Value) : Except Fault (String × Int) := do
  return (← entry.1.written, ← entry.2.toInt)

/-- The priority that a value is or describes: ranks by role, or roles in order. -/
def ofValue (x : Value) : Except Fault (Option Priority) :=
  match ofRecord? x, x with
  | some p, _ => .ok (some p)
  | none, .null => .ok none
  | none, .dict entries => do
    return some (ofEntries (← entries.mapM readEntry))
  | none, x => do
    return some (ofOrder (← (← x.elements).mapM Value.written))

/-- The rank of a role; a rank that is nothing is none. -/
def rank? (p : Priority) (role : Value) : Except Fault (Option Value) :=
  match p.ranks with
  | .dict entries =>
    if role.isKey then
      match Dict.get? entries role with
      | none | some .null => .ok none
      | some rank => .ok (some rank)
    else Value.misused .wrongType
  | ranks => ranks.lacking "get"

end Priority

namespace Role

def isBelow (x y : Value) : Except Fault Bool :=
  match x.isBelow? y with
  | some below => .ok below
  | none => Value.misused .wrongType

/-- The first of the roles with the greatest measure, after the best so far; roles without a
measure are passed over. -/
def bestFrom {α : Type} (measure : α → Except Fault (Option Value)) :
    Option (α × Value) → List α → Except Fault (Option α)
  | best, [] => .ok (best.map (·.1))
  | best, role :: rest => do
    match ← measure role, best with
    | none, best => bestFrom measure best rest
    | some n, none => bestFrom measure (some (role, n)) rest
    | some n, some (winner, m) =>
      bestFrom measure (some (if ← isBelow m n then (role, n) else (winner, m))) rest

/-- The number that a role is named by, if its name is one. Only names of characters or bytes can
be asked for it. -/
def number? (role : Value) : Except Fault (Option Value) :=
  let numbered (name : Value) : Option Value := name.toInt.toOption.map Value.int
  match role with
  | .text s => .ok (numbered (.text (Text.trim s)))
  | .member m => .ok (numbered (.text (Text.trim m.word)))
  | .bytes bs => .ok (numbered (.bytes bs))
  | role => role.lacking "strip"

def measure (priority : Option Priority) (role : Value) : Except Fault (Option Value) :=
  match priority with
  | some p => p.rank? role
  | none => number? role

def winner (candidates : List String) (priority : Option Priority) :
    Except Fault (Option String) := do
  let best ← bestFrom (fun role => measure priority (.text role)) none candidates
  return best.orElse fun _ => candidates.head?

/-- The first of a collection of candidates, where they can be told apart by position. -/
def first (candidates : Value) : Except Fault Value :=
  match candidates with
  | .dict entries =>
    match Dict.get? entries (.int 0) with
    | some x => .ok x
    | none => Value.misused .missingKey
  | .set _ | .frozenSet _ | .record .. => Value.misused .wrongType
  | candidates => do return (← candidates.elements).headD .null

/-- The winner among candidates of any type, none if none are given. A candidate that is nothing
never wins by its rank. -/
def select (candidates : Value) (priority : Option Priority) : Except Fault Value := do
  if !candidates.isGiven then return .null
  match ← bestFrom (measure priority) none (← candidates.elements) with
  | none | some .null => first candidates
  | some role => return role

end Role

end ScopedSql
