import ScopedSql.Policy.Condition

/-!
The table of roles: for each role its restrictions, in the order in which they were configured.
Only the first restriction of a role is ever applied. Roles are named by the plain text of their
keys; a name that comes twice keeps its first place and takes the later restrictions.
-/

set_option autoImplicit false

namespace ScopedSql

variable [Check]

structure RoleTable where
  entries : List (String × List Restriction)

namespace RoleTable

def empty : RoleTable := ⟨[]⟩

def put (role : String) (restrictions : List Restriction) :
    List (String × List Restriction) → List (String × List Restriction)
  | [] => [(role, restrictions)]
  | entry :: rest =>
    if entry.1 = role then (role, restrictions) :: rest
    else entry :: put role restrictions rest

def ofEntries (entries : List (String × List Restriction)) : RoleTable :=
  ⟨entries.foldl (fun table entry => put entry.1 entry.2 table) []⟩

def roles (table : RoleTable) : List String :=
  table.entries.map (·.1)

def has (table : RoleTable) (role : String) : Bool :=
  table.roles.contains role

def restrictionsOf (table : RoleTable) (role : String) : List Restriction :=
  (table.entries.lookup role).getD []

def isSingle : Value → Bool
  | .dict _ => true
  | x => (Restriction.ofRecord? x).isSome

def readRestrictions (x : Value) : Except Fault (List Restriction) := do
  let groups ← if isSingle x then pure [x] else x.elements
  groups.mapM fun group => (Restriction.check group).toExcept

/-- A role and its restrictions; the restrictions are read before the role is written. -/
def readEntry (entry : Value × Value) : Except Fault (String × List Restriction) := do
  let restrictions ← readRestrictions entry.2
  return (← entry.1.written, restrictions)

/-- The table that a value describes; a value that is not given has no roles. -/
def ofValue (x : Value) : Except Fault RoleTable :=
  if x.isGiven then
    match x with
    | .dict entries => do return ofEntries (← entries.mapM readEntry)
    | _ => x.lacking "items"
  else .ok empty

end RoleTable

end ScopedSql
