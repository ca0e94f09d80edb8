import ScopedSql.Filter
import ScopedSql.Notice
import ScopedSql.Policy.Input
import ScopedSql.Policy.Priority
import ScopedSql.Policy.RoleTable
import ScopedSql.Policy.Token

/-!
Resolution of a policy: one of the caller's roles wins, and the conditions of its first
restriction become filters. An exposed condition takes the caller's input if there is one; every
other condition takes its own value, with tokens replaced. The conditions of an `OR` restriction
stay together in one group. A resolver holds the role table in force; a new table replaces it as a
whole or, if it cannot be read, not at all.
-/

set_option autoImplicit false

namespace ScopedSql

variable [Check]

/-- What a policy comes to for a request; without a role, none matched. -/
structure Policy where
  role : Option String
  restriction : Option Restriction
  filters : List FilterItem

namespace Policy

def unmatched : Policy := ⟨none, none, []⟩

def isMatched (p : Policy) : Bool := p.role.isSome

def listOperator : Operator → Option Operator
  | .eq => some .isIn
  | .neq => some .notIn
  | _ => none

def ownFilter (c : Condition) (context : Context) : Filter :=
  let value := Token.resolve c.value context
  match value, listOperator c.operator with
  | .list xs, some op | .tuple xs, some op => ⟨.text c.field, op, .list xs⟩
  | value, _ => ⟨.text c.field, c.operator, value⟩

/-- The filter of a caller's input: equality, or membership in a list. -/
def inputFilter (c : Condition) (x : Value) : Except Fault Filter := do
  match ← Input.check c x with
  | .list xs => return ⟨.text c.field, .isIn, .list xs⟩
  | y => return ⟨.text c.field, .eq, y⟩

def conditionFilter (context : Context) (inputs : Value) (c : Condition) :
    Except Fault Filter := do
  if c.exposed then
    match ← Input.lookup? inputs c.field with
    | some x => inputFilter c x
    | none => return ownFilter c context
  else return ownFilter c context

/-- The filters of a restriction: a list for `AND`, one group for `OR`. -/
def filtersOf (context : Context) (inputs : Value) (r : Restriction) :
    Except Fault (List FilterItem) := do
  let filters ← r.conditions.mapM (conditionFilter context inputs)
  match r.combinator, filters with
  | .or, _ :: _ => return [.group ⟨filters, .or⟩]
  | _, _ => return filters.map .single

end Policy

structure Resolver where
  table : RoleTable
  priority : Option Priority

namespace Resolver

def make (restrictions priority : Value) : Except Fault Resolver := do
  return ⟨← RoleTable.ofValue restrictions, ← Priority.ofValue priority⟩

def replaceTable (r : Resolver) (restrictions : Value) : Traced Resolver := do
  let table ← RoleTable.ofValue restrictions
  Traced.report (.restrictionsReplaced table.entries.length)
  return { r with table }

def candidates (r : Resolver) (context : Context) : List String :=
  context.roles.filter r.table.has

def role? (r : Resolver) (context : Context) : Except Fault (Option String) :=
  Role.winner (r.candidates context) r.priority

def restriction? (r : Resolver) (role : String) : Option Restriction :=
  (r.table.restrictionsOf role).head?

def resolve (r : Resolver) (context : Context) (inputs : Value) : Traced Policy := do
  match ← r.role? context with
  | none =>
    if !r.table.entries.isEmpty then Traced.report (.noRestriction context.roles)
    return .unmatched
  | some role =>
    match r.restriction? role with
    | none => return ⟨some role, none, []⟩
    | some restriction =>
      let filters ← Policy.filtersOf context inputs restriction
      Traced.report
        (.restrictionApplied role restriction.conditions.length restriction.combinator)
      return ⟨some role, some restriction, filters⟩

def exposedConditions (r : Resolver) (context : Context) : Except Fault (List Condition) := do
  match (← r.role? context).bind r.restriction? with
  | some restriction => return restriction.conditions.filter (·.exposed)
  | none => return []

end Resolver

end ScopedSql
