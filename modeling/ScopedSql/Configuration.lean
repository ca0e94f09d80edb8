import ScopedSql.Definition.Schema
import ScopedSql.Dialect.Table
import ScopedSql.Model.Coercion
import ScopedSql.Traffic.Gateway

/-!
Configuration, as a model: the dialect, the tenancy, the restrictions of the roles and their
priority, and whether callers without a configured role are denied. An unknown dialect ends the
check. A priority is a list of roles or a table of ranks; if it is neither, the issues of both
readings are listed.
-/

set_option autoImplicit false

namespace ScopedSql

variable [Check]

inductive PrioritySetting where
  | order (roles : List String)
  | ranks (entries : List (String × Int))

structure Configuration where
  dialect : String
  tenancy : Tenancy
  restrictions : RoleTable
  priority : Option PrioritySetting
  deniesUnmatched : Bool

namespace PrioritySetting

def checkOrder (x : Value) : Checked PrioritySetting :=
  (fun roles => .order roles) <$> Check.sequenceOf .listType Check.text x

def checkRank (entry : Value × Value) : Checked (String × Int) :=
  let step := Check.stepOf entry.1
  Prod.mk
    <$> ((Check.text entry.1).under (.key "[key]")).under step
    <*> (Check.int entry.2).under step

def checkRanks (x : Value) : Checked PrioritySetting :=
  (Check.entries .dictType x).andThen fun es =>
    (fun entries => .ranks entries) <$>
      es.foldr (fun entry rest => List.cons <$> checkRank entry <*> rest) (.valid [])

def check (x : Value) : Checked PrioritySetting :=
  match checkOrder x, checkRanks x with
  | .issues is, .issues js =>
    .both ((Checked.issues is).under (.key "list[str]"))
      ((Checked.issues js : Checked PrioritySetting).under (.key "dict[str,int]"))
  | .issues _, other => other
  | found, _ => found

def toValue : PrioritySetting → Value
  | order roles => .list (roles.map .text)
  | ranks entries => (Priority.ofEntries entries).ranks

def priority : PrioritySetting → Priority
  | order roles => .ofOrder roles
  | ranks entries => .ofEntries entries

end PrioritySetting

namespace Configuration

def checkDialect (x : Value) : Checked String :=
  (Check.text x).andThen fun name =>
    .ofExcept (((DialectTable.standard id).find name).map Dialect.name)

def checkRestrictions (x : Value) : Checked (List Restriction) :=
  Check.sequenceOf .tupleType Restriction.check
    (if RoleTable.isSingle x then .list [x] else x)

def nameRoles (es : Dict) : Except Fault Dict := do
  return Dict.ofEntries (← es.mapM fun entry => return (.text (← entry.1.written), entry.2))

def checkRoleTable (x : Value) : Checked RoleTable :=
  (Check.entries .dictType x).andThen fun es =>
    (Checked.ofExcept (nameRoles es)).andThen fun named =>
      RoleTable.mk <$>
        named.foldr (fun entry rest =>
          (fun restrictions rest => (entry.1.plain, restrictions) :: rest)
            <$> (checkRestrictions entry.2).under (.key entry.1.plain) <*> rest) (.valid [])

def ofSettings (es : Dict) : Checked Configuration :=
  Configuration.mk
    <$> Check.optional es "dialect" "postgres" checkDialect
    <*> Check.optional es "tenancy" Tenancy.none Tenancy.check
    <*> Check.aliased es "roleRestrictions" "role_restrictions" .empty checkRoleTable
    <*> Check.aliased es "rolePriority" "role_priority" none (Checked.orNull PrioritySetting.check)
    <*> Check.aliased es "denyUnmatchedRoles" "deny_unmatched_roles" false Check.flag

def ofValue (x : Value) : Except Fault Configuration :=
  ((Check.entries .modelType x).andThen ofSettings).toExcept

def gateway (c : Configuration) : Except Fault Gateway := do
  let d ← (DialectTable.standard id).find c.dialect
  let resolver : Resolver := ⟨c.restrictions, c.priority.map PrioritySetting.priority⟩
  return ⟨.make d c.tenancy resolver, c.deniesUnmatched⟩

end Configuration

end ScopedSql
