import ScopedSql.Model.Check

/-!
The context of a request: who acts, and for which tenant. A user has roles and attributes; what a
caller adds to the known attributes is kept. Without a user or without roles, a request acts in
the role `public`.
-/

set_option autoImplicit false

namespace ScopedSql

variable [Check]

structure User where
  id : Value
  roles : List String
  department : Value
  extra : List (String × Value)

structure Context where
  user : Option User
  tenant : Option String

namespace User

def attributeNamed (u : User) (name : String) : Value :=
  if name = "id" then u.id
  else if name = "roles" then .tuple (u.roles.map .text)
  else if name = "department" then u.department
  else (u.extra.lookup name).getD .null

def toValue (u : User) : Value :=
  .record .user ([("id", u.id), ("roles", .tuple (u.roles.map .text)),
    ("department", u.department)] ++ u.extra)

def ofRecord? : Value → Option User
  | .record .user ((_, id) :: (_, .tuple roles) :: (_, department) :: extra) =>
    some ⟨id, roles.filterMap Value.asText?, department, extra⟩
  | _ => none

/-- Role names from one name or number, or from a collection of anything. -/
def readRoles : Value → Checked (List String)
  | .null => .valid []
  | x =>
    match x with
    | .text _ | .member _ | .int _ | .bool _ => .ofExcept (x.written.map ([·]))
    | _ => .ofExcept (do (← x.elements).mapM Value.written)

/-- The entries beyond the known attributes; their names have to be texts. -/
def readExtra (es : Dict) : Checked (List (String × Value)) :=
  es.foldl (fun found entry =>
    match entry.1.asText? with
    | some name =>
      if RecordKind.userAttributes.contains name then found
      else ((· ++ [(name, entry.2)]) <$> found)
    | none => (fun extra _ => extra) <$> found <*>
        (Checked.issue (α := Unit) .invalidKey).under (Check.stepOf entry.1)) (.valid [])

def ofSettings (es : Dict) : Checked User :=
  User.mk
    <$> Check.optional es "id" .null Check.anything
    <*> Check.optional es "roles" [] readRoles
    <*> Check.optional es "department" .null Check.anything
    <*> readExtra es

def check (x : Value) : Checked User :=
  Check.model ofRecord? ofSettings x

end User

namespace Context

def empty : Context := ⟨none, none⟩

def toValue (c : Context) : Value :=
  .record .context
    [("user", (c.user.map User.toValue).getD .null), ("tenant_id", .ofText? c.tenant)]

def ofRecord? : Value → Option Context
  | .record .context [(_, user), (_, tenant)] => some ⟨User.ofRecord? user, tenant.asText?⟩
  | _ => none

def ofSettings (es : Dict) : Checked Context :=
  Context.mk
    <$> Check.optional es "user" none (Checked.orNull User.check)
    <*> Check.aliased es "tenantId" "tenant_id" none (Checked.orNull Check.text)

def check (x : Value) : Checked Context :=
  Check.model ofRecord? ofSettings x

def ofValue : Value → Except Fault Context
  | .null => .ok empty
  | x => (check x).toExcept

def standardRoles : List String := ["public"]

def roles (c : Context) : List String :=
  match c.user with
  | some u => if u.roles.isEmpty then standardRoles else u.roles
  | none => standardRoles

end Context

end ScopedSql
