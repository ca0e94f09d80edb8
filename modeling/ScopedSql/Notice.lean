import ScopedSql.Fault

/-!
Notices: what the library reports while it works, as causes with their level and wording.
`Traced` is a computation that leaves notices and has an outcome; notices left before a fault
stay. Main statements: the outcome of a sequence is the sequence of the outcomes, and its notices
are those of the steps that ran.
-/

set_option autoImplicit false

namespace ScopedSql

inductive Level where
  | debug | info | warning | error
  deriving DecidableEq, Repr

def Level.word : Level → String
  | debug => "DEBUG" | info => "INFO" | warning => "WARNING" | error => "ERROR"

inductive Notice where
  | compiled (kind : String) (table : Value) (count : Nat) (sql : String)
  | restrictionsReplaced (roles : Nat)
  | noRestriction (roles : List String)
  | restrictionApplied (role : String) (conditions : Nat) (combinator : Combinator)
  | denied (table : Value) (roles : List String)
  | deleted (table id : Value)
  | rawAccess (action : String) (reason : Value) (sql : Value)
  | queryFailed (sql : Value)
  | statementFailed (sql : Value)

namespace Notice

def level : Notice → Level
  | compiled .. | restrictionsReplaced _ | restrictionApplied .. | deleted .. => .debug
  | noRestriction _ | denied .. => .info
  | rawAccess .. => .warning
  | queryFailed _ | statementFailed _ => .error

def roleList (roles : List String) : String :=
  Value.literal (.list (roles.map .text))

/-- The wording of a notice. A reason and a statement that are not given are left
out. -/
def message : Notice → String
  | compiled kind table count sql =>
    "Compiled " ++ kind ++ " statement for " ++ table.plain ++ " (" ++ toString count ++
      " params): " ++ sql
  | restrictionsReplaced roles => "Role restrictions replaced: " ++ toString roles ++ " roles"
  | noRestriction roles => "No row restriction matches roles " ++ roleList roles
  | restrictionApplied role conditions join =>
    "Applied row restriction for role " ++ Text.quoted role ++ ": " ++ toString conditions ++
      " conditions (" ++ join.word ++ ")"
  | denied table roles => "Denied " ++ table.plain ++ " access for roles " ++ roleList roles
  | deleted table id => "Deleted " ++ table.plain ++ " id=" ++ id.literal
  | rawAccess action reason sql =>
    "Unsafe raw access (" ++ action ++ ") bypasses tenancy and row restrictions" ++
      (if reason.isGiven then " [" ++ reason.plain ++ "]" else "") ++
      (if sql.isGiven then ": " ++ sql.plain else "")
  | queryFailed sql => "Query failed: " ++ sql.plain
  | statementFailed sql => "Statement failed: " ++ sql.plain

end Notice

structure Traced (α : Type) where
  notices : List Notice
  outcome : Except Fault α

namespace Traced

variable {α β : Type}

def bind (x : Traced α) (next : α → Traced β) : Traced β :=
  match x.outcome with
  | .ok a => ⟨x.notices ++ (next a).notices, (next a).outcome⟩
  | .error fault => ⟨x.notices, .error fault⟩

instance : Monad Traced where
  pure a := ⟨[], .ok a⟩
  bind := bind

instance : MonadExceptOf Fault Traced where
  throw fault := ⟨[], .error fault⟩
  tryCatch x handle :=
    match x.outcome with
    | .ok _ => x
    | .error fault => ⟨x.notices ++ (handle fault).notices, (handle fault).outcome⟩

def ofExcept (outcome : Except Fault α) : Traced α :=
  ⟨[], outcome⟩

instance : MonadLift (Except Fault) Traced where
  monadLift := ofExcept

def report (notice : Notice) : Traced Unit :=
  ⟨[notice], .ok ()⟩

@[simp] theorem outcome_pure (a : α) : (pure a : Traced α).outcome = .ok a := rfl

@[simp] theorem outcome_ofExcept (x : Except Fault α) : (ofExcept x).outcome = x := rfl

@[simp] theorem outcome_report (notice : Notice) : (report notice).outcome = .ok () := rfl

@[simp] theorem outcome_bind (x : Traced α) (next : α → Traced β) :
    (x >>= next).outcome = x.outcome.bind fun a => (next a).outcome := by
  show (bind x next).outcome = _
  unfold bind Except.bind
  cases x.outcome <;> rfl

end Traced

end ScopedSql
