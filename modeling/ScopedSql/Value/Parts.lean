import ScopedSql.Value.Convert

/-!
Named parts: what a caller hands in under fixed names to have something made of it. A part that is
needed and missing, and a part under any other name, are a misuse; a call may also give its parts
by place.
-/

set_option autoImplicit false

namespace ScopedSql

abbrev Parts := List (String × Value)

namespace Parts

def getD (parts : Parts) (name : String) (default : Value) : Value :=
  (parts.lookup name).getD default

def need (parts : Parts) (name : String) : Except Fault Value :=
  match parts.lookup name with
  | some x => .ok x
  | none => Value.misused .wrongType

def only (parts : Parts) (names : List String) : Except Fault Unit :=
  if parts.all fun part => names.contains part.1 then .ok () else Value.misused .wrongType

end Parts

structure Call where
  name : String
  placed : List Value
  named : Parts

namespace Call

/-- The parts of a call that takes these names, in order; no part may come twice. -/
def parts (c : Call) (names : List String) : Except Fault Parts := do
  if names.length < c.placed.length then Value.misused .wrongType
  c.named.only (names.drop c.placed.length)
  return names.zip c.placed ++ c.named

end Call

end ScopedSql
