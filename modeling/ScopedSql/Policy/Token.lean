import ScopedSql.Policy.Context

/-!
Context tokens: values that stand for an attribute of the acting user. A token is one of two
prefixes with the name of the attribute behind it; a prefix alone is a literal.
-/

set_option autoImplicit false

namespace ScopedSql.Token

def openings : List String := ["currentUser.", "$context.user."]

def after? : List Char → List Char → Option (List Char)
  | [], cs => some cs
  | p :: ps, c :: cs => if p = c then after? ps cs else none
  | _ :: _, [] => none

/-- The attribute that a text names; the first beginning that fits decides. -/
def attributeOfText? (s : String) : Option String :=
  match openings.findSome? fun opening => after? opening.toList s.toList with
  | some [] | none => none
  | some name => some (String.ofList name)

def attribute? (x : Value) : Option String :=
  x.asText?.bind attributeOfText?

def resolve (x : Value) (c : Context) : Value :=
  match attribute? x with
  | none => x
  | some name =>
    match c.user with
    | some u => u.attributeNamed name
    | none => .null

end ScopedSql.Token
