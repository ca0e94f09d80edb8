import ScopedSql.Value.Convert
import ScopedSql.Text.Blank
import ScopedSql.Text.LetterCase

/-!
How callers name the members of a vocabulary. An operator may be a word in any letter case or a
symbol, and stands for equality if it is missing; a combinator is a word in any letter case, and
stands for AND if it is missing; a direction is whatever is written, and only a form of `DESC`
descends.
-/

set_option autoImplicit false

namespace ScopedSql

namespace Operator

def aliases : List (String × Operator) := [
  ("=", .eq), ("==", .eq), ("!=", .neq), ("<>", .neq), ("ne", .neq), (">", .gt), ("<", .lt),
  (">=", .gte), ("ge", .gte), ("<=", .lte), ("le", .lte), ("not_in", .notIn), ("notin", .notIn),
  ("isnull", .isNull), ("notnull", .isNotNull), ("isnotnull", .isNotNull)]

/-- The operator of a name: an alias, or a word, in any letter case. -/
def ofName (name : String) : Except Fault Operator :=
  let key := Text.trim name
  let lower := Text.small key
  match (aliases.lookup key).orElse fun _ => aliases.lookup lower with
  | some op => .ok op
  | none =>
    match Vocabulary.ofWord? lower with
    | some op => .ok op
    | none => .error (.unknownWord key (Vocabulary.words Operator))

def ofValue : Value → Except Fault Operator
  | .null => .ok .eq
  | .member (.operator op) => .ok op
  | x => do ofName (← x.written)

/-- Whether an operator compares with a value; the null checks do not. -/
def takesValue (op : Operator) : Bool :=
  op ≠ .isNull && op ≠ .isNotNull

end Operator

namespace Combinator

/-- The combinator that a value names; a fault carries the text as it was given. -/
def ofValue : Value → Except Fault Combinator
  | .null => .ok .and
  | .member (.combinator join) => .ok join
  | x => do
    let word ← x.written
    match Vocabulary.ofWord? (Text.capital (Text.trim word)) with
    | some join => return join
    | none => throw (.unknownWord word (Vocabulary.words Combinator))

end Combinator

namespace SortDirection

/-- The direction that a value names. Whatever is no form of `DESC` ascends. -/
def ofValue : Value → SortDirection
  | .member (.direction direction) => direction
  | x =>
    if (x.asText?.map fun s => Text.capital (Text.trim s)) = some "DESC" then .descending
    else .ascending

end SortDirection

end ScopedSql
