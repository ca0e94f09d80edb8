import ScopedSql.Model.Check
import ScopedSql.Vocabulary.Naming

/-!
Row restrictions, as models. A condition is a column, an operator and a value; an exposed one may
take its value from the caller, within a constraint. A restriction is a group of conditions that
are joined by one combinator.
-/

set_option autoImplicit false

namespace ScopedSql

variable [Check]

structure Constraint where
  kind : InputKind
  min : Option Double
  max : Option Double
  options : Option (List String)

structure Condition where
  field : String
  operator : Operator
  value : Value
  exposed : Bool
  constraint : Option Constraint

structure Restriction where
  conditions : List Condition
  combinator : Combinator

namespace Constraint

def boundValue (bound : Option Double) : Value :=
  (bound.map Value.double).getD .null

def bound? : Value → Option Double
  | .double x => some x
  | _ => none

def options? : Value → Option (List String)
  | .tuple xs => some (xs.filterMap Value.asText?)
  | _ => none

def toValue (c : Constraint) : Value :=
  .record .constraint [("type", .member (.inputKind c.kind)), ("min", boundValue c.min),
    ("max", boundValue c.max),
    ("options", (c.options.map fun words => Value.tuple (words.map .text)).getD .null)]

def ofRecord? : Value → Option Constraint
  | .record .constraint [(_, .member (.inputKind kind)), (_, min), (_, max), (_, options)] =>
    some ⟨kind, bound? min, bound? max, options? options⟩
  | _ => none

def ofSettings (es : Dict) : Checked Constraint :=
  Constraint.mk
    <$> Check.optional es "type" .string Check.member
    <*> Check.optional es "min" none (Checked.orNull Check.double)
    <*> Check.optional es "max" none (Checked.orNull Check.double)
    <*> Check.optional es "options" none (Checked.orNull (Check.sequenceOf .tupleType Check.text))

def check (x : Value) : Checked Constraint :=
  Check.model ofRecord? ofSettings x

end Constraint

namespace Condition

def toValue (c : Condition) : Value :=
  .record .condition [("field", .text c.field), ("operator", .member (.operator c.operator)),
    ("value", c.value), ("exposed", .bool c.exposed),
    ("metadata", (c.constraint.map Constraint.toValue).getD .null)]

def ofRecord? : Value → Option Condition
  | .record .condition [(_, .text field), (_, .member (.operator op)), (_, value),
      (_, .bool exposed), (_, constraint)] =>
    some ⟨field, op, value, exposed, Constraint.ofRecord? constraint⟩
  | _ => none

/-- The condition that a dictionary describes. An unknown operator ends the check. -/
def ofSettings (es : Dict) : Checked Condition :=
  Condition.mk
    <$> Check.required es "field" Check.text
    <*> Check.optional es "operator" .eq (fun x => .ofExcept (Operator.ofValue x))
    <*> Check.optional es "value" .null Check.anything
    <*> Check.optional es "exposed" false Check.flag
    <*> Check.optional es "metadata" none (Checked.orNull Constraint.check)

def check (x : Value) : Checked Condition :=
  Check.model ofRecord? ofSettings x

end Condition

namespace Restriction

def toValue (r : Restriction) : Value :=
  .record .restriction [("conditions", .tuple (r.conditions.map Condition.toValue)),
    ("combinator", .member (.combinator r.combinator))]

def ofRecord? : Value → Option Restriction
  | .record .restriction [(_, .tuple conditions), (_, .member (.combinator join))] =>
    (conditions.mapM Condition.ofRecord?).map fun conditions => ⟨conditions, join⟩
  | _ => none

/-- The restriction that a dictionary describes. An unknown combinator ends the check. -/
def ofSettings (es : Dict) : Checked Restriction :=
  Restriction.mk
    <$> Check.optional es "conditions" [] (Check.sequenceOf .tupleType Condition.check)
    <*> Check.optional es "combinator" .and (fun x => .ofExcept (Combinator.ofValue x))

def check (x : Value) : Checked Restriction :=
  Check.model ofRecord? ofSettings x

end Restriction

end ScopedSql
