import ScopedSql.Policy.Condition

/-!
Caller inputs for exposed conditions, checked against the condition's constraint. A number has to
stay within the bounds, and a text that writes an integral number counts as that integer; an option
has to be one of those that are listed. Only a list is checked element by element.
-/

set_option autoImplicit false

namespace ScopedSql.Input

def readNumber (field : String) (x : Value) : Except Fault Number :=
  match x with
  | .int n => .ok (.int n)
  | .double y => .ok (.double y)
  | .bool _ => .error (.invalid (.notANumber field))
  | x =>
    match Numeral.readDouble (Text.trim x.plain).toList with
    | none => .error (.invalid (.notANumber field))
    | some y =>
      match y.isIntegral, y.truncate? with
      | true, some n => .ok (.int n)
      | _, _ => .ok (.double y)

/-- Keeps a number within the bounds; a nan is within any. -/
def checkBounds (field : String) (c : Constraint) (x : Number) : Except Fault Unit := do
  if let some low := c.min then
    if x.isBelow (.double low) then throw (.invalid (.belowMinimum field low))
  if let some high := c.max then
    if (Number.double high).isBelow x then throw (.invalid (.aboveMaximum field high))

def checkOption (field : String) (options : List String) (x : Value) : Except Fault Unit :=
  if x.isAmong (options.map .text) then .ok ()
  else .error (Fault.invalid (.notAnOption field x)).raised

def listed : Value → List Value
  | .list xs => xs
  | x => [x]

/-- A result in the shape of the input: a list for a list, else its only element. -/
def shaped (x : Value) (results : List Value) : Value :=
  match x with
  | .list _ => .list results
  | x => results.headD x

def check (condition : Condition) (x : Value) : Except Fault Value :=
  match condition.constraint with
  | none => .ok x
  | some c =>
    match c.kind, c.options with
    | .number, _ => do
      let numbers ← (listed x).mapM (readNumber condition.field)
      numbers.forM (checkBounds condition.field c)
      return shaped x (numbers.map Number.toValue)
    | .string, some options => do
      (listed x).forM (checkOption condition.field options)
      return x
    | .string, none => .ok x

/-- The input for a field, if one is there. Inputs should be a dictionary; whatever else holds the
field's name has no value under it. -/
def lookup? (inputs : Value) (field : String) : Except Fault (Option Value) :=
  if !inputs.isGiven then .ok none
  else match inputs, inputs.asText? with
    | .dict entries, _ => .ok (Dict.at? entries field)
    | _, some s => if holdsText s.toList field.toList then Value.misused .wrongType else .ok none
    | .bytes _, _ => Value.misused .wrongType
    | x, _ => do
      if (Value.text field).isAmong (← x.elements) then Value.misused .wrongType else return none
where
  holdsText : List Char → List Char → Bool
    | [], part => part.isEmpty
    | c :: cs, part => part.isPrefixOf (c :: cs) || holdsText cs part

end ScopedSql.Input
