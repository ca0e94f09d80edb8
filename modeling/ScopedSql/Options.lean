import ScopedSql.Filter

/-!
How a result is shaped: its ordering, its page and its columns. Limit and offset are natural
numbers by type; `readCount` says which values give one. Merging two options lets the second
override the page and appends its ordering and columns, so that options form a monoid with the
empty ones.
-/

set_option autoImplicit false

namespace ScopedSql

structure OrderTerm where
  field : Value
  direction : SortDirection

namespace OrderTerm

def make (field direction : Value) : OrderTerm :=
  ⟨field, SortDirection.ofValue direction⟩

/-- The ordering of a field and a direction, by itself ascending. -/
def ofParts (parts : Parts) : Except Fault OrderTerm := do
  parts.only ["field", "direction"]
  return make (← parts.need "field") (parts.getD "direction" .null)

def toValue (s : OrderTerm) : Value :=
  .record .sort [("field", s.field), ("direction", .member (.direction s.direction))]

def ofRecord? : Value → Option OrderTerm
  | .record .sort [(_, field), (_, .member (.direction direction))] => some ⟨field, direction⟩
  | _ => none

/-- The ordering that a dictionary describes. The key `direction` goes before `dir`. -/
def ofDict (entries : Dict) : Except Fault OrderTerm :=
  match entries.at? "field" with
  | none => Value.misused .missingKey
  | some field => do
    return make (.text (← field.written))
      (((entries.at? "direction").orElse fun _ => entries.at? "dir").getD .null)

/-- The ordering that a text names; a minus in front descends. -/
def ofText (s : String) : OrderTerm :=
  match s.toList with
  | '-' :: rest => ⟨.text (String.ofList rest), .descending⟩
  | _ => ⟨.text s, .ascending⟩

def ofValue (x : Value) : Except Fault OrderTerm :=
  match ofRecord? x, x with
  | some s, _ => .ok s
  | none, .dict entries => ofDict entries
  | none, x => x.written.map ofText

def toDict (s : OrderTerm) : Dict :=
  [(.text "field", s.field), (.text "direction", .text s.direction.word)]

end OrderTerm

/-- How a result is shaped. No columns stand for all of them. -/
structure Options where
  orderBy : List OrderTerm
  limit : Option Nat
  offset : Option Nat
  fields : List Value

namespace Options

def empty : Options := ⟨[], none, none, []⟩

/-- The count that a value gives for a limit or offset: nothing for none, else the integer that
it equals or, for a text, writes. Truth values and negative integers are refused. -/
def readCount (name : String) (x : Value) : Except Fault (Option Nat) :=
  let refused := Except.error (Fault.invalid (.notAnInteger name))
  match x with
  | .null => .ok none
  | .bool _ => refused
  | x =>
    match x.toInt with
    | .error (.misuse .wrongType) | .error (.misuse .unreadable) => refused
    | .error fault => .error fault
    | .ok n =>
      if !(Value.int n).equal x && x.asText?.isNone then refused
      else if n < 0 then .error (.invalid (.negative name))
      else .ok (some n.toNat)

def make (orderBy limit offset fields : Value) : Except Fault Options := do
  let orderBy ← (← orderBy.elements).mapM OrderTerm.ofValue
  let fields ← fields.elements
  let limit ← readCount "limit" limit
  let offset ← readCount "offset" offset
  return ⟨orderBy, limit, offset, fields⟩

def ofParts (parts : Parts) : Except Fault Options := do
  parts.only ["order_by", "limit", "offset", "select_fields"]
  make (parts.getD "order_by" (.tuple [])) (parts.getD "limit" .null)
    (parts.getD "offset" .null) (parts.getD "select_fields" (.tuple []))

/-- The value under the first of two keys that is there, if it is given; else an empty
collection. -/
def givenAt (entries : Dict) (key other : String) : Value :=
  let x := ((entries.at? key).orElse fun _ => entries.at? other).getD .null
  if x.isGiven then x else .tuple []

/-- The options that a dictionary describes. A text names a single column. -/
def ofDict (entries : Dict) : Except Fault Options := do
  let orderBy := givenAt entries "order_by" "orderBy"
  let fields := givenAt entries "select_fields" "select"
  let fields := if fields.asText?.isSome then .tuple [fields] else fields
  let orderBy ← orderBy.elements
  let limit := (entries.at? "limit").getD .null
  let offset := (entries.at? "offset").getD .null
  let fields ← fields.elements
  make (.tuple orderBy) limit offset (.tuple fields)

/-- The options that a value describes; a value that is not given asks for nothing. -/
def ofDescription (x : Value) : Except Fault Options :=
  if x.isGiven then
    match x with
    | .dict entries => ofDict entries
    | _ => x.lacking "get"
  else .ok empty

/-- The dictionary that describes options; what is not asked for is left out. -/
def toDict (o : Options) : Dict :=
  (if o.orderBy.isEmpty then []
    else [(.text "order_by", .list (o.orderBy.map fun s => .dict s.toDict))]) ++
  (o.limit.map fun n => (Value.text "limit", Value.int n)).toList ++
  (o.offset.map fun n => (Value.text "offset", Value.int n)).toList ++
  (if o.fields.isEmpty then [] else [(.text "select_fields", .list o.fields)])

def orderingsValue (terms : List OrderTerm) : Value :=
  .tuple (terms.map OrderTerm.toValue)

def countValue (n : Option Nat) : Value :=
  (n.map fun n => Value.int n).getD .null

def toValue (o : Options) : Value :=
  .record .options [("order_by", orderingsValue o.orderBy), ("limit", countValue o.limit),
    ("offset", countValue o.offset), ("select_fields", .tuple o.fields)]

def ofRecord? : Value → Option Options
  | .record .options [(_, .tuple orderBy), (_, limit), (_, offset), (_, .tuple fields)] => do
    let orderBy ← orderBy.mapM OrderTerm.ofRecord?
    return ⟨orderBy, count? limit, count? offset, fields⟩
  | _ => none
where
  count? : Value → Option Nat
    | .int n => some n.toNat
    | _ => none

/-- Options with some parts replaced. The parts that stay are checked once more. -/
def replaced (o : Options) (parts : Parts) : Except Fault Options :=
  make (parts.getD "order_by" (orderingsValue o.orderBy)) (parts.getD "limit" (countValue o.limit))
    (parts.getD "offset" (countValue o.offset)) (parts.getD "select_fields" (.tuple o.fields))

/-- A new page; a part that is not given stays. -/
def paginate (o : Options) (limit offset : Value) : Except Fault Options := do
  let newLimit ← readCount "limit" limit
  let newOffset ← readCount "offset" offset
  return { o with limit := newLimit.orElse fun _ => o.limit,
                  offset := newOffset.orElse fun _ => o.offset }

def ordered (o : Options) (fields : List Value) : Except Fault Options := do
  return { o with orderBy := ← fields.mapM OrderTerm.ofValue }

/-- Two options in one: the second overrides the page and appends the rest. -/
def merge (o other : Options) : Options where
  orderBy := o.orderBy ++ other.orderBy
  limit := other.limit.orElse fun _ => o.limit
  offset := other.offset.orElse fun _ => o.offset
  fields := o.fields ++ other.fields

end Options

end ScopedSql
