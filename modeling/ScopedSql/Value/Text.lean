import ScopedSql.Number.Decimal
import ScopedSql.Number.Numeral
import ScopedSql.Text.Quoted
import ScopedSql.Value.Basic

/-!
The texts of a value. Its literal shows what it is: texts stand in quotes, collections in their
brackets, members in angle brackets. Its plain text differs only for texts, which stand without
quotes, for members, shown by name, and for checked models, shown field by field. A value can be
written only if every integer in it is short enough for a numeral.
-/

set_option autoImplicit false

namespace ScopedSql.Value

def bracketed (opening closing : String) (parts : List String) : String :=
  opening ++ String.intercalate ", " parts ++ closing

/-- The literals of a tuple: a single one keeps a comma. -/
def tupleText : List String → String
  | [part] => "(" ++ part ++ ",)"
  | parts => bracketed "(" ")" parts

mutual

def literal : Value → String
  | null => "None"
  | bool b => if b then "True" else "False"
  | int n => toString n
  | double x => x.text
  | text s => Text.quoted s
  | bytes bs => Text.quotedBytes bs
  | list items => bracketed "[" "]" (literals items)
  | tuple items => tupleText (literals items)
  | set items => if items.isEmpty then "set()" else bracketed "\x7b" "\x7d" (literals items)
  | frozenSet items =>
    if items.isEmpty then "frozenset()" else bracketed "frozenset(\x7b" "\x7d)" (literals items)
  | dict entries => bracketed "\x7b" "\x7d" (entryLiterals entries)
  | member m => "<" ++ m.name ++ ": " ++ Text.quoted m.word ++ ">"
  | record kind fields => kind.title ++ bracketed "(" ")" (fieldLiterals fields)

def literals : List Value → List String
  | [] => []
  | item :: rest => literal item :: literals rest

def entryLiterals : List (Value × Value) → List String
  | [] => []
  | (key, value) :: rest => (literal key ++ ": " ++ literal value) :: entryLiterals rest

def fieldLiterals : List (String × Value) → List String
  | [] => []
  | (name, value) :: rest => (name ++ "=" ++ literal value) :: fieldLiterals rest

end

def plain : Value → String
  | text s => s
  | member m => m.name
  | record kind fields =>
    if kind.isModel then String.intercalate " " (fieldLiterals fields)
    else literal (record kind fields)
  | value => literal value

mutual

/-- Whether a value can be written: whether all integers in it are short. -/
def isWritable : Value → Bool
  | int n => Numeral.isShort n
  | list items | tuple items | set items | frozenSet items => allWritable items
  | dict entries => entriesWritable entries
  | record _ fields => fieldsWritable fields
  | null | bool _ | double _ | text _ | bytes _ | member _ => true

def allWritable : List Value → Bool
  | [] => true
  | item :: rest => isWritable item && allWritable rest

def entriesWritable : List (Value × Value) → Bool
  | [] => true
  | (key, value) :: rest => isWritable key && isWritable value && entriesWritable rest

def fieldsWritable : List (String × Value) → Bool
  | [] => true
  | (_, value) :: rest => isWritable value && fieldsWritable rest

end

end ScopedSql.Value
