import ScopedSql.Value.Convert

/-!
Dictionaries: entries in order, with keys that are equal at most once. Writing under a key that is
there keeps the entry's place and key and replaces its value; a new key goes last.
-/

set_option autoImplicit false

namespace ScopedSql

abbrev Dict := List (Value × Value)

namespace Dict

def get? (entries : Dict) (key : Value) : Option Value :=
  (entries.find? fun entry => entry.1.equal key).map (·.2)

def at? (entries : Dict) (name : String) : Option Value :=
  entries.get? (.text name)

def has (entries : Dict) (key : Value) : Bool :=
  (entries.get? key).isSome

def put (key value : Value) : Dict → Dict
  | [] => [(key, value)]
  | entry :: rest =>
    if entry.1.equal key then (entry.1, value) :: rest else entry :: put key value rest

def ofEntries (entries : List (Value × Value)) : Dict :=
  entries.foldl (fun dict entry => put entry.1 entry.2 dict) []

/-- One entry from an element of two: the fault names what the element is not. -/
def entryOf (x : Value) : Except Fault (Value × Value) := do
  match ← x.elements with
  | [key, value] =>
    if key.isKey then return (key, value) else Value.misused .wrongType
  | _ => Value.misused .unreadable

/-- The dictionary of a value: of a dictionary itself, or of a collection of pairs. An attribute
where a dictionary has its keys is none of either. -/
def ofValue : Value → Except Fault Dict
  | .dict entries => .ok entries
  | x => do
    if (x.attribute? "keys").isSome then Value.misused .wrongType
    let pairs ← (← x.elements).mapM entryOf
    return ofEntries pairs

/-- A set of the given elements, each once; only keys can be elements. The set is iterated in an
order of its own, if its elements have one. -/
def elementsOnce (xs : List Value) : Except Fault (List Value) :=
  let once := xs.foldl (fun once x => if x.isAmong once then once else once ++ [x]) []
  if Value.allKeys xs then .ok ((Value.arranged once).toOption.getD once)
  else Value.misused .wrongType

end Dict

end ScopedSql
