import ScopedSql.Dialect.Basic
import ScopedSql.Text.Blank

/-!
The table of dialect names. A name is entered exactly as it is given; a look-up trims the name it
is asked for and writes it in small letters first. So an entry is found under its name only if
the name is already in that form, and a name that is no text is never found. What is entered under
a name is up to the caller: the table holds dialects of any kind, those of others among them.
-/

set_option autoImplicit false

namespace ScopedSql

/-- Names and the dialects entered under them, in order of first entry. -/
structure DialectTable (δ : Type) where
  entries : List (Value × δ)

namespace DialectTable

variable {δ : Type}

/-- Puts a dialect under one name, in the place of an earlier entry of that name. -/
def put (table : DialectTable δ) (name : Value) (d : δ) : DialectTable δ :=
  if table.entries.any fun entry => entry.1.equal name then
    ⟨table.entries.map fun entry => if entry.1.equal name then (entry.1, d) else entry⟩
  else ⟨table.entries ++ [(name, d)]⟩

/-- Enters a dialect under a name that a caller gives, which has to be a key. -/
def enter (table : DialectTable δ) (name : Value) (d : δ) : Except Fault (DialectTable δ) :=
  if name.isKey then .ok (table.put name d) else Value.misused .wrongType

def register (table : DialectTable δ) (name : String) (d : δ) (aliases : List String) :
    DialectTable δ :=
  (name :: aliases).foldl (fun table name => table.put (.text name) d) table

/-- The three dialects under their usual names, each in the form that the table keeps. -/
def standard (form : Dialect → δ) : DialectTable δ :=
  [(Dialect.postgres, ["postgresql", "pg"]), (Dialect.mysql, ["mariadb"]),
    (Dialect.sqlite, ["sqlite3"])].foldl
    (fun table entry => table.register entry.1.name (form entry.1) entry.2) ⟨[]⟩

def names (table : DialectTable δ) : List Value :=
  table.entries.map (·.1)

def lookupKey (name : String) : String :=
  Text.small (Text.trim name)

/-- The dialect entered under a name. A fault lists the names, so all of them have to be texts. -/
def find (table : DialectTable δ) (name : String) : Except Fault δ :=
  let key := lookupKey name
  match table.entries.find? fun entry => entry.1.equal (.text key) with
  | some entry => .ok entry.2
  | none =>
    if table.names.all fun name => name.asText?.isSome then
      .error (.unsupportedDialect (.text key) table.names)
    else Value.misused .wrongType

/-- The dialect that a value carries, or that its plain text names. -/
def findValue (table : DialectTable Dialect) (x : Value) : Except Fault Dialect :=
  match Dialect.ofRecord? x with
  | some d => .ok d
  | none => do table.find (← x.written)

end DialectTable

end ScopedSql
