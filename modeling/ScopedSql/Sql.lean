import ScopedSql.Dialect.Basic

/-!
SQL text with holes. A piece is fixed text, a checked name or a bound value; values never become
text. Rendering quotes the names for a dialect and writes a placeholder for each bound value,
numbered from the position at which the text starts. Main statements: rendering and values
distribute over concatenation, the second part starting after the values of the first.
-/

set_option autoImplicit false

namespace ScopedSql

inductive Piece where
  | text (s : String)
  | name (name : Identifier)
  | bound (value : Value)

abbrev Sql := List Piece

namespace Sql

def values : Sql → List Value
  | [] => []
  | .bound value :: rest => value :: values rest
  | .text _ :: rest | .name _ :: rest => values rest

/-- The text for a dialect; the first bound value stands at the position `start`. -/
def render (d : Dialect) (start : Nat) : Sql → String
  | [] => ""
  | .text s :: rest => s ++ render d start rest
  | .name name :: rest => d.quote name ++ render d start rest
  | .bound _ :: rest => d.placeholder start ++ render d (start + 1) rest

def joined (separator : String) : List Sql → Sql
  | [] => []
  | [part] => part
  | part :: rest => part ++ .text separator :: joined separator rest

/-- The parts that are there, with spaces between them. -/
def spaced (parts : List Sql) : Sql :=
  joined " " (parts.filter fun part => !part.isEmpty)

theorem values_append (s t : Sql) : values (s ++ t) = values s ++ values t := by
  induction s with
  | nil => rfl
  | cons piece rest ih => cases piece <;> simp [values, ih]

theorem render_append (d : Dialect) (start : Nat) (s t : Sql) :
    render d start (s ++ t) =
      render d start s ++ render d (start + (values s).length) t := by
  induction s generalizing start with
  | nil => simp [render, values]
  | cons piece rest ih =>
    cases piece <;> simp [render, values, ih, String.append_assoc, Nat.add_assoc, Nat.add_comm 1]

end Sql

end ScopedSql
