import ScopedSql.Text.Printable

/-!
The quoted display form of texts and byte strings, used wherever a message shows a value. The
single quote encloses unless the text holds a single and no double quote; a backslash escapes the
enclosing quote, itself and the three common controls; whatever cannot be shown is written by its
code point in two, four or eight hexadecimal digits.
-/

set_option autoImplicit false

namespace ScopedSql.Text

def hexDigit (n : Nat) : Char :=
  if n < 10 then Char.ofNat (0x30 + n) else Char.ofNat (0x57 + n)

/-- The last `width` hexadecimal digits of a number, the most significant first. -/
def hexDigits : Nat → Nat → List Char
  | 0, _ => []
  | width + 1, n => hexDigits width (n / 16) ++ [hexDigit (n % 16)]

/-- A code point written after a backslash, in the narrowest of the three widths. -/
def escapeCode (code : Nat) : List Char :=
  if code < 0x100 then '\\' :: 'x' :: hexDigits 2 code
  else if code < 0x10000 then '\\' :: 'u' :: hexDigits 4 code
  else '\\' :: 'U' :: hexDigits 8 code

def enclosingQuote (cs : List Char) : Char :=
  if cs.contains '\'' && !cs.contains '"' then '"' else '\''

/-- One character between the enclosing quotes; `shown` says which ones need no escape. -/
def escapeChar (shown : Char → Bool) (quote c : Char) : List Char :=
  if c = quote ∨ c = '\\' then ['\\', c]
  else if c = '\t' then ['\\', 't']
  else if c = '\n' then ['\\', 'n']
  else if c = '\r' then ['\\', 'r']
  else if shown c then [c]
  else escapeCode c.toNat

def enclose (shown : Char → Bool) (cs : List Char) : List Char :=
  let quote := enclosingQuote cs
  quote :: cs.flatMap (escapeChar shown quote) ++ [quote]

def quoted (s : String) : String :=
  String.ofList (enclose isPrintable s.toList)

/-- The display form of a byte string: a `b`, then its bytes as characters, those beyond the
printable ones of the first 128 code points escaped. -/
def quotedBytes (bytes : List UInt8) : String :=
  let shown := fun c : Char => 0x20 ≤ c.toNat && c.toNat < 0x7f
  String.ofList ('b' :: enclose shown (bytes.map fun byte => Char.ofNat byte.toNat))

end ScopedSql.Text
