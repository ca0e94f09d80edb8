/-!
Blank characters and trimming. The class holds every character that separates words in some
script, the four information separators among them; the zero-width space is not blank.
-/

set_option autoImplicit false

namespace ScopedSql.Text

/-- Blanks of the first 128 code points that a numeral may be surrounded by. -/
def isPlainBlank (c : Char) : Bool :=
  c = ' ' || (0x9 ≤ c.toNat && c.toNat ≤ 0xd)

def isWideBlank (c : Char) : Bool :=
  (0x2000 ≤ c.toNat && c.toNat ≤ 0x200a) ||
    [0x85, 0xa0, 0x1680, 0x2028, 0x2029, 0x202f, 0x205f, 0x3000].contains c.toNat

/-- Every blank: plain, wide, or an information separator. -/
def isBlank (c : Char) : Bool :=
  isPlainBlank c || (0x1c ≤ c.toNat && c.toNat ≤ 0x1f) || isWideBlank c

def strip (drop : Char → Bool) (cs : List Char) : List Char :=
  ((cs.dropWhile drop).reverse.dropWhile drop).reverse

def trim (s : String) : String :=
  String.ofList (strip isBlank s.toList)

end ScopedSql.Text
