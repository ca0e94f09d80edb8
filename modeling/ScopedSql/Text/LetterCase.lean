import ScopedSql.Text.CaseTable

/-!
Small and capital forms of a text, over the full character set. A capital may take several
characters, so both forms are built character by character. The Greek capital sigma has two
small forms: the final one is written at the end of a word.
-/

set_option autoImplicit false

namespace ScopedSql.Text

def mapRuns (runs : List CaseRun) (code : Nat) : Option Nat :=
  runs.findSome? fun run => run.apply? code

/-- Whether the nearest character that is not passed over is a letter with case. -/
def meetsCased (cs : List Char) : Bool :=
  match cs.find? fun c => !covers caseIgnorableRanges c.toNat with
  | some c => covers casedRanges c.toNat
  | none => false

/-- The small form of one character between the characters before it (nearest first) and the
characters after it. -/
def smallOf (before : List Char) (c : Char) (after : List Char) : List Char :=
  if c.toNat < 0x80 then [c.toLower]
  else if c.toNat = 0x3a3 then
    if meetsCased before && !meetsCased after then [Char.ofNat 0x3c2] else [Char.ofNat 0x3c3]
  else if c.toNat = 0x130 then ['i', Char.ofNat 0x307]
  else [((mapRuns smallRuns c.toNat).map Char.ofNat).getD c]

/-- The small form of a text whose earlier characters are `before`, nearest first. -/
def smallFrom (before : List Char) : List Char → List Char
  | [] => []
  | c :: rest => smallOf before c rest ++ smallFrom (c :: before) rest

def capitalOf (c : Char) : List Char :=
  if c.toNat < 0x80 then [c.toUpper]
  else match capitalSequences.lookup c.toNat with
    | some codes => codes.map Char.ofNat
    | none => [((mapRuns capitalRuns c.toNat).map Char.ofNat).getD c]

def small (s : String) : String :=
  String.ofList (smallFrom [] s.toList)

def capital (s : String) : String :=
  String.ofList (s.toList.flatMap capitalOf)

end ScopedSql.Text
