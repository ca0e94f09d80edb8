import ScopedSql.Value.Convert

/-!
Identifiers: dotted names whose segments are letters, digits and underscores, no digit first. Only
the 26 basic letters count, so a segment needs no escape between quotes. Every name that reaches
a statement is an `Identifier`, and the type carries the proof that its segments are well formed.
-/

set_option autoImplicit false

namespace ScopedSql

namespace Identifier

def isStart (c : Char) : Bool :=
  c = '_' || c.isAlpha

def isRest (c : Char) : Bool :=
  c = '_' || c.isAlphanum

def isSegmentChars : List Char → Bool
  | [] => false
  | c :: rest => isStart c && rest.all isRest

def isSegment (s : String) : Bool :=
  isSegmentChars s.toList

def splitDots : List Char → List (List Char)
  | [] => [[]]
  | c :: rest =>
    if c = '.' then [] :: splitDots rest
    else match splitDots rest with
      | part :: parts => (c :: part) :: parts
      | [] => [[c]]

def segmentsOf (s : String) : List String :=
  (splitDots s.toList).map String.ofList

end Identifier

structure Identifier where
  segments : List String
  wellFormed : segments.all Identifier.isSegment = true

namespace Identifier

/-- Checks a text; the fault carries the whole text and its first bad segment. -/
def ofText (s : String) : Except Fault Identifier :=
  let segments := segmentsOf s
  if h : segments.all isSegment = true then .ok ⟨segments, h⟩
  else
    .error (.invalidIdentifier (.text s)
      (.ofText? (segments.find? fun segment => !isSegment segment)))

def ofValue (x : Value) : Except Fault Identifier := do
  ofText (← x.written)

def text (name : Identifier) : String :=
  String.intercalate "." name.segments

def quoted (quote : String) (name : Identifier) : String :=
  String.intercalate "." (name.segments.map fun segment => quote ++ segment ++ quote)

end Identifier

end ScopedSql
