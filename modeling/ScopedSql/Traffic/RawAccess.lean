import ScopedSql.Traffic.Recorder

/-!
Raw access: statements that a caller writes, sent with no scope at all. Every use is reported as a
warning, with the reason that was given for it.
-/

set_option autoImplicit false

namespace ScopedSql.RawAccess

def readParams (params : Value) : Except Fault (List Value) :=
  params.elements

def sending {α : Type} (channel : Channel) (reason sql params : Value) (r : Recorder)
    (send : List Value → Recorder → Ran α) : Ran α :=
  Ran.afterCompiling (α := List Value)
    (do
      Traced.report (.rawAccess channel.word reason sql)
      readParams params)
    r send

def query (reason sql params : Value) (r : Recorder) : Ran (List Dict) :=
  sending .query reason sql params r fun params =>
    Ran.sendQuery sql params fun rows => pure rows

def execute (reason sql params : Value) (r : Recorder) : Ran WriteResult :=
  sending .execute reason sql params r fun params =>
    Ran.sendWrite sql params fun result => pure result

def executor (reason : Value) : Traced Unit :=
  Traced.report (.rawAccess "access executor" reason .null)

end ScopedSql.RawAccess
