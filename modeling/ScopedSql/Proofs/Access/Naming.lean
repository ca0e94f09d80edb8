import ScopedSql.Proofs.Access.Calls
import ScopedSql.Proofs.Statement.Names

/-! How the statements of calls name their tables: the opening depends on the call and the request,
and the table is the one that the tenancy gives. -/

set_option autoImplicit false

namespace ScopedSql

def ScopedCall.opening (d : Dialect) (r : Request) : ScopedCall → String
  | select => "SELECT " ++ r.options.columns d ++ " FROM "
  | count => "SELECT COUNT(*) as count FROM "
  | findById _ => "SELECT * FROM "
  | update .. => "UPDATE "
  | delete _ => "DELETE FROM "

def AccessCall.opening (d : Dialect) (r : Request) : AccessCall → String
  | .onRows call _ => call.opening d r
  | .insert _ => "INSERT INTO "

theorem ScopedCall.assemble_names {a : Assembler} {r : Request} {items : List FilterItem}
    {call : ScopedCall} {table : Value} {s : Statement}
    (compiled : assemble a r items call table = .ok s) :
    s.Names a.dialect (call.opening a.dialect r) table.segments := by
  cases call with
  | select => exact Assembler.select_names compiled
  | count => exact Assembler.count_names compiled
  | findById id => exact Assembler.findById_names compiled
  | update id data =>
    rw [assemble, Except.bind_eq_ok] at compiled
    obtain ⟨entries, _, compiled⟩ := compiled
    exact Assembler.update_names compiled
  | delete id => exact Assembler.delete_names compiled

theorem AccessCall.run_names {a : Access} {call : AccessCall} {r : Request} {s : Statement}
    (ran : (call.run a r).outcome = .ok s) :
    ∃ x, a.table r = .ok x ∧
      s.Names a.assembler.dialect (call.opening a.assembler.dialect r) x.segments := by
  cases call with
  | onRows call known =>
    obtain ⟨p, _, compiled⟩ := AccessCall.onRows_eq_ok ran
    rw [ScopedCall.statement_eq, Except.bind_eq_ok] at compiled
    obtain ⟨x, table, compiled⟩ := compiled
    exact ⟨x, table, ScopedCall.assemble_names compiled⟩
  | insert data =>
    have compiled := AccessCall.insert_eq_ok ran
    simp only [Access.insert, Except.bind_eq_ok] at compiled
    obtain ⟨entries, _, x, table, compiled⟩ := compiled
    exact ⟨x, table, Assembler.insert_names compiled⟩

end ScopedSql
