import ScopedSql.Proofs.Statement.Names
import ScopedSql.Proofs.Statement.Parameters

/-! Clauses within the texts of statements.

The clause of a text begins with the first `WHERE` outside quotes and goes on to the tail of the
text. What stands in front of it in a statement has neither that keyword nor an open quote, whatever
its tables and columns are called; so the clause of a statement is what was compiled for it, behind
the values that stand before it.
-/

set_option autoImplicit false

namespace ScopedSql

/-! ## The clause of a text -/

/-- What is left of a text from the first `WHERE` outside quotes. -/
def fromWhere (quote : Char) : Bool → List Char → List Char
  | _, [] => []
  | quoted, c :: rest =>
    if c = quote then fromWhere quote (!quoted) rest
    else if !quoted && "WHERE".toList.isPrefixOf (c :: rest) then c :: rest
    else fromWhere quote quoted rest

/-- The clause of a text that ends with this tail; it is empty if there is none. -/
def Dialect.clause (d : Dialect) (tail text : String) : String :=
  let found := fromWhere d.quoteChar false text.toList
  String.ofList (found.take (found.length - tail.toList.length))

theorem length_fromWhere (quote : Char) (quoted : Bool) (cs : List Char) :
    (fromWhere quote quoted cs).length ≤ cs.length := by
  induction cs generalizing quoted with
  | nil => simp [fromWhere]
  | cons c rest ih =>
    rw [fromWhere]
    split
    · exact (ih _).trans (Nat.le_succ _)
    · split
      · exact le_refl _
      · exact (ih _).trans (Nat.le_succ _)

/-- Outside quotes, no clause begins in a text of these characters. -/
def isPlain (c : Char) : Bool :=
  c ≠ 'W' && c ≠ '"' && c ≠ '`'

theorem spacedPart_keyword (body : String) :
    (spacedPart ("WHERE" ++ body)).toList = ' ' :: ("WHERE" ++ body).toList := by
  simp [spacedPart]

namespace Dialect

variable {d : Dialect} {cs rest : List Char}

theorem fromWhere_plain (plain : cs.all isPlain) :
    fromWhere d.quoteChar false (cs ++ rest) = fromWhere d.quoteChar false rest := by
  induction cs with
  | nil => rfl
  | cons c cs ih =>
    obtain ⟨head, tail⟩ : isPlain c ∧ cs.all isPlain := by simpa using plain
    have letter : c ≠ 'W' := by
      rintro rfl
      cases head
    have mark : c ≠ d.quoteChar := by
      rintro rfl
      cases d <;> cases head
    have keyword : "WHERE".toList.isPrefixOf (c :: (cs ++ rest)) = false := by
      simp [List.isPrefixOf, letter.symm]
    rw [List.cons_append, fromWhere, if_neg mark, keyword]
    simpa using ih tail

-- Inside quotes anything may stand that is no quote, the keyword too.
theorem fromWhere_quoted (inside : ∀ c ∈ cs, c ≠ d.quoteChar) :
    fromWhere d.quoteChar true (cs ++ d.quoteChar :: rest) = fromWhere d.quoteChar false rest := by
  induction cs with
  | nil => simp [fromWhere]
  | cons c cs ih =>
    have mark : c ≠ d.quoteChar := inside c (by simp)
    rw [List.cons_append, fromWhere, if_neg mark]
    simpa using ih fun c member => inside c (by simp [member])

theorem fromWhere_quotedSegment {segment : String} (valid : Identifier.isSegment segment) :
    fromWhere d.quoteChar false (Scan.quotedSegment d segment ++ rest) =
      fromWhere d.quoteChar false rest := by
  have opens : Scan.quotedSegment d segment ++ rest =
      d.quoteChar :: (segment.toList ++ d.quoteChar :: rest) := by
    simp [Scan.quotedSegment]
  rw [opens, fromWhere, if_pos rfl]
  exact fromWhere_quoted fun c member => Scan.ne_quoteChar (Identifier.isRest_of_mem valid member)

theorem fromWhere_segments {segments : List String}
    (valid : ∀ segment ∈ segments, Identifier.isSegment segment) :
    fromWhere d.quoteChar false (['.'].intercalate (segments.map (Scan.quotedSegment d)) ++ rest) =
      fromWhere d.quoteChar false rest := by
  induction segments with
  | nil => rfl
  | cons first segments ih =>
    have head := valid first (by simp)
    cases segments with
    | nil => simpa using fromWhere_quotedSegment head
    | cons second segments =>
      have dot : ['.'].all isPlain := rfl
      rw [List.map_cons, List.map_cons, List.intercalate_cons_cons, List.append_assoc,
        List.append_assoc, fromWhere_quotedSegment head, fromWhere_plain dot]
      exact ih fun segment member => valid segment (by simp [member])

theorem isPlain_digit {c : Char} (digit : c.isDigit) : isPlain c := by
  have letter : c ≠ 'W' := by rintro rfl; cases digit
  have mark : c ≠ '"' := by rintro rfl; cases digit
  have mark' : c ≠ '`' := by rintro rfl; cases digit
  simp [isPlain, letter, mark, mark']

theorem placeholder_plain (d : Dialect) (position : Nat) :
    (d.placeholder position).toList.all isPlain := by
  cases d with
  | postgres =>
    have digits : (Nat.toDigits 10 (position + 1)).all isPlain :=
      List.all_eq_true.mpr fun c member => isPlain_digit (Sql.isDigit_of_mem_repr member)
    rw [Sql.placeholder_postgres, List.all_cons, digits]
    rfl
  | mysql | sqlite =>
    simp only [placeholder]
    decide

-- What is left from a clause on is the clause, once the tail is cut off.
theorem cut_clause (d : Dialect) {clause : String}
    (opens : clause = "" ∨ ∃ body, clause = "WHERE" ++ body) (tail : List Char) :
    let found := fromWhere d.quoteChar false ((spacedPart clause).toList ++ tail)
    found.take (found.length - tail.length) = clause.toList := by
  intro found
  rcases opens with rfl | ⟨body, rfl⟩
  · -- whatever stands in the tail, the tail is cut off
    have short : found.length - tail.length = 0 :=
      Nat.sub_eq_zero_of_le (length_fromWhere d.quoteChar false tail)
    rw [short, List.take_zero]
    rfl
  · have space : [' '].all isPlain := rfl
    have letter : 'W' ≠ d.quoteChar := by cases d <;> decide
    have whole : found = ("WHERE" ++ body).toList ++ tail := by
      show fromWhere d.quoteChar false ((spacedPart ("WHERE" ++ body)).toList ++ tail) = _
      rw [spacedPart_keyword, ← List.singleton_append, List.append_assoc, fromWhere_plain space,
        String.toList_append]
      show fromWhere d.quoteChar false ('W' :: _) = _
      rw [fromWhere, if_neg letter]
      rfl
    rw [whole, List.length_append, Nat.add_sub_cancel, List.take_left]

end Dialect

namespace Sql

/-- No fixed text of the pieces begins a clause or a quote. -/
def Plain (sql : Sql) : Prop :=
  ∀ t, .text t ∈ sql → t.toList.all isPlain

theorem Plain.append {s t : Sql} (left : s.Plain) (right : t.Plain) : (s ++ t).Plain := by
  intro u member
  rcases List.mem_append.mp member with member | member
  · exact left u member
  · exact right u member

theorem Plain.text {t : String} (plain : t.toList.all isPlain) : Plain [.text t] := by
  intro u member
  cases List.mem_singleton.mp member
  exact plain

theorem Plain.joined {separator : String} (separates : separator.toList.all isPlain)
    {parts : List Sql} (each : ∀ part ∈ parts, part.Plain) : (joined separator parts).Plain := by
  induction parts with
  | nil => exact fun _ member => by cases member
  | cons part parts ih =>
    have head := each part (by simp)
    cases parts with
    | nil => exact head
    | cons second rest =>
      rw [joined_cons_cons]
      exact head.append ((Plain.text separates).append
        (ih fun part member => each part (by simp [member])))

theorem Plain.fromWhere {d : Dialect} {sql : Sql} (plain : sql.Plain) (position : Nat)
    (rest : List Char) :
    fromWhere d.quoteChar false ((sql.render d position).toList ++ rest) =
      ScopedSql.fromWhere d.quoteChar false rest := by
  induction sql generalizing position with
  | nil => rfl
  | cons piece sql ih =>
    have tail := ih fun t member => plain t (by simp [member])
    cases piece with
    | text t =>
      rw [render, String.toList_append, List.append_assoc,
        Dialect.fromWhere_plain (plain t (by simp)), tail]
    | name n =>
      rw [render, String.toList_append, List.append_assoc, Scan.quote_toList,
        Dialect.fromWhere_segments (List.all_eq_true.mp n.wellFormed), tail]
    | bound x =>
      rw [render, String.toList_append, List.append_assoc,
        Dialect.fromWhere_plain (Dialect.placeholder_plain d position), tail]

theorem Plain.behind {parts : List Sql} (each : ∀ part ∈ parts, part.Plain) :
    (behind parts).Plain := by
  intro t member
  obtain ⟨part, among, inside⟩ := List.mem_flatMap.mp member
  rcases List.mem_cons.mp inside with space | inside
  · cases space
    rfl
  · exact each part (List.mem_filter.mp among).1 t inside

theorem values_joined (separator : String) (parts : List Sql) :
    (joined separator parts).values = parts.flatMap values := by
  induction parts with
  | nil => rfl
  | cons part parts ih =>
    cases parts with
    | nil => simp [joined]
    | cons second rest =>
      rw [joined_cons_cons, values_append, values, ih]
      rfl

theorem values_behind (parts : List Sql) : (behind parts).values = parts.flatMap values := by
  induction parts with
  | nil => rfl
  | cons part parts ih =>
    have split : behind (part :: parts) = behind [part] ++ behind parts :=
      behind_append [part] parts
    have head : (behind [part]).values = part.values := by
      cases part <;> simp [behind, values]
    rw [split, values_append, ih, head, List.flatMap_cons]

theorem render_of_unbound (d : Dialect) {sql : Sql} (unbound : sql.values = []) (start : Nat) :
    sql.render d start = sql.render d 0 := by
  induction sql generalizing start with
  | nil => rfl
  | cons piece sql ih =>
    cases piece with
    | text t => rw [render, render, ih unbound start]
    | name n => rw [render, render, ih unbound start]
    | bound x => cases unbound

end Sql

/-! ## Statements with a clause -/

open Sql

def Sql.Opens (clause : Sql) : Prop :=
  clause = [] ∨ ∃ body, clause = .text "WHERE " :: body

theorem Sql.Opens.render_ne {clause : Sql} (opens : clause.Opens) (d : Dialect) (start : Nat)
    (present : clause ≠ []) : clause.render d start ≠ "" := by
  rcases opens with rfl | ⟨body, rfl⟩
  · exact absurd rfl present
  · simp [render]

theorem Sql.Opens.text {clause : Sql} (opens : clause.Opens) (d : Dialect) (start : Nat) :
    clause.render d start = "" ∨ ∃ body, clause.render d start = "WHERE" ++ body := by
  rcases opens with rfl | ⟨body, rfl⟩
  · exact .inl rfl
  · exact .inr ⟨" " ++ Sql.render d start body, by rw [Sql.render, ← String.append_assoc]; rfl⟩

theorem Where.clause_opens (parts : List Sql) : Opens (clause parts) := by
  cases parts with
  | nil => exact .inl rfl
  | cons part parts => exact .inr ⟨_, rfl⟩

theorem Where.ofItems_opens {rules : RuleTable} {items : List FilterItem} {clause : Sql}
    (compiled : ofItems rules items = .ok clause) : clause.Opens := by
  obtain ⟨parts, _, rfl⟩ := ofItems_eq_ok compiled
  exact clause_opens parts

theorem Assembler.idClause_opens {a : Assembler} {idColumn id : Value} {items : List FilterItem}
    {clause : Sql} (compiled : a.idClause idColumn id items = .ok clause) : clause.Opens := by
  obtain ⟨first, parts, _, _, rfl⟩ := idClause_eq_ok compiled
  exact Where.clause_opens (first :: parts)

/-- The statement has this clause behind a text without one, which binds these values, and this tail
behind the clause. -/
structure Statement.Framed (s : Statement) (d : Dialect) (before : List Value) (clause : Sql)
    (tail : String) : Prop where
  text : ∃ head : Sql, head.Plain ∧ head.values = before ∧
    s.sql = (head ++ behind [clause]).render d 0 ++ tail
  params : s.params = before ++ clause.values

namespace Statement.Framed

variable {d : Dialect} {before : List Value} {clause : Sql} {tail : String} {s : Statement}

theorem ofSql {kind : StatementKind} {table idColumn returning : Value} (first : Sql)
    (heads tails : List Sql) (nonempty : first ≠ []) (plain : ∀ part ∈ first :: heads, part.Plain)
    (bound : (first :: heads).flatMap values = before) (unbound : (behind tails).values = [])
    (shown : tail = (behind tails).render d 0) :
    (Statement.ofSql d kind table idColumn returning
      (spaced (first :: (heads ++ clause :: tails)))).Framed d before clause tail := by
  have parts : spaced (first :: (heads ++ clause :: tails)) =
      first ++ behind heads ++ behind [clause] ++ behind tails := by
    rw [spaced_cons nonempty, behind_append, ← List.singleton_append, behind_append]
    simp only [List.append_assoc]
  have values : (first ++ behind heads).values = before := by
    rw [values_append, values_behind, ← bound, List.flatMap_cons]
  constructor
  · refine ⟨first ++ behind heads, ?_, values, ?_⟩
    · exact (plain first (by simp)).append
        (.behind fun part member => plain part (by simp [member]))
    · rw [Statement.ofSql, parts, render_append, render_of_unbound d unbound, shown]
  · rw [Statement.ofSql, parts, values_append, unbound, List.append_nil, values_append, values,
      values_behind, List.flatMap_singleton]

-- The clause is there as it was compiled, and begins behind the values before it.
theorem clause_eq (framed : s.Framed d before clause tail)
    (opens : clause.Opens) : d.clause tail s.sql = clause.render d before.length := by
  obtain ⟨head, plain, rfl, text⟩ := framed.text
  have part := render_behind_cons d (0 + head.values.length) (opens.render_ne d _) []
  rw [Dialect.clause, text, render_append, part, Nat.zero_add, String.toList_append,
    String.toList_append, List.append_assoc, plain.fromWhere]
  have found := d.cut_clause (opens.text d head.values.length) tail.toList
  simpa [behind, Sql.render] using congrArg String.ofList found

-- A table may have the name of the keyword.
example : Dialect.clause .postgres " LIMIT 1"
    "SELECT * FROM \"WHERE\" WHERE \"id\" = $1 LIMIT 1" = "WHERE \"id\" = $1" := by
  decide +kernel

end Statement.Framed

def Options.tail (options : Options) (d : Dialect) : String :=
  match Assembler.ordering options.orderBy with
  | .ok order => (behind [order, Assembler.pageSql d options]).render d 0
  | .error _ => ""

namespace Assembler

theorem nameSql_bare {x : Value} {sql : Sql} (compiled : nameSql x = .ok sql) :
    sql.Plain ∧ sql.values = [] := by
  obtain ⟨name, rfl, _⟩ := nameSql_eq_ok compiled
  refine ⟨fun t member => ?_, rfl⟩
  cases List.mem_singleton.mp member

-- Parts that are built one by one, without values of their own.
theorem joined_bare {α : Type} {build : α → Except Fault Sql} {xs : List α} {parts : List Sql}
    (bare : ∀ x part, build x = .ok part → part.Plain ∧ part.values = [])
    (compiled : xs.mapM build = .ok parts) :
    (joined ", " parts).Plain ∧ (joined ", " parts).values = [] := by
  have each : ∀ part ∈ parts, part.Plain ∧ part.values = [] := by
    intro part member
    obtain ⟨x, _, built⟩ := Except.exists_of_mem_mapM compiled member
    exact bare x part built
  refine ⟨.joined rfl fun part member => (each part member).1, ?_⟩
  rw [values_joined, List.flatMap_eq_nil_iff]
  exact fun part member => (each part member).2

theorem projection_bare {fields : List Value} {sql : Sql} (compiled : projection fields = .ok sql) :
    sql.Plain ∧ sql.values = [] := by
  rcases projection_eq_ok compiled with ⟨_, rfl⟩ | ⟨_, parts, built, rfl⟩
  · exact ⟨.text rfl, rfl⟩
  · exact joined_bare (fun _ _ => nameSql_bare) built

-- The tail of a read binds nothing.
theorem tail_unbound {options : Options} {order : Sql}
    (compiled : ordering options.orderBy = .ok order) (d : Dialect) :
    (behind [order, pageSql d options]).values = [] := by
  have page : (pageSql d options).values = [] := by
    unfold pageSql
    split <;> rfl
  rw [values_behind, List.flatMap_cons, List.flatMap_singleton, page, List.append_nil]
  rcases ordering_eq_ok compiled with ⟨_, rfl⟩ | ⟨_, parts, built, rfl⟩
  · rfl
  · rw [values, values_joined, List.flatMap_eq_nil_iff]
    intro part member
    obtain ⟨term, _, built⟩ := Except.exists_of_mem_mapM built member
    obtain ⟨name, named, rfl⟩ := orderTerm_eq_ok built
    rw [values_append, (nameSql_bare named).2]
    rfl

theorem assignments_plain {data : Dict} {sets : List Sql}
    (compiled : data.mapM assignment = .ok sets) : (joined ", " sets).Plain := by
  refine .joined rfl fun part member => ?_
  obtain ⟨entry, _, built⟩ := Except.exists_of_mem_mapM compiled member
  obtain ⟨name, named, rfl⟩ := assignment_eq_ok built
  refine (nameSql_bare named).1.append ?_
  exact (Plain.text rfl : Plain [.text " = "]).append fun t member => by
    cases List.mem_singleton.mp member

theorem assignments_values {data : Dict} {sets : List Sql}
    (compiled : data.mapM assignment = .ok sets) :
    (joined ", " sets).values = data.map (·.2) := by
  have each := Except.mapM_eq_ok.mp compiled
  rw [values_joined]
  clear compiled
  induction each with
  | nil => rfl
  | @cons entry part data sets head _ ih =>
    obtain ⟨name, named, rfl⟩ := assignment_eq_ok head
    rw [List.flatMap_cons, ih, values_append, (nameSql_bare named).2]
    rfl

/-! ## Builders -/

variable {a : Assembler} {table idColumn id : Value} {items : List FilterItem} {s : Statement}

theorem select_framed {options : Options} (compiled : a.select table items options = .ok s) :
    ∃ clause, Where.ofItems a.rules items = .ok clause ∧
      s.Framed a.dialect [] clause (options.tail a.dialect) := by
  obtain ⟨clause, columns, name, order, built, shown, named, ordered, rfl⟩ := select_eq_ok compiled
  obtain ⟨columnsPlain, columnsUnbound⟩ := projection_bare shown
  obtain ⟨namePlain, nameUnbound⟩ := nameSql_bare named
  refine ⟨clause, built, .ofSql [.text "SELECT"] [columns, [.text "FROM"], name]
    [order, pageSql a.dialect options] (by simp) ?_ ?_ (tail_unbound ordered a.dialect) ?_⟩
  · intro part member
    simp only [List.mem_cons, List.not_mem_nil, or_false] at member
    rcases member with rfl | rfl | rfl | rfl
    · exact .text rfl
    · exact columnsPlain
    · exact .text rfl
    · exact namePlain
  · simp [values, columnsUnbound, nameUnbound]
  · rw [Options.tail, ordered]

-- A statement that names a table between a verb and the clause.
theorem framed_of_verb {kind : StatementKind} {returning : Value} {verb : String}
    (plain : verb.toList.all isPlain) {name clause : Sql} (named : nameSql table = .ok name)
    (tails : List Sql) (unbound : (behind tails).values = []) :
    (Statement.ofSql a.dialect kind table idColumn returning
      (spaced ([.text verb] :: ([name] ++ clause :: tails)))).Framed a.dialect [] clause
        ((behind tails).render a.dialect 0) := by
  obtain ⟨namePlain, nameUnbound⟩ := nameSql_bare named
  refine .ofSql [.text verb] [name] tails (by simp) ?_ ?_ unbound rfl
  · intro part member
    simp only [List.mem_cons, List.not_mem_nil, or_false] at member
    rcases member with rfl | rfl
    · exact .text plain
    · exact namePlain
  · simp [values, nameUnbound]

theorem count_framed (compiled : a.count table items = .ok s) :
    ∃ clause, Where.ofItems a.rules items = .ok clause ∧ s.Framed a.dialect [] clause "" := by
  obtain ⟨clause, name, built, named, rfl⟩ := count_eq_ok compiled
  exact ⟨clause, built, framed_of_verb rfl named [] rfl⟩

theorem findById_framed (compiled : a.findById table idColumn id items = .ok s) :
    ∃ clause, a.idClause idColumn id items = .ok clause ∧
      s.Framed a.dialect [] clause " LIMIT 1" := by
  obtain ⟨clause, name, picked, named, rfl⟩ := findById_eq_ok compiled
  exact ⟨clause, picked, framed_of_verb rfl named [[.text "LIMIT 1"]] rfl⟩

theorem delete_framed (compiled : a.delete table idColumn id items = .ok s) :
    ∃ clause, a.idClause idColumn id items = .ok clause ∧ s.Framed a.dialect [] clause "" := by
  obtain ⟨clause, name, picked, named, rfl⟩ := delete_eq_ok compiled
  exact ⟨clause, picked, framed_of_verb rfl named [] rfl⟩

theorem update_framed {data : Dict} (compiled : a.update table idColumn id data items = .ok s) :
    ∃ clause, a.idClause idColumn id items = .ok clause ∧
      s.Framed a.dialect (data.map (·.2)) clause "" := by
  obtain ⟨_, sets, clause, name, assigned, picked, named, rfl⟩ := update_eq_ok compiled
  obtain ⟨namePlain, nameUnbound⟩ := nameSql_bare named
  refine ⟨clause, picked, .ofSql [.text "UPDATE"] [name, [.text "SET"], joined ", " sets] []
    (by simp) ?_ ?_ rfl rfl⟩
  · intro part member
    simp only [List.mem_cons, List.not_mem_nil, or_false] at member
    rcases member with rfl | rfl | rfl | rfl
    · exact .text rfl
    · exact namePlain
    · exact .text rfl
    · exact assignments_plain assigned
  · simp [values, nameUnbound, assignments_values assigned]

theorem update_opens {data : Dict} (compiled : a.update table idColumn id data items = .ok s) :
    ∃ (head : String) (more : List Value),
      s.sql = head ++ " " ++ a.dialect.clause "" s.sql ∧ s.params = data.map (·.2) ++ more ∧
      Command.ofText a.dialect head (data.map (·.2)) =
        some (.update table.segments (Command.rowOf data) none) := by
  obtain ⟨clause, picked, framed⟩ := update_framed compiled
  have shown := framed.clause_eq (idClause_opens picked)
  obtain ⟨nonempty, sets, clause', name, assigned, picked', named, rfl⟩ := update_eq_ok compiled
  obtain rfl : clause = clause' := Except.ok.inj (picked.symm.trans picked')
  have scans := changes_scan named assigned nonempty a.dialect
  have written : (Command.update table.segments (Command.rowOf data) none).HasColumns := by
    simpa [Command.HasColumns, Command.rowOf] using nonempty
  have bound : (spaced [[.text "UPDATE"], name, [.text "SET"], joined ", " sets]).values =
      data.map (·.2) := by
    rw [spaced_cons (by simp), values_append, values_behind]
    simp [values, (nameSql_bare named).2, assignments_values assigned]
  refine ⟨(spaced [[.text "UPDATE"], name, [.text "SET"], joined ", " sets]).render a.dialect 0,
    clause.values, ?_, framed.params, ?_⟩
  · rw [shown, Statement.ofSql, spaced_concat (by simp) (idClause_ne_nil picked), render_append,
      bound, Nat.zero_add, render, String.append_assoc]
  · rw [Command.ofText, ← bound, scans.ofText, Option.bind_some, Command.read_lexemes _ written]

end Assembler

end ScopedSql
