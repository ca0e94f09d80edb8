import ScopedSql.Proofs.Dialect.QuotedName
import ScopedSql.Proofs.Statement.Reading

/-! How the text of a statement names its table and its columns.

The table stands behind a fixed opening, with each segment of its name between quotes, and the text
ends there or goes on behind a space. A name that is spelled so can be told from every other one.
-/

set_option autoImplicit false

namespace ScopedSql

open Sql

def Options.columns (options : Options) (d : Dialect) : String :=
  if options.fields.isEmpty then "*"
  else String.intercalate ", " (options.fields.map fun field => d.spelled field.segments)

/-- The text names a table of these segments behind its opening, and ends there or goes on behind a
space. -/
structure Statement.Names (s : Statement) (d : Dialect) (opening : String) (table : List String) :
    Prop where
  valid : ∀ segment ∈ table, Identifier.isSegment segment
  text : ∃ rest, s.sql = opening ++ d.spelled table ++ rest ∧
    (rest = "" ∨ ∃ more, rest = " " ++ more)

/-! ## Names in texts -/

def spacedPart (text : String) : String :=
  if text = "" then "" else " " ++ text

namespace Sql

theorem behind_cons {part : Sql} (shown : part ≠ []) (parts : List Sql) :
    behind (part :: parts) = .text " " :: part ++ behind parts := by
  simp [behind, shown]

-- A part with a text stands behind its space, and whatever is behind it is rendered from there.
theorem render_behind_cons (d : Dialect) (start : Nat) {part : Sql}
    (shown : part ≠ [] → part.render d start ≠ "") (parts : List Sql) :
    (behind (part :: parts)).render d start =
      spacedPart (part.render d start) ++ (behind parts).render d (start + part.values.length) := by
  by_cases absent : part = []
  · subst absent
    simp [behind, spacedPart, render, values]
  · rw [behind_cons absent, spacedPart, if_neg (shown absent), List.cons_append, render,
      render_append, String.append_assoc]

theorem render_behind (d : Dialect) (start : Nat) (parts : List Sql) :
    (behind parts).render d start = "" ∨
      ∃ more, (behind parts).render d start = " " ++ more := by
  induction parts with
  | nil => exact .inl rfl
  | cons part parts ih =>
    by_cases shown : part = []
    · subst shown
      exact ih
    · rw [behind_cons shown]
      exact .inr ⟨_, rfl⟩

-- Parts whose texts do not depend on the position.
theorem render_joined (d : Dialect) (separator : String) {parts : List Sql} {texts : List String}
    (each : List.Forall₂ (fun part text => ∀ start, part.render d start = text) parts texts)
    (start : Nat) : (joined separator parts).render d start = separator.intercalate texts := by
  induction each generalizing start with
  | nil => rfl
  | @cons part text parts texts head tail ih =>
    cases tail with
    | nil => simpa [joined] using head start
    | cons second rest =>
      rw [joined_cons_cons, String.intercalate_cons_cons, render_append, render, head, ih,
        String.append_assoc]

theorem render_joined_names (d : Dialect) (separator : String) (names : List Identifier)
    (start : Nat) :
    (joined separator (names.map fun n => [.name n])).render d start =
      String.intercalate separator (names.map fun n => d.spelled n.segments) := by
  apply render_joined
  rw [List.forall₂_map_left_iff, List.forall₂_map_right_iff, List.forall₂_same]
  intro n _ start
  rw [render, render, String.append_empty, Dialect.quote_eq]

end Sql

namespace Assembler

variable {a : Assembler} {table idColumn id : Value} {items : List FilterItem} {s : Statement}

theorem names_eq_ok {xs : List Value} {parts : List Sql} (compiled : xs.mapM nameSql = .ok parts) :
    ∃ names : List Identifier, parts = names.map (fun n => [.name n]) ∧
      names.map Identifier.segments = xs.map Value.segments := by
  have each := Except.mapM_eq_ok.mp compiled
  clear compiled
  induction each with
  | nil => exact ⟨[], rfl, rfl⟩
  | cons head _ ih =>
    obtain ⟨n, rfl, first⟩ := nameSql_eq_ok head
    obtain ⟨names, rfl, rest⟩ := ih
    exact ⟨n :: names, rfl, by rw [List.map_cons, List.map_cons, first, rest]⟩

theorem projection_text {options : Options} {columns : Sql}
    (shown : projection options.fields = .ok columns) (d : Dialect) (start : Nat) :
    columns ≠ [] ∧ columns.render d start = options.columns d := by
  unfold Options.columns
  rcases projection_eq_ok shown with ⟨all, rfl⟩ | ⟨some, parts, compiled, rfl⟩
  · rw [all]
    exact ⟨by simp, rfl⟩
  · obtain ⟨names, rfl, segments⟩ := names_eq_ok compiled
    constructor
    · cases names with
      | nil => exact absurd (List.map_eq_nil_iff.mp segments.symm) some
      | cons n names => cases names <;> simp [joined]
    · have spelled : names.map (fun n => d.spelled n.segments) =
          options.fields.map fun x => d.spelled x.segments := by
        have both := congrArg (List.map d.spelled) segments
        rwa [List.map_map, List.map_map] at both
      rw [render_joined_names, spelled, if_neg (by simpa using some)]

theorem select_opening {options : Options} {columns : Sql}
    (shown : projection options.fields = .ok columns) (d : Dialect) :
    ([.text "SELECT"] ++ behind [columns, [.text "FROM"]] : Sql).render d 0 ++ " " =
      "SELECT " ++ options.columns d ++ " FROM " := by
  obtain ⟨nonempty, text⟩ := projection_text shown d 0
  have verb : "SELECT " = "SELECT" ++ " " := rfl
  have source : " FROM " = " " ++ "FROM" ++ " " := rfl
  rw [behind_cons nonempty, behind_cons (by simp), verb, source]
  simp [render, render_append, text, behind, String.append_assoc, -String.reduceAppend]

/-! ## Tables of statements -/

theorem ofSql_names (d : Dialect) (kind : StatementKind) (idColumn returning : Value)
    {name : Sql} (named : nameSql table = .ok name) {first : Sql} (nonempty : first ≠ [])
    (heads rest : List Sql) :
    (Statement.ofSql d kind table idColumn returning
      (spaced (first :: (heads ++ name :: rest)))).Names d
        ((first ++ behind heads).render d 0 ++ " ") table.segments := by
  obtain ⟨n, rfl, segments⟩ := nameSql_eq_ok named
  have parts : spaced (first :: (heads ++ [.name n] :: rest)) =
      (first ++ behind heads) ++ (.text " " :: .name n :: behind rest) := by
    rw [spaced_cons nonempty, behind_append, behind_cons (by simp), List.append_assoc]
    rfl
  constructor
  · rw [← segments]
    exact List.all_eq_true.mp n.wellFormed
  · refine ⟨_, ?_, render_behind d (0 + (first ++ behind heads).values.length) rest⟩
    rw [Statement.ofSql, parts, render_append, render, render, Dialect.quote_eq, ← segments]
    simp only [String.append_assoc]

theorem select_names {options : Options} (compiled : a.select table items options = .ok s) :
    s.Names a.dialect ("SELECT " ++ options.columns a.dialect ++ " FROM ") table.segments := by
  obtain ⟨clause, columns, name, order, _, shown, named, _, rfl⟩ := select_eq_ok compiled
  have names := ofSql_names a.dialect .select .null (.bool false) named
    (List.cons_ne_nil (.text "SELECT") []) [columns, [.text "FROM"]]
    [clause, order, pageSql a.dialect options]
  rwa [select_opening shown] at names

theorem count_names (compiled : a.count table items = .ok s) :
    s.Names a.dialect "SELECT COUNT(*) as count FROM " table.segments := by
  obtain ⟨clause, name, _, named, rfl⟩ := count_eq_ok compiled
  exact ofSql_names a.dialect .count .null (.bool false) named (by simp) [] [clause]

theorem findById_names (compiled : a.findById table idColumn id items = .ok s) :
    s.Names a.dialect "SELECT * FROM " table.segments := by
  obtain ⟨clause, name, _, named, rfl⟩ := findById_eq_ok compiled
  exact ofSql_names a.dialect .findById idColumn (.bool false) named (by simp) []
    [clause, [.text "LIMIT 1"]]

theorem insert_names {data : Dict} {asked : Value} (compiled : a.insert table data asked = .ok s) :
    s.Names a.dialect "INSERT INTO " table.segments := by
  obtain ⟨_, columns, name, _, named, rfl⟩ := insert_eq_ok compiled
  exact ofSql_names a.dialect .insert .null _ named (by simp) [] _

theorem update_names {data : Dict} (compiled : a.update table idColumn id data items = .ok s) :
    s.Names a.dialect "UPDATE " table.segments := by
  obtain ⟨_, sets, clause, name, _, _, named, rfl⟩ := update_eq_ok compiled
  exact ofSql_names a.dialect .update idColumn (.bool false) named (by simp) []
    [[.text "SET"], joined ", " sets, clause]

theorem delete_names (compiled : a.delete table idColumn id items = .ok s) :
    s.Names a.dialect "DELETE FROM " table.segments := by
  obtain ⟨clause, name, _, named, rfl⟩ := delete_eq_ok compiled
  exact ofSql_names a.dialect .delete idColumn (.bool false) named (by simp) [] [clause]

end Assembler

end ScopedSql
