import ScopedSql.Proofs.Definition.Table
import ScopedSql.Proofs.Traffic.BindReferences

/-! References to binds in the text of a new table.

A definition binds nothing, and its only colons stand in the literals of defaults. Naming its binds
leaves it as it is, so it refers to a bind just if the content of some default does: the quotes that
keep a default together are no obstacle to the search that comes after.
-/

set_option autoImplicit false

namespace ScopedSql

namespace Sql

/-- The pieces bind nothing, and wherever they stand they are text around literals of these
contents. -/
structure Encloses (d : Dialect) (sql : Sql) (contents : List String) : Prop where
  unbound : sql.values = []
  text : ∀ start, NamedBinds.Encloses (sql.render d start).toList contents

namespace Encloses

variable {d : Dialect} {first second : Sql} {contents more : List String}

theorem nothing (d : Dialect) : Encloses d [] [] := ⟨rfl, fun _ => .nil⟩

theorem ofText {s : String} (encloses : NamedBinds.Encloses s.toList contents) :
    Encloses d [.text s] contents where
  unbound := rfl
  text start := by rwa [render, render, String.append_empty]

theorem calm {s : String} (inert : s.toList.all isInert) : Encloses d [.text s] [] :=
  ofText (.inert inert)

theorem name {x : Value} {sql : Sql} (named : Assembler.nameSql x = .ok sql) :
    Encloses d sql [] := by
  obtain ⟨n, rfl, -⟩ := Assembler.nameSql_eq_ok named
  have free : ':' ∉ (d.quote n).toList := by
    intro colon
    rcases mem_quote colon with dot | quote | letter
    · cases dot
    · cases d <;> cases quote
    · cases letter
  have whole := NamedBinds.Encloses.calm (NamedBinds.kept_quote n) free .nil
  refine ⟨rfl, fun start => ?_⟩
  rwa [render, render, String.append_empty, ← List.append_nil (d.quote n).toList]

theorem append (left : Encloses d first contents) (right : Encloses d second more) :
    Encloses d (first ++ second) (contents ++ more) where
  unbound := by rw [values_append, left.unbound, right.unbound, List.append_nil]
  text start := by
    rw [render_append, String.toList_append]
    exact (left.text start).append (right.text _)

theorem joined {separator : String} (inert : separator.toList.all isInert) {parts : List Sql}
    {lists : List (List String)} (each : List.Forall₂ (Encloses d) parts lists) :
    Encloses d (joined separator parts) lists.flatten := by
  induction each with
  | nil => exact nothing d
  | @cons part contents parts lists head tail ih =>
    cases tail with
    | nil => simpa [Sql.joined] using head
    | cons => exact head.append ((calm inert).append ih)

theorem present {parts : List Sql} {lists : List (List String)}
    (each : List.Forall₂ (Encloses d) parts lists) :
    ∃ shown, List.Forall₂ (Encloses d) (parts.filter fun part => !part.isEmpty) shown ∧
      shown.flatten = lists.flatten := by
  induction each with
  | nil => exact ⟨[], .nil, rfl⟩
  | @cons part contents _ _ head _ ih =>
    obtain ⟨shown, encloses, same⟩ := ih
    cases part with
    | nil =>
      obtain rfl : contents = [] := (head.text 0).eq_nil rfl
      exact ⟨shown, encloses, same⟩
    | cons => exact ⟨contents :: shown, .cons head encloses, by simp [same]⟩

theorem spaced {parts : List Sql} {lists : List (List String)}
    (each : List.Forall₂ (Encloses d) parts lists) :
    Encloses d (spaced parts) lists.flatten := by
  obtain ⟨shown, encloses, same⟩ := present each
  rw [← same]
  exact joined rfl encloses

end Encloses

end Sql

namespace Definition

open Assembler (nameSql)
open Quoting (Token)
open Sql (Encloses)

variable {d : Dialect}

/-! ## Literals of a definition -/

def literal? (d : Dialect) (x : Value) : Option String :=
  match defaultToken d x with
  | .literal content => some content
  | _ => none

theorem literal?_eq_some_iff {x : Value} {content : String} :
    literal? d x = some content ↔ defaultToken d x = .literal content := by
  unfold literal?
  split <;> simp_all

def literals (d : Dialect) (c : Column) : List String :=
  (c.default.bind (literal? d)).toList

theorem inert_of_displayed {s : String} (displayed : ∀ c ∈ s.toList, Numeral.isDisplayed c) :
    s.toList.all Sql.isInert := by
  rw [List.all_eq_true]
  intro c member
  have displayed := displayed c member
  simp only [Sql.isInert, Lexeme.isPlaceholderSign, Bool.and_eq_true, Bool.not_eq_true',
    Bool.or_eq_false_iff, decide_eq_true_eq, decide_eq_false_iff_not]
  refine ⟨⟨⟨⟨?_, ?_⟩, ?_⟩, ?_⟩, ?_, ?_⟩ <;> rintro rfl <;> cases displayed

theorem default_encloses (d : Dialect) (x : Value) :
    NamedBinds.Encloses (d.defaultText x).toList (literal? d x).toList := by
  unfold Dialect.defaultText literal? defaultToken
  by_cases now : x.asText?.map Text.capital = some "CURRENT_TIMESTAMP"
  · rw [if_pos now, if_pos now]
    exact .inert rfl
  · rw [if_neg now, if_neg now]
    cases x with
    | null =>
      have keyword : "NULL".toList.all Sql.isInert := rfl
      exact .inert keyword
    | bool b => exact .inert (by cases d <;> cases b <;> rfl)
    | int n => exact .inert (inert_of_displayed (Numeral.displayed_toString n).2)
    | double x => exact .inert (inert_of_displayed (Double.displayed_text x).2)
    | _ => exact .alone _

/-! ## Columns and constraints -/

theorem word_encloses (asked : Bool) {s : String} (inert : s.toList.all Sql.isInert) :
    Encloses d (word asked s) [] := by
  cases asked with
  | false => exact .nothing d
  | true => exact .calm inert

theorem columnSql_encloses {c : Column} {sql : Sql} (compiled : columnSql d c = .ok sql) :
    Encloses d sql (literals d c) := by
  simp only [columnSql, Except.bind_eq_ok, Except.pure_eq_ok] at compiled
  obtain ⟨name, named, default, defaulted, rfl⟩ := compiled
  have type : Encloses d [.text (d.typeNamed c.type.word)] [] := by
    rw [typeNamed_word]
    exact .calm (by cases d <;> cases c.type <;> decide)
  have counted : Encloses d
      (if c.autoIncrement then (d.autoIncrement?.map fun s => [Piece.text s]).getD [] else [])
      [] := by
    split
    · cases d with
      | postgres | mysql => exact .calm (by decide)
      | sqlite => exact .nothing _
    · exact .nothing d
  have contents : [[], [], [], literals d c, [], [], []].flatten = literals d c := by simp
  rw [← contents]
  refine .spaced (.cons (.name named) (.cons type (.cons counted (.cons ?_
    (.cons (word_encloses _ rfl) (.cons (word_encloses _ rfl)
      (.cons (word_encloses _ rfl) .nil)))))))
  unfold literals
  rcases defaultSql_eq_ok defaulted with ⟨absent, rfl⟩ | ⟨x, present, rfl⟩
  · rw [absent]
    exact .nothing d
  · rw [present]
    refine .ofText ?_
    rw [String.toList_append]
    exact (NamedBinds.Encloses.inert rfl).append (default_encloses d x)

theorem actionSql_encloses {event : String} (inert : event.toList.all Sql.isInert)
    (action : Option ReferentialAction) : Encloses d (actionSql event action) [] := by
  cases action with
  | none => exact .nothing d
  | some a =>
    have word : a.word.toList.all Sql.isInert := by cases a <;> rfl
    have on : "ON ".toList.all Sql.isInert := rfl
    have space : " ".toList.all Sql.isInert := rfl
    refine .calm ?_
    simp only [String.toList_append, List.all_append, on, inert, space, word, Bool.and_self]

theorem foreignKeySql_encloses {name : String} {r : Reference} {sql : Sql}
    (compiled : foreignKeySql name r = .ok sql) : Encloses d sql [] := by
  simp only [foreignKeySql, Except.bind_eq_ok, Except.pure_eq_ok] at compiled
  obtain ⟨column, columnNamed, table, tableNamed, target, targetNamed, rfl⟩ := compiled
  have contents : [[], [], [], []].flatten = ([] : List String) := rfl
  have key : Encloses d (.text "FOREIGN KEY (" :: column ++ [.text ")"]) [] :=
    ((Encloses.calm rfl).append (.name columnNamed)).append (.calm rfl)
  have reference : Encloses d
      (.text "REFERENCES " :: table ++ .text "(" :: target ++ [.text ")"]) [] :=
    (((Encloses.calm rfl).append (.name tableNamed)).append
      ((Encloses.calm rfl).append (.name targetNamed))).append (.calm rfl)
  rw [← contents]
  exact .spaced (.cons key (.cons reference (.cons (actionSql_encloses rfl r.onDelete)
    (.cons (actionSql_encloses rfl r.onUpdate) .nil))))

/-! ## Tables -/

theorem createTable_encloses {table : Value} {columns : List Column} {ifNotExists : Bool}
    {s : Statement} (created : createTable d table columns ifNotExists = .ok s) :
    s.params = [] ∧ NamedBinds.Encloses s.sql.toList (columns.flatMap (literals d)) := by
  obtain ⟨-, parts, constraints, name, defined, referred, named, rfl⟩ := createTable_eq_ok created
  have columnsEnclose : List.Forall₂ (Encloses d) parts (columns.map (literals d)) := by
    rw [List.forall₂_map_right_iff]
    exact ((Except.mapM_eq_ok.mp defined).imp fun _ _ built => columnSql_encloses built).flip
  have constraintsEnclose :
      List.Forall₂ (Encloses d) constraints (constraints.map fun _ => []) := by
    rw [List.forall₂_map_right_iff, List.forall₂_same]
    intro constraint member
    obtain ⟨_, _, built⟩ := Except.exists_of_mem_mapM referred member
    exact foreignKeySql_encloses built
  have listed : Encloses d (Sql.joined ", " (parts ++ constraints))
      (columns.map (literals d) ++ constraints.map fun _ => []).flatten :=
    .joined rfl (List.rel_append columnsEnclose constraintsEnclose)
  have body : Encloses d (.text "(" :: Sql.joined ", " (parts ++ constraints) ++ [.text ")"])
      ([] ++ (columns.map (literals d) ++ constraints.map fun _ => []).flatten ++ []) :=
    ((Encloses.calm rfl).append listed).append (.calm rfl)
  have whole : Encloses d (Sql.spaced [[.text "CREATE TABLE"], word ifNotExists "IF NOT EXISTS",
      name, .text "(" :: Sql.joined ", " (parts ++ constraints) ++ [.text ")"]]) _ :=
    .spaced (.cons (.calm rfl) (.cons (word_encloses ifNotExists rfl)
      (.cons (.name named) (.cons body .nil))))
  have contents : [[], [], [], [] ++ (columns.map (literals d) ++
      constraints.map fun _ => []).flatten ++ []].flatten = columns.flatMap (literals d) := by
    simp [List.flatMap]
  rw [contents] at whole
  exact ⟨whole.unbound, whole.text 0⟩

/-- A new table binds nothing, and its text stays as it is where binds are named. That text refers
to a bind just if a column has a default that is a literal and whose content refers to one. -/
theorem table_text_refers_iff_default_does {isWord : Char → Bool} (apart : isWord '\'' = false)
    {table : Value} {columns : List Column} {ifNotExists : Bool} {s : Statement}
    (created : createTable d table columns ifNotExists = .ok s) :
    s.params = [] ∧ NamedBinds.ofStatement s.sql s.params = .ok (s.sql, []) ∧
      (NamedBinds.Refers isWord s.sql.toList ↔
        ∃ c ∈ columns, ∃ x content, c.default = some x ∧
          defaultToken d x = .literal content ∧ NamedBinds.Refers isWord content.toList) := by
  obtain ⟨unbound, encloses⟩ := createTable_encloses created
  refine ⟨unbound, ?_, ?_⟩
  · rw [unbound]
    exact NamedBinds.ofStatement_kept encloses.kept []
  · have found : NamedBinds.Refers isWord ([] ++ s.sql.toList) ↔ _ :=
      encloses.refers_iff apart (by simp)
    rw [List.nil_append] at found
    rw [found]
    simp only [literals, List.mem_flatMap, Option.mem_toList, Option.bind_eq_some_iff,
      literal?_eq_some_iff]
    constructor
    · rintro ⟨content, ⟨c, member, x, given, token⟩, refers⟩
      exact ⟨c, member, x, content, given, token, refers⟩
    · rintro ⟨c, member, x, content, given, token, refers⟩
      exact ⟨content, ⟨c, member, x, given, token⟩, refers⟩

/-- The time of a default has its colon behind a digit, so the text of its table refers to
nothing. -/
theorem table_with_default_time_refers_to_nothing :
    ¬ NamedBinds.Refers Identifier.isRest
      "CREATE TABLE `t` (`starts` VARCHAR(255) DEFAULT '12:30')".toList := by
  have created : createTable .mysql (.text "t")
      [⟨"starts", .string, true, false, false, false, some (.text "12:30"), none⟩] false =
      .ok ⟨"CREATE TABLE `t` (`starts` VARCHAR(255) DEFAULT '12:30')", [], .definition, .text "t",
        .null, .bool false⟩ := by
    rfl
  have apart : Identifier.isRest '\'' = false := rfl
  obtain ⟨-, -, refers⟩ := table_text_refers_iff_default_does apart created
  have time : ¬ NamedBinds.Refers Identifier.isRest "12:30".toList := by
    rintro ⟨before, word, after, same, -, -, starts, -⟩
    rcases before with _ | ⟨a, _ | ⟨b, _ | ⟨c, before⟩⟩⟩
    all_goals simp at same
    · obtain ⟨-, rfl, -⟩ := same
      cases (starts '2' rfl).2.2
    · obtain ⟨-, -, -, same⟩ := same
      have colon : ':' ∈ ['3', '0'] := by simp [same]
      simp at colon
  rw [refers]
  rintro ⟨c, member, x, content, given, token, inside⟩
  obtain rfl := List.mem_singleton.mp member
  cases given
  cases token
  exact time inside

theorem table_with_default_json_refers_to_bind :
    let sql := "CREATE TABLE IF NOT EXISTS \"t\" (\"a\" JSONB DEFAULT '\x7b\"a\":1\x7d')"
    createTable .postgres (.text "t")
        [⟨"a", .json, true, false, false, false, some (.text "\x7b\"a\":1\x7d"), none⟩] true =
      .ok ⟨sql, [], .definition, .text "t", .null, .bool false⟩ ∧
    NamedBinds.ofStatement sql [] = .ok (sql, []) ∧
    NamedBinds.Refers Identifier.isRest sql.toList := by
  intro sql
  have created : createTable .postgres (.text "t")
      [⟨"a", .json, true, false, false, false, some (.text "\x7b\"a\":1\x7d"), none⟩] true =
      .ok ⟨sql, [], .definition, .text "t", .null, .bool false⟩ := by
    rfl
  have encloses : NamedBinds.Encloses sql.toList ["\x7b\"a\":1\x7d"] :=
    (createTable_encloses created).2
  have content : NamedBinds.Refers Identifier.isRest "\x7b\"a\":1\x7d".toList :=
    ⟨"\x7b\"a\"".toList, ['1'], "\x7d".toList, rfl, by simp, by simp; rfl, by simp; decide, by simp⟩
  have found : NamedBinds.Refers Identifier.isRest ([] ++ sql.toList) :=
    (encloses.refers_iff rfl (by simp)).mpr ⟨_, List.mem_singleton_self _, content⟩
  exact ⟨created, NamedBinds.ofStatement_kept encloses.kept [], found⟩

end Definition

end ScopedSql
