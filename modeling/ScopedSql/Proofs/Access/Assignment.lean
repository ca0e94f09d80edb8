import ScopedSql.Proofs.Statement.Framing
import ScopedSql.Proofs.Tenancy.Row
import ScopedSql.Proofs.Tenancy.Visibility

/-! Each column is assigned its own value.

A new row lists its columns and then its values, an update pairs them one by one. Read back, each
placeholder taken for the parameter that it stands for, both give the items of the data: in order,
none left out, none under another's column. A tenant's new row has the tenant under the column that
tells tenants apart, where the data has that column or else behind all items.
-/

set_option autoImplicit false

namespace ScopedSql

/-! ## Parameters behind those that are read -/

namespace Lexeme

variable {α β : Type}

theorem mapM_of_le {f g : α → Option β} (le : ∀ {x y}, f x = some y → g x = some y)
    {lexeme : Lexeme α} {bound : Lexeme β} (mapped : lexeme.mapM f = some bound) :
    lexeme.mapM g = some bound := by
  cases lexeme with
  | operand x =>
    obtain ⟨y, read, rfl⟩ := Option.map_eq_some_iff.mp mapped
    exact Option.map_eq_some_iff.mpr ⟨y, le read, rfl⟩
  | _ => exact mapped

theorem bind_append {params : List α} {lexemes : List (Lexeme String)} {seen : ℕ}
    {bound : List (Lexeme α)} (read : bind params seen lexemes = some bound) (more : List α) :
    bind (params ++ more) seen lexemes = some bound := by
  induction lexemes generalizing seen bound with
  | nil => exact read
  | cons lexeme rest ih =>
    simp only [bind, Option.bind_eq_bind, Option.bind_eq_some_iff] at read ⊢
    obtain ⟨first, placed, others, later, all⟩ := read
    refine ⟨first, mapM_of_le ?_ placed, others, ih later, all⟩
    intro mark x found
    obtain ⟨position, marked, among⟩ := Option.bind_eq_some_iff.mp found
    refine Option.bind_eq_some_iff.mpr ⟨position, marked, ?_⟩
    have within : position < params.length := (List.getElem?_eq_some_iff.mp among).1
    rw [List.getElem?_append_left within, among]

end Lexeme

theorem Command.ofText_append {α : Type} {d : Dialect} {text : String} {params : List α}
    {command : Command α} (read : ofText d text params = some command) (more : List α) :
    ofText d text (params ++ more) = some command := by
  simp only [ofText, Lexeme.ofText, Option.bind_eq_some_iff] at read ⊢
  obtain ⟨lexemes, ⟨marked, scanned, bound⟩, all⟩ := read
  exact ⟨lexemes, ⟨marked, scanned, Lexeme.bind_append bound more⟩, all⟩

/-! ## Rows of items -/

/-- The columns of the row are the names of the items, in order and none twice, and each is assigned
the value of its item. -/
structure Command.Assigns (row : List (List String × Value)) (items : List (String × Value)) :
    Prop where
  once : (row.map (·.1)).Nodup
  pairs : row.map (fun cell => (String.intercalate "." cell.1, cell.2)) = items

namespace Dict

variable {items : List (String × Value)}

theorem rowOf_ofItems (items : List (String × Value)) :
    Command.rowOf (ofItems items) =
      items.map fun item => (Identifier.segmentsOf item.1, item.2) := by
  simp [Command.rowOf, ofItems, Value.segments, Value.plain]

theorem assigns_ofItems (once : (items.map (·.1)).Nodup) :
    Command.Assigns (Command.rowOf (ofItems items)) items := by
  constructor
  · have columns : (Command.rowOf (ofItems items)).map (·.1) =
        (items.map (·.1)).map Identifier.segmentsOf := by
      simp [rowOf_ofItems]
    rw [columns]
    exact once.map fun _ _ => Identifier.segmentsOf_injective
  · rw [rowOf_ofItems, List.map_map]
    refine (List.map_congr_left fun item _ => ?_).trans (List.map_id items)
    exact Prod.ext (Identifier.intercalate_segmentsOf item.1) rfl

def withItem (name : String) (x : Value) (items : List (String × Value)) : List (String × Value) :=
  if name ∈ items.map (·.1) then
    items.map fun item => if item.1 = name then (name, x) else item
  else items ++ [(name, x)]

theorem put_ofItems (once : (items.map (·.1)).Nodup) (name : String) (x : Value) :
    put (.text name) x (ofItems items) = ofItems (withItem name x items) := by
  unfold withItem
  split
  · next present => exact put_ofItems_of_mem once present x
  · next absent => exact put_ofItems_of_not_mem absent x

theorem names_concat (once : (items.map (·.1)).Nodup) {name : String}
    (absent : name ∉ items.map (·.1)) (x : Value) : ((items ++ [(name, x)]).map (·.1)).Nodup := by
  rw [List.map_append, List.map_singleton, ← List.concat_eq_append]
  exact once.concat absent

theorem names_withItem (once : (items.map (·.1)).Nodup) (name : String) (x : Value) :
    ((withItem name x items).map (·.1)).Nodup := by
  unfold withItem
  split
  · have names : (items.map fun item => if item.1 = name then (name, x) else item).map (·.1) =
        items.map (·.1) := by
      rw [List.map_map]
      refine List.map_congr_left fun item _ => ?_
      by_cases same : item.1 = name <;> simp [same]
    rwa [names]
  · next absent => exact names_concat once absent x

end Dict

/-! ## What statements assign -/

namespace Assembler

variable {a : Assembler} {items : List (String × Value)} {s : Statement}

theorem insert_assigns (once : (items.map (·.1)).Nodup) {table asked : Value}
    (compiled : a.insert table (.ofItems items) asked = .ok s) :
    ∃ named row returned,
      Command.ofText a.dialect s.sql s.params = some (.insert named row returned) ∧
      Command.Assigns row items := by
  have writes : s.Writes a.dialect (.ofInsert a.dialect table (.ofItems items) asked) :=
    insert_writes compiled
  exact ⟨_, _, _, writes.ofText, Dict.assigns_ofItems once⟩

theorem update_assigns (once : (items.map (·.1)).Nodup) {table idColumn id : Value}
    {filters : List FilterItem}
    (compiled : a.update table idColumn id (.ofItems items) filters = .ok s) :
    ∃ head named changes, s.sql = head ++ " " ++ a.dialect.clause "" s.sql ∧
      Command.ofText a.dialect head s.params = some (.update named changes none) ∧
      (a.rules = .standard → ∃ scope,
        Command.ofText a.dialect s.sql s.params = some (.update named changes scope)) ∧
      Command.Assigns changes items := by
  obtain ⟨head, more, text, params, read⟩ := update_opens compiled
  refine ⟨head, table.segments, _, text, ?_, ?_, Dict.assigns_ofItems once⟩
  · rw [params]
    exact Command.ofText_append read more
  · -- with the standard rules the clause can be read, too
    intro standard
    obtain ⟨d, rules⟩ := a
    cases standard
    exact ⟨_, (update_writes compiled).ofText⟩

end Assembler

namespace Tenancy

def itemsFor (t : Tenancy) (items : List (String × Value)) (id : Value) :
    List (String × Value) :=
  match t.discriminator? id with
  | some tenant => Dict.withItem t.column (.text tenant) items
  | Option.none => items

variable {t : Tenancy} {id : Value} {items : List (String × Value)}

theorem itemsFor_told (told : t.TellsApart id) (items : List (String × Value)) :
    t.itemsFor items id = Dict.withItem t.column (.text (t.tenant id)) items := by
  rw [itemsFor, discriminator_told told]

theorem itemsFor_untold (untold : ¬ t.TellsApart id) (items : List (String × Value)) :
    t.itemsFor items id = items := by
  rw [itemsFor, discriminator_untold untold]

theorem stamp_ofItems (t : Tenancy) (once : (items.map (·.1)).Nodup) (id : Value) :
    t.stamp (.ofItems items) id = .ofItems (t.itemsFor items id) := by
  by_cases told : t.TellsApart id
  · rw [stamp_told told, itemsFor_told told, Dict.put_ofItems once]
  · rw [stamp_untold told, itemsFor_untold told]

theorem names_itemsFor (t : Tenancy) (once : (items.map (·.1)).Nodup) (id : Value) :
    ((t.itemsFor items id).map (·.1)).Nodup := by
  unfold itemsFor
  split
  · exact Dict.names_withItem once _ _
  · exact once

end Tenancy

theorem Access.insert_assigns {a : Access} {r : Request} {items : List (String × Value)}
    {s : Statement} (once : (items.map (·.1)).Nodup)
    (compiled : a.insert r (.dict (Dict.ofItems items)) = .ok s) :
    ∃ named row returned,
      Command.ofText a.assembler.dialect s.sql s.params = some (.insert named row returned) ∧
      Command.Assigns row (a.tenancy.itemsFor items r.effectiveTenant) := by
  rw [insert_dict, Except.bind_eq_ok, Tenancy.stamp_ofItems _ once] at compiled
  obtain ⟨table, _, compiled⟩ := compiled
  exact Assembler.insert_assigns (Tenancy.names_itemsFor _ once _) compiled

/-- A new row and an update assign to the columns that the data names the values that it has for
them, in its order. A new row of a tenant who is told apart by a column has the tenant there: in
the place of the data's own value, or behind all others. -/
theorem each_column_is_assigned_its_value {items : List (String × Value)}
    (once : (items.map (·.1)).Nodup) :
    (∀ (a : Assembler) (table asked : Value) (s : Statement),
      a.compile (.insert table (.dict (Dict.ofItems items)) asked) = .ok s →
      ∃ named row returned,
        Command.ofText a.dialect s.sql s.params = some (.insert named row returned) ∧
        Command.Assigns row items) ∧
    (∀ (a : Assembler) (table idColumn id filters : Value) (s : Statement),
      a.compile (.update table idColumn id (.dict (Dict.ofItems items)) filters) = .ok s →
      ∃ head named changes, s.sql = head ++ " " ++ a.dialect.clause "" s.sql ∧
        Command.ofText a.dialect head s.params = some (.update named changes none) ∧
        (a.rules = .standard → ∃ scope,
          Command.ofText a.dialect s.sql s.params = some (.update named changes scope)) ∧
        Command.Assigns changes items) ∧
    (∀ (a : Access) (r : Request) (s : Statement), a.tenancy.TellsApart r.effectiveTenant →
      ((AccessCall.insert (.dict (Dict.ofItems items))).run a r).outcome = .ok s →
      ∃ named row returned,
        Command.ofText a.assembler.dialect s.sql s.params = some (.insert named row returned) ∧
        Command.Assigns row (Dict.withItem a.tenancy.column
          (.text (a.tenancy.tenant r.effectiveTenant)) items)) := by
  refine ⟨fun a table asked s compiled => ?_, fun a table idColumn id filters s compiled => ?_,
    fun a r s told ran => ?_⟩
  · simp only [Assembler.compile, Except.bind_eq_ok] at compiled
    obtain ⟨entries, taken, compiled⟩ := compiled
    cases Payload.forInsert_eq_ok taken
    exact Assembler.insert_assigns once compiled
  · simp only [Assembler.compile, Except.bind_eq_ok] at compiled
    obtain ⟨entries, taken, _, _, listed, _, compiled⟩ := compiled
    cases Payload.forUpdate_eq_ok taken
    exact Assembler.update_assigns once compiled
  · rw [← Tenancy.itemsFor_told told]
    exact Access.insert_assigns once (AccessCall.insert_eq_ok ran)

/-- A tenant's ticket that names another tenant between two of its columns, and a change of it. -/
theorem ticket_keeps_columns_and_values_together :
    (∃ named row returned,
      Command.ofText .postgres
          "INSERT INTO \"t\" (\"title\", \"org\", \"n\") VALUES ($1, $2, $3) RETURNING *"
          [.text "a", .text "acme", .int 1] = some (.insert named row returned) ∧
      Command.Assigns row [("title", .text "a"), ("org", .text "acme"), ("n", .int 1)]) ∧
    ∃ head named changes,
      "UPDATE `t` SET `title` = ?, `org` = ?, `n` = ? WHERE `id` = ?" =
        head ++ " " ++ Dialect.clause .mysql ""
          "UPDATE `t` SET `title` = ?, `org` = ?, `n` = ? WHERE `id` = ?" ∧
      Command.ofText .mysql head [.text "a", .text "other", .int 1, .int 7] =
        some (.update named changes none) ∧
      Command.Assigns changes [("title", .text "a"), ("org", .text "other"), ("n", .int 1)] := by
  have once : ([("title", Value.text "a"), ("org", .text "other"), ("n", .int 1)].map
      (·.1)).Nodup := by decide
  have assigned := each_column_is_assigned_its_value once
  constructor
  · have tenant : Tenancy.tenant ⟨.column, "org", "_", "main"⟩ (.text " acme ") = "acme" := by
      decide +kernel
    have row := assigned.2.2 (.make .postgres ⟨.column, "org", "_", "main"⟩ ⟨.empty, none⟩)
      ⟨.text "t", [], .empty, .text " acme ", .empty, [], .text "id"⟩
      ⟨"INSERT INTO \"t\" (\"title\", \"org\", \"n\") VALUES ($1, $2, $3) RETURNING *",
        [.text "a", .text "acme", .int 1], .insert, .text "t", .null, .bool true⟩
      ⟨rfl, by decide +kernel⟩ (by cbv)
    have stamped : Dict.withItem "org"
        (.text (Tenancy.tenant ⟨.column, "org", "_", "main"⟩ (.text " acme ")))
        [("title", .text "a"), ("org", .text "other"), ("n", .int 1)] =
          [("title", .text "a"), ("org", .text "acme"), ("n", .int 1)] := by
      rw [tenant]
      rfl
    rw [← stamped]
    exact row
  · obtain ⟨head, named, changes, text, read, _, assigns⟩ := assigned.2.1 ⟨.mysql, .standard⟩
      (.text "t") (.text "id") (.int 7) .null
      ⟨"UPDATE `t` SET `title` = ?, `org` = ?, `n` = ? WHERE `id` = ?",
        [.text "a", .text "other", .int 1, .int 7], .update, .text "t", .text "id", .bool false⟩
      (by cbv)
    exact ⟨head, named, changes, text, read, assigns⟩

end ScopedSql
