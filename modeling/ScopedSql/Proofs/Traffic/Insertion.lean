import ScopedSql.Proofs.Access.Assignment
import ScopedSql.Proofs.Traffic.Operation

/-! The record of a new row beside the row that was written.

Where no row is returned, the record of an insert is made from the caller's data: its items, and the
generated id if it has none. What was written is the data with the tenant in it. So the record has
the values that were bound, but under the column that tells tenants apart it has what the data says.
-/

set_option autoImplicit false

namespace ScopedSql

/-! ## Items that were written -/

namespace Dict

variable {items : List (String × Value)} {name other : String} {x y : Value}

theorem value_unique (once : (items.map (·.1)).Nodup) (first : (name, x) ∈ items)
    (second : (name, y) ∈ items) : x = y :=
  congrArg Prod.snd (List.inj_on_of_nodup_map once first second rfl)

theorem mem_withItem (member : (name, y) ∈ withItem other x items) :
    name = other ∧ y = x ∨ name ≠ other ∧ (name, y) ∈ items := by
  unfold withItem at member
  split at member
  · obtain ⟨item, among, placed⟩ := List.mem_map.mp member
    split at placed
    · cases placed
      exact .inl ⟨rfl, rfl⟩
    · next apart =>
      subst placed
      exact .inr ⟨apart, among⟩
  · next absent =>
    rcases List.mem_append.mp member with among | last
    · refine .inr ⟨?_, among⟩
      rintro rfl
      exact absent (List.mem_map_of_mem among)
    · cases List.mem_singleton.mp last
      exact .inl ⟨rfl, rfl⟩

theorem name_mem_withItem (other : String) (x : Value) (among : name ∈ items.map (·.1)) :
    name ∈ (withItem other x items).map (·.1) := by
  unfold withItem
  split
  · obtain ⟨item, member, rfl⟩ := List.mem_map.mp among
    refine List.mem_map.mpr ⟨_, List.mem_map_of_mem member, ?_⟩
    split
    · next same => exact same.symm
    · rfl
  · rw [List.map_append]
    exact List.mem_append_left _ among

end Dict

namespace Tenancy

variable {t : Tenancy} {id : Value} {items : List (String × Value)} {name : String}

theorem name_mem_itemsFor (t : Tenancy) (id : Value) (among : name ∈ items.map (·.1)) :
    name ∈ (t.itemsFor items id).map (·.1) := by
  unfold itemsFor
  split
  · exact Dict.name_mem_withItem _ _ among
  · exact among

/-- An item that stands beside a written row has the row's value under its name, unless that is the
column of a tenant who is told apart and the item has another value there. -/
theorem shown_eq_written_iff {more : List (String × Value)} {x y : Value}
    (once : ((items ++ more).map (·.1)).Nodup) (shown : (name, x) ∈ items ++ more)
    (written : (name, y) ∈ t.itemsFor items id) :
    x = y ↔ (t.TellsApart id → name = t.column → x = .text (t.tenant id)) := by
  by_cases told : t.TellsApart id
  · rw [itemsFor_told told] at written
    rcases Dict.mem_withItem written with ⟨rfl, rfl⟩ | ⟨apart, among⟩
    · simp [told]
    · have same : x = y := Dict.value_unique once shown (List.mem_append_left _ among)
      simp [same, apart]
  · rw [itemsFor_untold told] at written
    have same : x = y := Dict.value_unique once shown (List.mem_append_left _ written)
    simp [same, told]

end Tenancy

/-! ## Records of new rows -/

/-- The generated id under the name of the id column, for a row that has none of its own. -/
def WriteResult.idItem (result : WriteResult) (name : String) (items : List (String × Value)) :
    List (String × Value) :=
  if result.lastInsertId.isNull ∨ name ∈ items.map (·.1) then []
  else [(name, result.lastInsertId)]

theorem WriteResult.names_idItem {items : List (String × Value)} (once : (items.map (·.1)).Nodup)
    (result : WriteResult) (name : String) :
    ((items ++ result.idItem name items).map (·.1)).Nodup := by
  unfold idItem
  split
  · rwa [List.append_nil]
  · next needed => exact Dict.names_concat once (not_or.mp needed).2 _

theorem Gateway.insertedRecord_ofItems {r : Request} {name : String}
    (identified : r.idColumn = .text name) (items : List (String × Value))
    (result : WriteResult) :
    insertedRecord r (.ofItems items) result =
      .ok (.ofItems (items ++ result.idItem name items)) := by
  have key : (Value.text name).isKey = true := rfl
  unfold insertedRecord WriteResult.idItem
  split
  · next missing => simp [missing, Value.isNull]
  · next given =>
    have there : ¬ result.lastInsertId.isNull := by
      cases id : result.lastInsertId with
      | null => exact absurd id given
      | _ => simp [Value.isNull]
    simp only [identified, key, Dict.has_ofItems, there, false_or, Bool.not_true, if_false,
      Bool.false_eq_true]
    split
    · rw [List.append_nil]
    · next absent => rw [Dict.put_ofItems_of_not_mem absent]

theorem Assembler.insert_returnsRow {a : Assembler} {table asked : Value} {data : Dict}
    {s : Statement} (compiled : a.insert table data asked = .ok s) :
    s.returnsRow = (returningOf a.dialect asked).isGiven := by
  obtain ⟨_, _, _, _, _, rfl⟩ := insert_eq_ok compiled
  rfl

namespace Gateway

variable {g : Gateway} {r : Request} {data : Value} {recorder : Recorder} {record : Dict}

theorem insert_eq_ok (ran : (g.insert r data recorder).outcome = .ok record) :
    ∃ s, g.access.insert r data = .ok s ∧
      (g.insert r data recorder).recorder =
        recorder.taking ⟨if s.returnsRow then .query else .execute, .text s.sql, s.params⟩ ∧
      GatewayCall.insertedRow r s data (recorder.rows.headD [])
        (recorder.results.headD Recorder.standardResult) = .ok record := by
  have answered : ((GatewayCall.insert data).run g r recorder).outcome =
      .ok (.record (some record)) := congrArg (Except.map _) ran
  cases compiles : (Operation.onGateway g r (.insert data)).compiled with
  | error fault =>
    rw [(GatewayCall.run_error compiles recorder).2] at answered
    cases answered
  | ok s =>
    obtain ⟨taken, shaped⟩ := GatewayCall.run_ok compiles recorder
    rw [answered, GatewayCall.answer] at shaped
    obtain ⟨row, shown, same⟩ := Except.map_eq_ok.mp shaped.symm
    cases same
    rw [Operation.compiled, Except.bind_eq_ok] at compiles
    obtain ⟨_, _, compiles⟩ := compiles
    exact ⟨s, AccessCall.insert_eq_ok compiles, taken, shown⟩

theorem unreturned_record {name : String} (identified : r.idColumn = .text name)
    {items : List (String × Value)}
    (unreturned : g.access.assembler.dialect.hasReturning → recorder.rows.headD [] = [])
    {s : Statement} (compiled : g.access.insert r (.dict (Dict.ofItems items)) = .ok s)
    (shaped : GatewayCall.insertedRow r s (.dict (Dict.ofItems items)) (recorder.rows.headD [])
      (recorder.results.headD Recorder.standardResult) = .ok record) :
    record = .ofItems (items ++ if g.access.assembler.dialect.hasReturning then []
      else (recorder.results.headD Recorder.standardResult).idItem name items) := by
  rw [Access.insert_dict, Except.bind_eq_ok] at compiled
  obtain ⟨table, _, compiled⟩ := compiled
  have asked : s.returnsRow = g.access.assembler.dialect.hasReturning := by
    rw [Assembler.insert_returnsRow compiled]
    cases g.access.assembler.dialect <;> rfl
  unfold GatewayCall.insertedRow at shaped
  rw [asked] at shaped
  cases returning : g.access.assembler.dialect.hasReturning with
  | true =>
    rw [returning, unreturned returning] at shaped
    cases shaped
    simp
  | false =>
    rw [returning] at shaped
    have whole : insertedRecord r (.ofItems items)
        (recorder.results.headD Recorder.standardResult) = .ok record := shaped
    rw [insertedRecord_ofItems identified] at whole
    cases whole
    simp

end Gateway

/-- An insert that is answered without a returned row gives the data, with the generated id behind
it if a write gave one and the data has none. Each of its values is the one that the statement binds
for its column, if it binds one; only the column of a tenant who is told apart may differ, and it
does so just if the data has another value there than the tenant. -/
theorem inserted_record_differs_under_tenant_column_only (g : Gateway) (r : Request)
    {idName : String} (identified : r.idColumn = .text idName) {items : List (String × Value)}
    (once : (items.map (·.1)).Nodup) (recorder : Recorder)
    (unreturned : g.access.assembler.dialect.hasReturning → recorder.rows.headD [] = [])
    {record : Dict}
    (ran : (g.insert r (.dict (Dict.ofItems items)) recorder).outcome = .ok record) :
    ∃ (channel : Channel) (sql : String) (params : List Value) (table : List String)
        (row : List (List String × Value)) (returned : Bool)
        (written shown : List (String × Value)),
      (g.insert r (.dict (Dict.ofItems items)) recorder).recorder =
        recorder.taking ⟨channel, .text sql, params⟩ ∧
      Command.ofText g.access.assembler.dialect sql params = some (.insert table row returned) ∧
      Command.Assigns row written ∧
      record = Dict.ofItems shown ∧
      shown = items ++ (if g.access.assembler.dialect.hasReturning then []
        else (recorder.results.headD Recorder.standardResult).idItem idName items) ∧
      (∀ item ∈ items, item.1 ∈ written.map (·.1)) ∧
      ∀ name x y, (name, x) ∈ shown → (name, y) ∈ written →
        (x = y ↔ (g.access.tenancy.TellsApart r.effectiveTenant →
          name = g.access.tenancy.column →
            x = .text (g.access.tenancy.tenant r.effectiveTenant))) := by
  obtain ⟨s, compiled, taken, shaped⟩ := Gateway.insert_eq_ok ran
  obtain ⟨table, row, returned, read, assigns⟩ := Access.insert_assigns once compiled
  have names : ((items ++ if g.access.assembler.dialect.hasReturning then []
      else (recorder.results.headD Recorder.standardResult).idItem idName items).map
        (·.1)).Nodup := by
    split
    · rwa [List.append_nil]
    · exact WriteResult.names_idItem once _ idName
  exact ⟨_, s.sql, s.params, table, row, returned, _, _, taken, read, assigns,
    Gateway.unreturned_record identified unreturned compiled shaped, rfl,
    fun item member => Tenancy.name_mem_itemsFor _ _ (List.mem_map_of_mem member),
    fun name x y shown written => Tenancy.shown_eq_written_iff names shown written⟩

theorem record_of_new_ticket_has_written_values :
    ∃ (row : List (List String × Value)) (written : List (String × Value)),
      Command.Assigns row written ∧ "title" ∈ written.map (·.1) ∧
      ∀ x y, ("title", x) ∈ [("title", Value.text "a"), ("id", Value.int 7)] →
        ("title", y) ∈ written → x = y := by
  have once : ([("title", Value.text "a")].map (·.1)).Nodup := by decide
  have ran : (Gateway.insert
      ⟨.make .sqlite ⟨.column, "tenant_id", "_", "public"⟩ ⟨.empty, none⟩, false⟩
      ⟨.text "t", [], .empty, .text "acme", .empty, [], .text "id"⟩
      (.dict (Dict.ofItems [("title", .text "a")])) ⟨[], [], [⟨.int 1, .int 7⟩]⟩).outcome =
        .ok [(.text "title", .text "a"), (.text "id", .int 7)] := by
    cbv
  obtain ⟨_, _, _, _, row, _, written, _, _, _, assigns, _, rfl, listed, same⟩ :=
    inserted_record_differs_under_tenant_column_only _ _ rfl once _ (by decide) ran
  refine ⟨row, written, assigns, listed _ (List.mem_singleton_self _), ?_⟩
  intro x y member bound
  refine (same "title" x y member bound).mpr ?_
  intro _ column
  exact absurd column (by decide)

/-- A ticket whose data names another tenant: it is written for the request's own, and shown as the
other's. -/
theorem record_shows_tenant_that_was_not_written :
    let g : Gateway :=
      ⟨.make .sqlite ⟨.column, "tenant_id", "_", "public"⟩ ⟨.empty, none⟩, false⟩
    let r : Request := ⟨.text "tickets", [], .empty, .text "acme", .empty, [], .text "id"⟩
    let ran := g.insert r (.dict [(.text "tenant_id", .text "other"), (.text "title", .text "x")])
      .empty
    ran.outcome = .ok [(.text "tenant_id", .text "other"), (.text "title", .text "x")] ∧
      ran.recorder.sent.map (fun s => (s.sql, s.params)) =
        [(.text "INSERT INTO \"tickets\" (\"tenant_id\", \"title\") VALUES (?, ?)",
          [.text "acme", .text "x"])] ∧
      Command.ofText .sqlite "INSERT INTO \"tickets\" (\"tenant_id\", \"title\") VALUES (?, ?)"
          [Value.text "acme", .text "x"] =
        some (.insert ["tickets"]
          [(["tenant_id"], .text "acme"), (["title"], .text "x")] false) := by
  refine ⟨?_, ?_, ?_⟩
  · cbv
  · cbv
  · cbv

end ScopedSql
