import ScopedSql.Proofs.Keys

/-! Items that are set under names one after the other.

An item takes the place of one that had its name, so each name stands where it came first with what
came last. Items of the same names that are related one by one are still so when they are gathered.
-/

set_option autoImplicit false

namespace ScopedSql

/-- Items with one more; it takes the place of an item of its name. -/
def putItem {α : Type} (name : String) (a : α) : List (String × α) → List (String × α)
  | [] => [(name, a)]
  | item :: rest => if item.1 = name then (name, a) :: rest else item :: putItem name a rest

def collected {α : Type} (items : List (String × α)) : List (String × α) :=
  items.foldl (fun found item => putItem item.1 item.2 found) []

namespace Item

variable {α β : Type}

theorem collected_concat (items : List (String × α)) (item : String × α) :
    collected (items ++ [item]) = putItem item.1 item.2 (collected items) := by
  simp [collected]

/-- Whether two lists have items of the same names, each related to the other. -/
def Alike (R : α → β → Prop) : List (String × α) → List (String × β) → Prop :=
  List.Forall₂ fun x y => x.1 = y.1 ∧ R x.2 y.2

theorem Alike.putItem {R : α → β → Prop} {xs : List (String × α)} {ys : List (String × β)}
    (alike : Alike R xs ys) (name : String) {a : α} {b : β} (related : R a b) :
    Alike R (putItem name a xs) (putItem name b ys) := by
  induction alike with
  | nil => exact .cons ⟨rfl, related⟩ .nil
  | cons first rest ih =>
    rw [ScopedSql.putItem, ScopedSql.putItem, first.1]
    split
    · exact .cons ⟨rfl, related⟩ rest
    · exact .cons first ih

theorem Alike.gathered {R : α → β → Prop} {xs found : List (String × α)}
    {ys found' : List (String × β)} (alike : Alike R xs ys) (before : Alike R found found') :
    Alike R (xs.foldl (fun found item => ScopedSql.putItem item.1 item.2 found) found)
      (ys.foldl (fun found item => ScopedSql.putItem item.1 item.2 found) found') := by
  induction alike generalizing found found' with
  | nil => exact before
  | cons first _ ih =>
    rw [List.foldl_cons, List.foldl_cons, first.1]
    exact ih (before.putItem _ first.2)

theorem Alike.collected {R : α → β → Prop} {xs : List (String × α)} {ys : List (String × β)}
    (alike : Alike R xs ys) : Alike R (collected xs) (collected ys) :=
  alike.gathered .nil

theorem Alike.unique {R R' : α → β → Prop} {xs : List (String × α)}
    {ys zs : List (String × β)} (same : ∀ x y z, R x y → R' x z → y = z) (first : Alike R xs ys)
    (second : Alike R' xs zs) : ys = zs := by
  induction first generalizing zs with
  | nil =>
    cases second
    rfl
  | cons related _ ih =>
    cases second with
    | cons related' rest =>
      rw [ih rest]
      exact congrArg (· :: _)
        (Prod.ext (related.1.symm.trans related'.1) (same _ _ _ related.2 related'.2))

theorem collected_map (f : α → β) (items : List (String × α)) :
    collected (items.map fun item => (item.1, f item.2)) =
      (collected items).map fun item => (item.1, f item.2) := by
  have mapped : ∀ items : List (String × α),
      Alike (fun a b => f a = b) items (items.map fun item => (item.1, f item.2)) := by
    intro items
    rw [Alike, List.forall₂_map_right_iff, List.forall₂_same]
    exact fun _ _ => ⟨rfl, rfl⟩
  exact (mapped items).collected.unique (fun _ _ _ first second => first.symm.trans second)
    (mapped (collected items))

theorem putItem_of_not_mem {name : String} {items : List (String × α)}
    (absent : name ∉ items.map (·.1)) (a : α) : putItem name a items = items ++ [(name, a)] := by
  induction items with
  | nil => rfl
  | cons item rest ih =>
    rw [List.map_cons, List.mem_cons, not_or] at absent
    rw [putItem, if_neg (Ne.symm absent.1), ih absent.2]
    rfl

theorem names_putItem (name : String) (a : α) (items : List (String × α)) :
    (putItem name a items).map (·.1) =
      if name ∈ items.map (·.1) then items.map (·.1) else items.map (·.1) ++ [name] := by
  induction items with
  | nil => rfl
  | cons item rest ih =>
    by_cases same : item.1 = name
    · simp [putItem, same]
    · rw [putItem, if_neg same, List.map_cons, ih]
      by_cases later : name ∈ rest.map (·.1) <;> simp [later, Ne.symm same]

theorem nodup_collected (items : List (String × α)) : ((collected items).map (·.1)).Nodup := by
  induction items using List.reverseRecOn with
  | nil => exact .nil
  | append_singleton items item ih =>
    rw [collected_concat, names_putItem]
    split
    · exact ih
    · next absent =>
      rw [← List.concat_eq_append]
      exact ih.concat absent

theorem collected_of_nodup {items : List (String × α)} (once : (items.map (·.1)).Nodup) :
    collected items = items := by
  induction items using List.reverseRecOn with
  | nil => rfl
  | append_singleton items item ih =>
    rw [List.map_append, List.nodup_append] at once
    have absent : item.1 ∉ items.map (·.1) := fun member =>
      once.2.2 _ member _ (by simp) rfl
    rw [collected_concat, ih once.1, putItem_of_not_mem absent]

end Item

theorem Dict.put_text_ofItems (name : String) (x : Value) (items : List (String × Value)) :
    put (.text name) x (ofItems items) = ofItems (putItem name x items) := by
  induction items with
  | nil => rfl
  | cons item rest ih =>
    have key : (Value.text item.1).equal (.text name) ↔ item.1 = name :=
      Value.equal_text_iff.trans Option.some_inj
    by_cases same : item.1 = name
    · rw [putItem, if_pos same, ofItems, List.map_cons, put, if_pos (key.mpr same), same]
      rfl
    · rw [putItem, if_neg same, ofItems, List.map_cons, put, if_neg (mt key.mp same), ← ofItems, ih]
      rfl

theorem Dict.ofEntries_ofItems (items : List (String × Value)) :
    ofEntries (ofItems items) = ofItems (collected items) := by
  induction items using List.reverseRecOn with
  | nil => rfl
  | append_singleton items item ih =>
    have step : ofEntries (ofItems (items ++ [item])) =
        put (.text item.1) item.2 (ofEntries (ofItems items)) := by
      simp [ofEntries, ofItems]
    rw [step, ih, put_text_ofItems, Item.collected_concat]

end ScopedSql
