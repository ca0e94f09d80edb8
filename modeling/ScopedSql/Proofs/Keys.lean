import Mathlib
import ScopedSql.Value.Dict

/-! Texts as keys of dictionaries: a key is equal to a text just if it is that text, and of all that
was put under one text the last is found. Where all keys are texts, what is put goes into the place
of the item of that name, or last if there is none.
-/

set_option autoImplicit false

namespace ScopedSql

namespace Value

theorem equal_text_iff {x : Value} {s : String} : x.equal (.text s) ↔ x.asText? = some s := by
  cases x <;> simp [equal, equalScalar, asNumber?, asText?]

theorem equal_of_asText? {x y : Value} {s : String} (first : x.asText? = some s)
    (second : y.asText? = some s) : x.equal y := by
  cases x with
  | text | member => cases y <;> simp_all [equal, equalScalar, asNumber?, asText?]
  | _ => cases first

end Value

namespace Dict

theorem at?_cons (entry : Value × Value) (rest : Dict) (name : String) :
    at? (entry :: rest) name =
      if entry.1.equal (.text name) then some entry.2 else rest.at? name := by
  cases equal : entry.1.equal (.text name) <;> simp [at?, get?, equal]

theorem at?_cons_text (s name : String) (x : Value) (rest : Dict) :
    at? ((.text s, x) :: rest) name = if s = name then some x else rest.at? name := by
  have key : (Value.text s).equal (.text name) ↔ s = name :=
    Value.equal_text_iff.trans Option.some_inj
  rw [at?_cons]
  simp only [key]

theorem at?_put (s name : String) (x : Value) (entries : Dict) :
    at? (put (.text s) x entries) name = if s = name then some x else entries.at? name := by
  induction entries with
  | nil => exact at?_cons_text s name x []
  | cons entry rest ih =>
    by_cases taken : entry.1.equal (.text s)
    · have key : entry.1.equal (.text name) ↔ s = name := by
        rw [Value.equal_text_iff, Value.equal_text_iff.mp taken, Option.some_inj]
      rw [put, if_pos taken, at?_cons, at?_cons]
      by_cases same : s = name <;> simp [key, same]
    · rw [put, if_neg taken, at?_cons, at?_cons, ih]
      by_cases found : entry.1.equal (.text name)
      · -- the entry that is found is not the one that was put
        have other : s ≠ name := by
          rintro rfl
          exact taken found
        simp [found, other]
      · simp [found]

/-- Of the entries that were put one after the other the last one under a text is found. -/
theorem at?_ofEntries {α : Type} (value : α → Value) (entries : List (String × α))
    (name : String) :
    at? (ofEntries (entries.map fun entry => (.text entry.1, value entry.2))) name =
      (entries.reverse.lookup name).map value := by
  induction entries using List.reverseRecOn with
  | nil => rfl
  | append_singleton entries last ih =>
    have puts : ofEntries ((entries ++ [last]).map fun entry => (.text entry.1, value entry.2)) =
        put (.text last.1) (value last.2)
          (ofEntries (entries.map fun entry => (.text entry.1, value entry.2))) := by
      simp [ofEntries]
    rw [puts, at?_put, ih, List.reverse_concat, List.lookup_cons]
    by_cases same : last.1 = name
    · simp [same]
    · simp [same, beq_eq_false_iff_ne.mpr (Ne.symm same)]

theorem put_of_absent (x : Value) {entries : Dict} {name : String}
    (absent : entries.at? name = none) :
    put (.text name) x entries = entries ++ [(.text name, x)] := by
  induction entries with
  | nil => rfl
  | cons entry rest ih =>
    by_cases taken : entry.1.equal (.text name)
    · rw [at?_cons, if_pos taken] at absent
      cases absent
    · rw [at?_cons, if_neg taken] at absent
      rw [put, if_neg taken, ih absent]
      rfl

/-! ## Dictionaries of items under names -/

def ofItems (items : List (String × Value)) : Dict :=
  items.map fun item => (.text item.1, item.2)

theorem ofItems_append (items more : List (String × Value)) :
    ofItems (items ++ more) = ofItems items ++ ofItems more := List.map_append

theorem at?_ofItems_eq_none {items : List (String × Value)} {name : String} :
    (ofItems items).at? name = none ↔ name ∉ items.map (·.1) := by
  induction items with
  | nil => simp [ofItems, at?, get?]
  | cons item rest ih =>
    rw [ofItems, List.map_cons, at?_cons_text, ← ofItems, List.map_cons, List.mem_cons, not_or,
      ← ih]
    by_cases same : item.1 = name
    · simp [same]
    · simp [same, Ne.symm same]

theorem has_ofItems {items : List (String × Value)} {name : String} :
    (ofItems items).has (.text name) ↔ name ∈ items.map (·.1) := by
  have found : (ofItems items).has (.text name) ↔ (ofItems items).at? name ≠ none :=
    Option.isSome_iff_ne_none
  rw [found, ne_eq, at?_ofItems_eq_none, not_not]

theorem put_ofItems_of_not_mem {items : List (String × Value)} {name : String}
    (absent : name ∉ items.map (·.1)) (x : Value) :
    put (.text name) x (ofItems items) = ofItems (items ++ [(name, x)]) := by
  rw [put_of_absent x (at?_ofItems_eq_none.mpr absent), ofItems_append]
  rfl

theorem put_ofItems_of_mem {items : List (String × Value)} {name : String}
    (once : (items.map (·.1)).Nodup) (present : name ∈ items.map (·.1)) (x : Value) :
    put (.text name) x (ofItems items) =
      ofItems (items.map fun item => if item.1 = name then (name, x) else item) := by
  induction items with
  | nil => simp at present
  | cons item rest ih =>
    obtain ⟨other, y⟩ := item
    obtain ⟨alone, once⟩ := List.nodup_cons.mp once
    have key : (Value.text other).equal (.text name) ↔ other = name :=
      Value.equal_text_iff.trans Option.some_inj
    by_cases same : other = name
    · -- behind the item of that name the others stay as they are
      subst same
      have others : (rest.map fun item => if item.1 = other then (other, x) else item) = rest := by
        refine (List.map_congr_left fun later member => if_neg fun again => alone ?_).trans
          (List.map_id' rest)
        exact List.mem_map.mpr ⟨later, member, again⟩
      rw [List.map_cons, others, ofItems, List.map_cons, put, if_pos (key.mpr rfl), if_pos rfl]
      rfl
    · have among : name ∈ rest.map (·.1) :=
        (List.mem_cons.mp present).resolve_left (Ne.symm same)
      rw [List.map_cons, if_neg same, ofItems, List.map_cons, put, if_neg (mt key.mp same),
        ← ofItems, ih once among]
      rfl

end Dict

end ScopedSql
