import ScopedSql.Definition.Schema
import ScopedSql.Proofs.Definition.Quoting
import ScopedSql.Proofs.Number.Display
import ScopedSql.Proofs.Statement.Names

/-! The text of a new table.

The tokens of a column and of a constraint are made from what was asked for, without a word of SQL.
Read with its quotes, the text of a table is a head and, between brackets, just these tokens with
commas between them. A default is one token whatever it holds, so it can neither end early nor add
to what is defined.
-/

set_option autoImplicit false

namespace ScopedSql

open Quoting (Token)

/-! ## Lists between brackets -/

namespace Quoting

/-- The depth in brackets behind a token, if it neither separates parts nor ends the last one. -/
def Token.depth? : Token → Nat → Option Nat
  | .opening, depth => some (depth + 1)
  | .closing, depth + 1 => some depth
  | .closing, 0 | .comma, 0 => none
  | .name _, depth | .literal _, depth | .word _, depth | .comma, depth => some depth

/-- The parts between commas outside brackets, up to the bracket that closes the list: the first
part, the others, and what stands behind. -/
def partsToClose : Nat → List Token → Option (List Token × List (List Token) × List Token)
  | _, [] => none
  | depth, token :: rest =>
    match token.depth? depth with
    | some deeper =>
      (partsToClose deeper rest).map fun (part, parts, rest) => (token :: part, parts, rest)
    | none =>
      if token = .closing then some ([], [], rest)
      else (partsToClose depth rest).map fun (part, parts, rest) => ([], part :: parts, rest)

/-- A definition: what stands in front of its brackets, and the parts between them. -/
structure Outline where
  head : List Token
  parts : List (List Token)
  deriving DecidableEq, Repr

/-- The outline of a text that ends with the bracket which closes its first one. -/
def outline? (tokens : List Token) : Option Outline :=
  match tokens.dropWhile (· ≠ .opening) with
  | [] => none
  | _ :: rest =>
    match partsToClose 0 rest with
    | some (part, parts, []) => some ⟨tokens.takeWhile (· ≠ .opening), part :: parts⟩
    | _ => none

def depthAfter? (depth : Nat) (ts : List Token) : Option Nat :=
  ts.foldlM (fun depth token => token.depth? depth) depth

/-- Tokens with no comma outside brackets, and no bracket without its partner. -/
def Whole (ts : List Token) : Prop :=
  depthAfter? 0 ts = some 0

def Token.Flat : Token → Prop
  | .name _ | .literal _ | .word _ => True
  | .opening | .closing | .comma => False

theorem depthAfter?_append (depth : Nat) (ts us : List Token) :
    depthAfter? depth (ts ++ us) = (depthAfter? depth ts).bind (depthAfter? · us) :=
  List.foldlM_append

theorem depthAfter?_flat {ts : List Token} (flat : ∀ token ∈ ts, token.Flat) (depth : Nat) :
    depthAfter? depth ts = some depth := by
  induction ts with
  | nil => rfl
  | cons token ts ih =>
    obtain ⟨head, tail⟩ := List.forall_mem_cons.mp flat
    have kept : token.depth? depth = some depth := by
      cases token <;> first | rfl | cases head
    rw [depthAfter?, List.foldlM_cons, kept]
    exact ih tail

theorem Whole.nil : Whole [] := rfl

theorem Whole.flat {ts : List Token} (flat : ∀ token ∈ ts, token.Flat) : Whole ts :=
  depthAfter?_flat flat 0

theorem Whole.append {ts us : List Token} (first : Whole ts) (second : Whole us) :
    Whole (ts ++ us) := by
  rw [Whole, depthAfter?_append, first]
  exact second

theorem Whole.flatten {lists : List (List Token)} (each : ∀ ts ∈ lists, Whole ts) :
    Whole lists.flatten := by
  induction lists with
  | nil => exact .nil
  | cons ts lists ih =>
    obtain ⟨head, tail⟩ := List.forall_mem_cons.mp each
    exact head.append (ih tail)

theorem mem_ofName {segments : List String} {token : Token}
    (member : token ∈ Token.ofName segments) :
    (∃ segment, token = .name segment) ∨ token = .word "." := by
  induction segments with
  | nil => simp [Token.ofName] at member
  | cons first rest ih =>
    cases rest with
    | nil => exact .inl ⟨first, by simpa [Token.ofName] using member⟩
    | cons second rest =>
      rw [Token.ofName_cons first (List.cons_ne_nil second rest), List.mem_cons,
        List.mem_cons] at member
      rcases member with name | dot | later
      · exact .inl ⟨first, name⟩
      · exact .inr dot
      · exact ih later

theorem flat_ofName (segments : List String) : ∀ token ∈ Token.ofName segments, token.Flat := by
  intro token member
  rcases mem_ofName member with ⟨segment, rfl⟩ | rfl
  · trivial
  · trivial

theorem partsToClose_append {ts : List Token} {depth last : Nat}
    (inside : depthAfter? depth ts = some last)
    (rest : List Token) :
    partsToClose depth (ts ++ rest) =
      (partsToClose last rest).map fun (part, parts, rest) => (ts ++ part, parts, rest) := by
  induction ts generalizing depth with
  | nil =>
    cases inside
    simp
  | cons token ts ih =>
    rw [depthAfter?, List.foldlM_cons, Option.bind_eq_bind, Option.bind_eq_some_iff] at inside
    obtain ⟨deeper, goes, inside⟩ := inside
    rw [List.cons_append, partsToClose, goes]
    simp only [ih inside, Option.map_map]
    rfl

theorem partsToClose_intercalate {first : List Token} {parts : List (List Token)}
    (whole : ∀ part ∈ first :: parts, Whole part) (rest : List Token) :
    partsToClose 0 ([.comma].intercalate (first :: parts) ++ .closing :: rest) =
      some (first, parts, rest) := by
  induction parts generalizing first with
  | nil =>
    rw [List.intercalate_singleton, partsToClose_append (whole first List.mem_cons_self)]
    simp [partsToClose, Token.depth?]
  | cons second parts ih =>
    obtain ⟨head, tail⟩ := List.forall_mem_cons.mp whole
    rw [List.intercalate_cons_cons, List.append_assoc, List.append_assoc, partsToClose_append head,
      List.singleton_append, partsToClose]
    simp [Token.depth?, ih tail]

theorem outline?_eq {head : List Token} (flat : .opening ∉ head) {parts : List (List Token)}
    (nonempty : parts ≠ []) (whole : ∀ part ∈ parts, Whole part) :
    outline? (head ++ .opening :: ([.comma].intercalate parts ++ [.closing])) =
      some ⟨head, parts⟩ := by
  obtain ⟨first, parts, rfl⟩ := List.exists_cons_of_ne_nil nonempty
  have passes : ∀ token ∈ head, decide (token ≠ .opening) = true := by
    intro token member
    rw [decide_eq_true_iff]
    rintro rfl
    exact flat member
  rw [outline?, List.dropWhile_append_of_pos passes, List.takeWhile_append_of_pos passes]
  simp [partsToClose_intercalate whole []]

end Quoting

/-! ## What was asked for, in tokens -/

namespace Definition

def words (letters : List String) : List Token :=
  letters.map .word

def bracketed (ts : List Token) : List Token :=
  .opening :: ts ++ [.closing]

def typeTokens : Dialect → ColumnType → List Token
  | .postgres, .string | .mysql, .string => words ["VARCHAR"] ++ bracketed (words ["255"])
  | .mysql, .uuid => words ["VARCHAR"] ++ bracketed (words ["36"])
  | d, type => [.word (d.typeName type)]

def autoIncrementTokens : Dialect → List Token
  | .postgres => words ["GENERATED", "ALWAYS", "AS", "IDENTITY"]
  | .mysql => words ["AUTO_INCREMENT"]
  | .sqlite => []

/-- The one token of a default: a word where the value has a word of its own, a literal for any
other. -/
def defaultToken (d : Dialect) (x : Value) : Token :=
  if x.asText?.map Text.capital = some "CURRENT_TIMESTAMP" then .word "CURRENT_TIMESTAMP"
  else match x with
    | .null => .word "NULL"
    | .bool b => .word (d.boolText b)
    | .int _ | .double _ => .word x.literal
    | _ => .literal x.plain

def columnTokens (d : Dialect) (c : Column) : List Token :=
  Token.ofName (Identifier.segmentsOf c.name) ++
    [typeTokens d c.type, if c.autoIncrement then autoIncrementTokens d else [],
      (c.default.map fun x => [.word "DEFAULT", defaultToken d x]).getD [],
      if !c.nullable && !c.primaryKey then words ["NOT", "NULL"] else [],
      if c.unique then words ["UNIQUE"] else [],
      if c.primaryKey then words ["PRIMARY", "KEY"] else []].flatten

def actionTokens : ReferentialAction → List Token
  | .cascade => words ["CASCADE"]
  | .restrict => words ["RESTRICT"]
  | .setNull => words ["SET", "NULL"]
  | .setDefault => words ["SET", "DEFAULT"]
  | .noAction => words ["NO", "ACTION"]

def onTokens (event : String) (action : Option ReferentialAction) : List Token :=
  (action.map fun a => words ["ON", event] ++ actionTokens a).getD []

def foreignKeyTokens (name : String) (r : Reference) : List Token :=
  words ["FOREIGN", "KEY"] ++ bracketed (Token.ofName (Identifier.segmentsOf name)) ++
    [words ["REFERENCES"] ++ Token.ofName (Identifier.segmentsOf r.table) ++
        bracketed (Token.ofName (Identifier.segmentsOf r.column)),
      onTokens "DELETE" r.onDelete, onTokens "UPDATE" r.onUpdate].flatten

/-- The outline of a new table: a part for each column, then one for each that refers to a table. -/
def tableOutline (d : Dialect) (table : Value) (columns : List Column) (ifNotExists : Bool) :
    Quoting.Outline where
  head := words (["CREATE", "TABLE"] ++ if ifNotExists then ["IF", "NOT", "EXISTS"] else []) ++
    Token.ofName table.segments
  parts := columns.map (columnTokens d) ++
    columns.filterMap fun c => c.references.map (foreignKeyTokens c.name)

end Definition

/-! ## Texts of parts -/

namespace Sql

open Quoting (isBreak)

variable {d : Dialect} {part second : Sql} {ts us : List Token}

/-- Wherever it stands, the part is a text of these tokens. -/
def Tells (d : Dialect) (part : Sql) (ts : List Token) : Prop :=
  ∀ start, d.quoting.read (part.render d start) = some ts

def Told (d : Dialect) (part : Sql) (ts : List Token) : Prop :=
  part = [] ∧ ts = [] ∨ part ≠ [] ∧ Tells d part ts

theorem Tells.text {s : String} (reads : d.quoting.read s = some ts) : Tells d [.text s] ts := by
  intro start
  rwa [render, render, String.append_empty]

theorem Tells.told (tells : Tells d part ts) (shown : part ≠ []) : Told d part ts :=
  .inr ⟨shown, tells⟩

theorem Tells.name {x : Value} (named : Assembler.nameSql x = .ok part) :
    Tells d part (Token.ofName x.segments) := by
  obtain ⟨n, rfl, segments⟩ := Assembler.nameSql_eq_ok named
  intro start
  rw [render, render, String.append_empty, ← segments]
  refine Quoting.read_quote n ?_
  rw [segments]
  exact Identifier.segmentsOf_ne_nil _

theorem Tells.opened {s : String} (reads : d.quoting.read s = some us)
    (breaks : s.toList.getLast?.any isBreak) (tells : Tells d part ts) :
    Tells d (.text s :: part) (us ++ ts) := fun start =>
  Quoting.read_append_of_break reads breaks (tells start)

theorem Tells.append {s : String} (first : Tells d part ts)
    (breaks : s.toList.head?.any isBreak) (next : Tells d (.text s :: second) us) :
    Tells d (part ++ .text s :: second) (ts ++ us) := by
  intro start
  rw [render_append]
  refine Quoting.read_append (first start) (next _) ?_
  have nonempty : s.toList ≠ [] := by
    intro empty
    rw [empty] at breaks
    cases breaks
  rwa [render, String.toList_append, List.head?_append_of_ne_nil _ nonempty]

theorem Tells.separated {s : String} {ks : List Token} (first : Tells d part ts)
    (reads : d.quoting.read s = some ks) (opens : s.toList.head?.any isBreak)
    (closes : s.toList.getLast?.any isBreak) (next : Tells d second us) :
    Tells d (part ++ .text s :: second) (ts ++ (ks ++ us)) :=
  first.append opens (.opened reads closes next)

theorem Tells.spaced (first : Tells d part ts) (next : Tells d second us) :
    Tells d (part ++ .text " " :: second) (ts ++ us) :=
  have nothing : d.quoting.read " " = some [] := rfl
  first.separated nothing rfl rfl next

theorem Tells.closed (tells : Tells d part ts) :
    Tells d (part ++ [.text ")"]) (ts ++ [.closing]) :=
  tells.append rfl (.text rfl)

theorem Tells.behind {parts : List Sql} {lists : List (List Token)} (first : Tells d part ts)
    (each : List.Forall₂ (Told d) parts lists) :
    Tells d (part ++ Sql.behind parts) (ts ++ lists.flatten) := by
  induction each generalizing part ts with
  | nil => simpa [Sql.behind] using first
  | @cons other us parts lists head _ ih =>
    rcases head with ⟨rfl, rfl⟩ | ⟨shown, tells⟩
    · exact ih first
    · have both := ih (first.spaced tells)
      rw [behind_cons shown, List.flatten_cons]
      simpa using both

theorem Tells.joined {parts : List Sql} {lists : List (List Token)}
    (each : List.Forall₂ (Tells d) parts lists) (nonempty : parts ≠ []) :
    Tells d (joined ", " parts) ([.comma].intercalate lists) := by
  induction each with
  | nil => exact absurd rfl nonempty
  | @cons part ts parts lists head tail ih =>
    cases tail with
    | nil => simpa [Sql.joined] using head
    | cons second rest =>
      rw [joined_cons_cons, List.intercalate_cons_cons, List.append_assoc]
      exact head.separated rfl rfl rfl (ih (by simp))

end Sql

/-! ## Columns and constraints -/

namespace Definition

open Assembler (nameSql)
open Sql (Tells Told)

variable {d : Dialect}

theorem typeNamed_word (d : Dialect) (type : ColumnType) :
    d.typeNamed type.word = d.typeName type := by
  cases d <;> cases type <;> decide +kernel

theorem read_type (d : Dialect) (type : ColumnType) :
    d.quoting.read (d.typeNamed type.word) = some (typeTokens d type) := by
  rw [typeNamed_word]
  cases d <;> cases type <;> decide +kernel

theorem isWordChar_of_isDisplayed (d : Dialect) {c : Char} (displayed : Numeral.isDisplayed c) :
    d.quoting.isWordChar c := by
  simp only [Quoting.isWordChar, Bool.and_eq_true, Bool.not_eq_true', decide_eq_true_eq]
  refine ⟨⟨?_, ?_⟩, ?_⟩
  · by_contra breaks
    simp only [Quoting.isBreak, Char.isWhitespace, Bool.not_eq_false, Bool.or_eq_true,
      decide_eq_true_eq] at breaks
    rcases breaks with (((((rfl | rfl) | rfl) | rfl) | rfl) | rfl) | rfl <;> cases displayed
  · rintro rfl
    cases d <;> cases displayed
  · rintro rfl
    cases displayed

theorem read_number (d : Dialect) {s : String}
    (displayed : s ≠ "" ∧ ∀ c ∈ s.toList, Numeral.isDisplayed c) :
    d.quoting.read s = some [.word s] :=
  Quoting.read_word displayed.1 fun c member => isWordChar_of_isDisplayed d (displayed.2 c member)

/-- A default is one token, and of a text that is no current time the literal of that text. -/
theorem read_default (d : Dialect) (x : Value) :
    d.quoting.read (d.defaultText x) = some [defaultToken d x] := by
  unfold Dialect.defaultText defaultToken
  by_cases now : x.asText?.map Text.capital = some "CURRENT_TIMESTAMP"
  · rw [if_pos now]
    simp only [now, if_true]
    cases d <;> rfl
  · simp only [now, if_false]
    cases x with
    | null => cases d <;> rfl
    | bool b => cases d <;> cases b <;> rfl
    | int n => exact read_number d (Numeral.displayed_toString n)
    | double x => exact read_number d (Double.displayed_text x)
    | _ => exact Quoting.read_literal rfl _

theorem told_word (asked : Bool) {s : String} {ts : List Token}
    (reads : d.quoting.read s = some ts) :
    Told d (word asked s) (if asked then ts else []) := by
  cases asked with
  | false => exact .inl ⟨rfl, rfl⟩
  | true => exact (Tells.text reads).told (by simp)

theorem told_autoIncrement (d : Dialect) :
    Told d ((d.autoIncrement?.map fun s => [Piece.text s]).getD []) (autoIncrementTokens d) := by
  cases d with
  | postgres => exact (Tells.text rfl).told (by simp)
  | mysql => exact (Tells.text rfl).told (by simp)
  | sqlite => exact .inl ⟨rfl, rfl⟩

theorem nameSql_ne_nil {x : Value} {name : Sql} (named : nameSql x = .ok name) : name ≠ [] := by
  obtain ⟨n, rfl, _⟩ := Assembler.nameSql_eq_ok named
  exact List.cons_ne_nil _ _

theorem defaultSql_eq_ok {default : Option Value} {sql : Sql}
    (compiled : defaultSql d default = .ok sql) :
    default = none ∧ sql = [] ∨
      ∃ x, default = some x ∧ sql = [.text ("DEFAULT " ++ d.defaultText x)] := by
  cases default with
  | none => exact .inl ⟨rfl, (Except.ok.inj compiled).symm⟩
  | some x =>
    simp only [defaultSql, Dialect.defaultClause, Except.bind_eq_ok, Except.pure_eq_ok]
      at compiled
    obtain ⟨text, written, rfl⟩ := compiled
    split at written
    · cases written
      exact .inr ⟨x, rfl, rfl⟩
    · cases written

theorem columnSql_tells {c : Column} {sql : Sql} (compiled : columnSql d c = .ok sql) :
    Tells d sql (columnTokens d c) := by
  simp only [columnSql, Except.bind_eq_ok, Except.pure_eq_ok] at compiled
  obtain ⟨name, named, default, defaulted, rfl⟩ := compiled
  have counted : Told d
      (if c.autoIncrement then (d.autoIncrement?.map fun s => [Piece.text s]).getD [] else [])
      (if c.autoIncrement then autoIncrementTokens d else []) := by
    split
    · exact told_autoIncrement d
    · exact .inl ⟨rfl, rfl⟩
  rw [Sql.spaced_cons (nameSql_ne_nil named)]
  refine (Tells.name named).behind
    (.cons ((Tells.text (read_type d c.type)).told (by simp)) (.cons counted (.cons ?_
      (.cons (told_word _ (by cases d <;> rfl)) (.cons (told_word _ (by cases d <;> rfl))
        (.cons (told_word _ (by cases d <;> rfl)) .nil))))))
  rcases defaultSql_eq_ok defaulted with ⟨absent, rfl⟩ | ⟨x, present, rfl⟩
  · rw [absent]
    exact .inl ⟨rfl, rfl⟩
  · rw [present]
    have keyword : d.quoting.read "DEFAULT " = some [.word "DEFAULT"] := by cases d <;> rfl
    have both := Quoting.read_append_of_break keyword rfl (read_default d x)
    exact (Tells.text both).told (by simp)

theorem told_action (d : Dialect) {event : String} (action : Option ReferentialAction)
    (known : event = "DELETE" ∨ event = "UPDATE") :
    Told d (actionSql event action) (onTokens event action) := by
  cases action with
  | none => exact .inl ⟨rfl, rfl⟩
  | some a =>
    refine (Tells.text ?_).told (by simp)
    rcases known with rfl | rfl <;> cases a <;> cases d <;> rfl

theorem foreignKeySql_tells {name : String} {r : Reference} {sql : Sql}
    (compiled : foreignKeySql name r = .ok sql) : Tells d sql (foreignKeyTokens name r) := by
  simp only [foreignKeySql, Except.bind_eq_ok, Except.pure_eq_ok] at compiled
  obtain ⟨column, columnNamed, table, tableNamed, target, targetNamed, rfl⟩ := compiled
  have opens : d.quoting.read "FOREIGN KEY (" = some (words ["FOREIGN", "KEY"] ++ [.opening]) := by
    cases d <;> rfl
  have refers : d.quoting.read "REFERENCES " = some (words ["REFERENCES"]) := by cases d <;> rfl
  have bracket : d.quoting.read "(" = some [.opening] := by cases d <;> rfl
  have key := (Tells.opened opens rfl (.name columnNamed)).closed
  have reference := ((Tells.opened refers rfl (.name tableNamed)).append rfl
    (.opened bracket rfl (.name targetNamed))).closed
  rw [Sql.spaced_cons (by simp)]
  have deleted := told_action d r.onDelete (.inl rfl)
  have updated := told_action d r.onUpdate (.inr rfl)
  have whole := key.behind (.cons (reference.told (by simp)) (.cons deleted (.cons updated .nil)))
  simpa [foreignKeyTokens, bracketed, Value.segments, Value.plain] using whole

/-! ## Parts stay apart -/

open Quoting (Whole)

theorem flat_words (letters : List String) : ∀ token ∈ words letters, token.Flat := by
  intro token member
  obtain ⟨word, _, rfl⟩ := List.mem_map.mp member
  trivial

theorem whole_bracketed {ts : List Token} (flat : ∀ token ∈ ts, token.Flat) :
    Whole (bracketed ts) := by
  have opened : Quoting.depthAfter? 0 [.opening] = some 1 := rfl
  have inside := Quoting.depthAfter?_flat flat 1
  rw [Whole, bracketed, ← List.singleton_append, List.append_assoc, Quoting.depthAfter?_append,
    opened, Option.bind_some, Quoting.depthAfter?_append, inside]
  rfl

theorem whole_typeTokens (d : Dialect) (type : ColumnType) : Whole (typeTokens d type) := by
  cases d <;> cases type <;> rfl

theorem flat_defaultToken (d : Dialect) (x : Value) : (defaultToken d x).Flat := by
  unfold defaultToken
  split
  · trivial
  · split <;> trivial

theorem whole_columnTokens (d : Dialect) (c : Column) : Whole (columnTokens d c) := by
  refine (Whole.flat (Quoting.flat_ofName _)).append (.flatten fun ts member => ?_)
  simp only [List.mem_cons, List.not_mem_nil, or_false] at member
  rcases member with rfl | rfl | rfl | rfl | rfl | rfl
  · exact whole_typeTokens d c.type
  · split
    · cases d <;> rfl
    · rfl
  · cases c.default with
    | none => rfl
    | some x =>
      refine .flat fun token member => ?_
      simp only [Option.map_some, Option.getD_some, List.mem_cons, List.not_mem_nil,
        or_false] at member
      rcases member with rfl | rfl
      · trivial
      · exact flat_defaultToken d x
  all_goals
    split
    · exact .flat (flat_words _)
    · rfl

theorem whole_onTokens (event : String) (action : Option ReferentialAction) :
    Whole (onTokens event action) := by
  cases action with
  | none => rfl
  | some a => cases a <;> rfl

theorem whole_foreignKeyTokens (name : String) (r : Reference) :
    Whole (foreignKeyTokens name r) := by
  refine ((Whole.flat (flat_words _)).append (whole_bracketed (Quoting.flat_ofName _))).append
    (.flatten fun ts member => ?_)
  simp only [List.mem_cons, List.not_mem_nil, or_false] at member
  rcases member with rfl | rfl | rfl
  · exact ((Whole.flat (flat_words _)).append (.flat (Quoting.flat_ofName _))).append
      (whole_bracketed (Quoting.flat_ofName _))
  · exact whole_onTokens _ _
  · exact whole_onTokens _ _

/-! ## The default of a column -/

theorem no_literal_words (letters : List String) (content : String) :
    .literal content ∉ words letters := by
  simp [words]

theorem no_literal_ofName (segments : List String) (content : String) :
    .literal content ∉ Token.ofName segments := by
  intro member
  rcases Quoting.mem_ofName member with ⟨segment, other⟩ | other
  · cases other
  · cases other

theorem no_literal_typeTokens (d : Dialect) (type : ColumnType) (content : String) :
    .literal content ∉ typeTokens d type := by
  cases d <;> cases type <;> simp [typeTokens, bracketed, words]

theorem columnTokens_default {c : Column} {v : String} (given : c.default = some (.text v))
    (other : Text.capital v ≠ "CURRENT_TIMESTAMP") :
    ∃ before after, columnTokens d c = before ++ [.word "DEFAULT", .literal v] ++ after ∧
      ∀ content, .literal content ∉ before ++ after := by
  have token : defaultToken d (.text v) = .literal v := by
    simp [defaultToken, Value.asText?, other, Value.plain]
  refine ⟨Token.ofName (Identifier.segmentsOf c.name) ++ typeTokens d c.type ++
      (if c.autoIncrement then autoIncrementTokens d else []),
    (if !c.nullable && !c.primaryKey then words ["NOT", "NULL"] else []) ++
      (if c.unique then words ["UNIQUE"] else []) ++
      (if c.primaryKey then words ["PRIMARY", "KEY"] else []), ?_, ?_⟩
  · simp [columnTokens, given, token]
  · intro content
    simp only [List.mem_append, not_or]
    refine ⟨⟨⟨no_literal_ofName _ _, no_literal_typeTokens d _ _⟩, ?_⟩, ⟨?_, ?_⟩, ?_⟩
    · split
      · cases d <;> simp [autoIncrementTokens, words]
      · simp
    all_goals
      split
      · exact no_literal_words _ _
      · simp

/-! ## Tables -/

theorem foreignKeys_tell {columns : List Column} {parts : List Sql}
    (compiled : foreignKeys columns = .ok parts) :
    List.Forall₂ (Tells d) parts
      (columns.filterMap fun c => c.references.map (foreignKeyTokens c.name)) := by
  have each := Except.mapM_eq_ok.mp compiled
  have tokens : (columns.filterMap fun c => c.references.map (foreignKeyTokens c.name)) =
      (columns.filterMap fun c => c.references.map fun r => (c.name, r)).map
        fun constraint => foreignKeyTokens constraint.1 constraint.2 := by
    rw [List.map_filterMap]
    simp only [Option.map_map]
    rfl
  rw [tokens, List.forall₂_map_right_iff]
  exact (each.imp fun _ _ built => foreignKeySql_tells built).flip

theorem columns_tell {columns : List Column} {parts : List Sql}
    (compiled : columns.mapM (columnSql d) = .ok parts) :
    List.Forall₂ (Tells d) parts (columns.map (columnTokens d)) := by
  rw [List.forall₂_map_right_iff]
  exact ((Except.mapM_eq_ok.mp compiled).imp fun _ _ built => columnSql_tells built).flip

theorem createTable_eq_ok {table : Value} {columns : List Column} {ifNotExists : Bool}
    {s : Statement} (created : createTable d table columns ifNotExists = .ok s) :
    columns ≠ [] ∧ ∃ parts constraints name, columns.mapM (columnSql d) = .ok parts ∧
      foreignKeys columns = .ok constraints ∧ nameSql table = .ok name ∧
      s = statement d .definition table
        (Sql.spaced [[.text "CREATE TABLE"], word ifNotExists "IF NOT EXISTS", name,
          .text "(" :: Sql.joined ", " (parts ++ constraints) ++ [.text ")"]]) := by
  unfold createTable at created
  split at created
  · cases created
  · next nonempty =>
    simp only [Except.bind_eq_ok, Except.pure_eq_ok] at created
    obtain ⟨parts, defined, constraints, referred, name, named, rfl⟩ := created
    exact ⟨by simpa using nonempty, parts, constraints, name, defined, referred, named, rfl⟩

/-- The text of a table has the tokens of its outline, between brackets and with commas between. -/
theorem createTable_reads {table : Value} {columns : List Column} {ifNotExists : Bool}
    {s : Statement} (created : createTable d table columns ifNotExists = .ok s) :
    d.quoting.read s.sql =
      some ((tableOutline d table columns ifNotExists).head ++
        .opening :: ([.comma].intercalate (tableOutline d table columns ifNotExists).parts ++
          [.closing])) := by
  obtain ⟨nonempty, parts, constraints, name, defined, referred, named, rfl⟩ :=
    createTable_eq_ok created
  have listed : List.Forall₂ (Tells d) (parts ++ constraints)
      (tableOutline d table columns ifNotExists).parts :=
    List.rel_append (columns_tell defined) (foreignKeys_tell referred)
  have present : parts ++ constraints ≠ [] := by
    rw [← List.length_pos_iff, listed.length_eq, List.length_pos_iff]
    simp [tableOutline, nonempty]
  have verb : Tells d [.text "CREATE TABLE"] (words ["CREATE", "TABLE"]) :=
    .text (by cases d <;> rfl)
  have guard : Told d (word ifNotExists "IF NOT EXISTS")
      (if ifNotExists then words ["IF", "NOT", "EXISTS"] else []) :=
    told_word _ (by cases d <;> rfl)
  have bracket : d.quoting.read "(" = some [.opening] := by cases d <;> rfl
  have body := (Tells.opened bracket rfl (.joined listed present)).closed
  have whole := verb.behind (.cons guard (.cons ((Tells.name named).told (nameSql_ne_nil named))
    (.cons (body.told (by simp)) .nil)))
  rw [statement, Statement.ofSql, Sql.spaced_cons (by simp), whole 0]
  cases ifNotExists <;> simp [tableOutline, words]

/-- Whatever the defaults are, the text of a new table splits at its commas outside brackets into
one part for each column and then one for each column that refers to a table, in order. Each
column's part begins with its name. A default that is a text, if it is not the current time, is the
one literal of its part, and has the content of that text. -/
theorem table_text_keeps_its_structure {table : Value} {columns : List Column} {ifNotExists : Bool}
    {s : Statement} (created : createTable d table columns ifNotExists = .ok s) :
    (d.quoting.read s.sql).bind Quoting.outline? =
        some (tableOutline d table columns ifNotExists) ∧
      ∀ c ∈ columns,
        Token.ofName (Identifier.segmentsOf c.name) <+: columnTokens d c ∧
        ∀ v, c.default = some (.text v) → Text.capital v ≠ "CURRENT_TIMESTAMP" →
          ∃ before after, columnTokens d c = before ++ [.word "DEFAULT", .literal v] ++ after ∧
            ∀ content, .literal content ∉ before ++ after := by
  have flat : .opening ∉ (tableOutline d table columns ifNotExists).head := by
    intro member
    rcases List.mem_append.mp member with keyword | name
    · exact flat_words _ _ keyword
    · exact Quoting.flat_ofName _ _ name
  have nonempty : (tableOutline d table columns ifNotExists).parts ≠ [] := by
    simp [tableOutline, (createTable_eq_ok created).1]
  have whole : ∀ part ∈ (tableOutline d table columns ifNotExists).parts, Whole part := by
    intro part member
    rcases List.mem_append.mp member with column | constraint
    · obtain ⟨c, _, rfl⟩ := List.mem_map.mp column
      exact whole_columnTokens d c
    · obtain ⟨c, _, referred⟩ := List.mem_filterMap.mp constraint
      obtain ⟨r, _, rfl⟩ := Option.map_eq_some_iff.mp referred
      exact whole_foreignKeyTokens c.name r
  refine ⟨?_, fun c member => ⟨?_, fun v given other => ?_⟩⟩
  · rw [createTable_reads created, Option.bind_some, Quoting.outline?_eq flat nonempty whole]
  · exact List.prefix_append _ _
  · exact columnTokens_default given other

/-- A default with quotes, commas, brackets and signs of a comment stays within its column, which is
followed by the constraint of the other one. -/
theorem default_with_signs_stays_in_column :
    (Dialect.postgres.quoting.read ("CREATE TABLE \"t\" (\"org\" UUID NOT NULL, " ++
        "\"note\" VARCHAR(255) DEFAULT 'it''s), (/* --', " ++
        "FOREIGN KEY (\"org\") REFERENCES \"orgs\"(\"id\") ON DELETE SET NULL)")).bind
      Quoting.outline? =
    some ⟨[.word "CREATE", .word "TABLE", .name "t"],
      [[.name "org", .word "UUID", .word "NOT", .word "NULL"],
        [.name "note", .word "VARCHAR", .opening, .word "255", .closing, .word "DEFAULT",
          .literal "it's), (/* --"],
        [.word "FOREIGN", .word "KEY", .opening, .name "org", .closing, .word "REFERENCES",
          .name "orgs", .opening, .name "id", .closing, .word "ON", .word "DELETE", .word "SET",
          .word "NULL"]]⟩ := by
  have created : createTable .postgres (.text "t")
      [⟨"org", .uuid, false, false, false, false, none, some ⟨"orgs", "id", some .setNull, none⟩⟩,
        ⟨"note", .string, true, false, false, false, some (.text "it's), (/* --"), none⟩] false =
      .ok ⟨"CREATE TABLE \"t\" (\"org\" UUID NOT NULL, " ++
          "\"note\" VARCHAR(255) DEFAULT 'it''s), (/* --', " ++
          "FOREIGN KEY (\"org\") REFERENCES \"orgs\"(\"id\") ON DELETE SET NULL)",
        [], .definition, .text "t", .null, .bool false⟩ := by
    cbv
  refine (table_text_keeps_its_structure created).1.trans ?_
  decide +kernel

end Definition

end ScopedSql
