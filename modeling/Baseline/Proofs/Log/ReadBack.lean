import Baseline.Proofs.Json.Ascii
import Baseline.Proofs.Log.Fields
import Baseline.Proofs.Store.Snapshot
import Mathlib.Data.List.Nodup

/-!
# Log lines are read back

The line of a record is printable ASCII, and a reader of JSON gets the record's table back from it:
the header, and every named field with the value that was given.

* `Value.Simple` : the values that JSON has words for: whole numbers within the digit limit, finite
  doubles, texts, truth values, null, and lists and maps of those, the keys of a map being
  different texts.
* `Value.ofJson` : the value that a document stands for.
* `Value.document_of_simple` : a simple value is written as a document that stands for it.
* `LogEvent.jsonLine_readBack` : the line is read back as the table of the record.
* `LogEvent.readBack_iff` : every named field comes back, unless it has a name that the record
  answers itself: that of its class, of the references to it, or of all that it has.
-/

set_option autoImplicit false

namespace Baseline

open Json LogEvent

/-! ## Values and documents -/

namespace Value

mutual

/-- Whether a value is made of what JSON has words for, nested no deeper than `depth`. -/
def Simple : Value → (depth : Nat) → Prop
  | null, _ => True
  | bool _, _ => True
  | int n, _ => n.natAbs < Nat.pow 10 Numeral.digitLimit
  | float x, _ => x.isFinite = true
  | text _, _ => True
  | list xs, depth => 0 < depth ∧ SimpleItems xs (depth - 1)
  | map es, depth => 0 < depth ∧ (es.map (·.1)).Nodup ∧ SimpleEntries es (depth - 1)
  | _, _ => False

/-- Whether all items of a list are simple. -/
def SimpleItems : List Value → (depth : Nat) → Prop
  | [], _ => True
  | v :: rest, depth => Simple v depth ∧ SimpleItems rest depth

/-- Whether all entries of a map have texts for keys and simple values. -/
def SimpleEntries : List (Value × Value) → (depth : Nat) → Prop
  | [], _ => True
  | (k, v) :: rest, depth => (∃ name, k = text name) ∧ Simple v depth ∧ SimpleEntries rest depth

end

mutual

/-- The value that a document stands for; of fields with one name the last one counts. -/
def ofJson : Json → Value
  | .null => null
  | .bool b => bool b
  | .int n => int n
  | .float x => float x
  | .string s => text s
  | .array items => list (ofItems items)
  | .object fields => ofFields (Table.ofRows (ofRows fields))

/-- The values of the items of an array. -/
def ofItems : List Json → List Value
  | [] => []
  | j :: rest => ofJson j :: ofItems rest

/-- The values of the fields of an object. -/
def ofRows : List (String × Json) → Table Value
  | [] => []
  | (name, j) :: rest => (name, ofJson j) :: ofRows rest

end

theorem intText_of_lt {n : Int} (hn : n.natAbs < Nat.pow 10 Numeral.digitLimit) :
    intText n = .ok (String.ofList (intChars n)) := by
  rw [intText, if_neg (Nat.not_le.mpr hn)]

theorem nodup_entries_iff {t : Table Value} :
    ((t.map fun f => (text f.1, f.2)).map (·.1)).Nodup ↔ t.keys.Nodup := by
  have hinj : Function.Injective text := fun _ _ h => by cases h; rfl
  rw [← List.nodup_map_iff hinj, Table.keys, List.map_map, List.map_map]
  rfl

mutual

/-- **A simple value is written as a document that stands for it.** -/
theorem document_of_simple : ∀ {v : Value} {depth : Nat}, v.Simple depth →
    ∃ j, document v = .ok j ∧ Readable .usual j depth ∧ ofJson j = v
  | .null, _, _ => ⟨.null, rfl, trivial, rfl⟩
  | .bool b, _, _ => ⟨.bool b, rfl, trivial, rfl⟩
  | .int n, _, hn => by
    refine ⟨.int n, ?_, admitsInt_usual hn, rfl⟩
    rw [document, intText_of_lt hn]
    rfl
  | .float x, _, hx => ⟨.float x, rfl, hx, rfl⟩
  | .text s, _, _ => ⟨.string s, rfl, trivial, rfl⟩
  | .list xs, _, hxs => by
    obtain ⟨js, hjs, hread, hvalues⟩ := documents_of_simple hxs.2
    refine ⟨.array js, ?_, ⟨hxs.1, hread⟩, ?_⟩
    · rw [document, hjs]
      rfl
    · rw [ofJson, hvalues]
  | .map es, _, hes => by
    obtain ⟨fields, hfields, hread, hvalues⟩ := documentFields_of_simple hes.2.2
    refine ⟨.object fields, ?_, ⟨hes.1, hread⟩, ?_⟩
    · rw [document, hfields]
      rfl
    · have hkeys : (ofRows fields).keys.Nodup := nodup_entries_iff.mp (hvalues ▸ hes.2.1)
      rw [ofJson, Table.ofRows_eq_self hkeys, ofFields, hvalues]

theorem documents_of_simple : ∀ {vs : List Value} {depth : Nat}, SimpleItems vs depth →
    ∃ js, documents vs = .ok js ∧ ReadableItems .usual js depth ∧ ofItems js = vs
  | [], _, _ => ⟨[], rfl, trivial, rfl⟩
  | v :: vs, _, h => by
    obtain ⟨j, hj, hread, rfl⟩ := document_of_simple h.1
    obtain ⟨js, hjs, hreads, rfl⟩ := documents_of_simple h.2
    refine ⟨j :: js, ?_, ⟨hread, hreads⟩, rfl⟩
    rw [documents, hj, bind_of_ok rfl, hjs]
    rfl

theorem documentFields_of_simple : ∀ {es : List (Value × Value)} {depth : Nat},
    SimpleEntries es depth → ∃ fields, documentFields es = .ok fields ∧
      ReadableFields .usual fields depth ∧ ((ofRows fields).map fun f => (text f.1, f.2)) = es
  | [], _, _ => ⟨[], rfl, trivial, rfl⟩
  | (k, v) :: es, _, h => by
    obtain ⟨⟨name, rfl⟩, hv, hes⟩ := h
    obtain ⟨j, hj, hread, rfl⟩ := document_of_simple hv
    obtain ⟨fields, hfields, hreads, hrows⟩ := documentFields_of_simple hes
    refine ⟨(name, j) :: fields, ?_, ⟨hread, hreads⟩, ?_⟩
    · rw [documentFields, entryName, bind_of_ok rfl, hj, bind_of_ok rfl, hfields]
      rfl
    · rw [ofRows, List.map_cons, hrows]

end

theorem simpleEntries_iff {t : Table Value} {depth : Nat} :
    SimpleEntries (t.map fun f => (text f.1, f.2)) depth ↔ ∀ f ∈ t, f.2.Simple depth := by
  induction t with
  | nil => simp [SimpleEntries]
  | cons f rest ih =>
    rw [List.map_cons, SimpleEntries, ih, List.forall_mem_cons]
    exact ⟨fun h => h.2, fun h => ⟨⟨f.1, rfl⟩, h⟩⟩

/-- A table of simple values is a simple value. -/
theorem simple_ofFields {t : Table Value} {depth : Nat} (hkeys : t.keys.Nodup)
    (hvalues : ∀ f ∈ t, f.2.Simple depth) : (ofFields t).Simple (depth + 1) := by
  exact ⟨Nat.succ_pos depth, nodup_entries_iff.mpr hkeys, simpleEntries_iff.mpr hvalues⟩

end Value

/-! ## Lines -/

namespace LogEvent

theorem standard_style : style.Standard where
  comma := ⟨[' '], rfl, List.forall_mem_singleton.mpr rfl⟩
  colon := ⟨[' '], rfl, List.forall_mem_singleton.mpr rfl⟩
  numbers := by decide

theorem ascii_style : style.Ascii where
  escapes := rfl
  comma := by decide
  colon := by decide
  numbers := ⟨by decide, by decide, by decide⟩

/-- A record whose fields are simple.  Where a field asks for all that the record has, by the name
`__dict__`, that has to be simple too. -/
structure Simple (e : LogEvent) (depth : Nat) : Prop where
  keys : e.fields.keys.Nodup
  values : ∀ f ∈ e.fields, f.2.Simple depth
  attributes : "__dict__" ∈ e.fields.keys → (Value.ofFields e.attributes).Simple depth

variable {now : Moment} {e : LogEvent} {message : String} {report : Option String} {depth : Nat}

theorem Simple.get? (h : e.Simple depth) {name : String} {v : Value}
    (hv : e.fields.get? name = some v) : v.Simple depth :=
  h.values _ (Table.mem_of_get? hv)

theorem Simple.getD (h : e.Simple depth) (name text : String) :
    ((e.fields.get? name).getD (.text text)).Simple depth := by
  cases hv : e.fields.get? name with
  | none => trivial
  | some v => exact h.get? hv

theorem Simple.header (h : e.Simple depth) :
    ∀ f ∈ e.header now message report, f.2.Simple depth := by
  intro f hf
  rw [LogEvent.header, List.mem_append] at hf
  rcases hf with hf | hf
  · simp only [List.mem_cons, List.not_mem_nil, or_false] at hf
    rcases hf with rfl | rfl | rfl | rfl
    · trivial
    · exact h.getD "levelname" e.level.label
    · exact h.getD "name" e.logger
    · trivial
  · rw [Option.mem_toList, Option.map_eq_some_iff] at hf
    obtain ⟨text, -, rfl⟩ := hf
    trivial

theorem Simple.answer (h : e.Simple depth) {name : String} {v : Value}
    (hv : e.fields.get? name = some v) : (answer e.attributes name v).Simple depth := by
  rw [LogEvent.answer]
  split_ifs with hclass hreferences hall
  · trivial
  · trivial
  · exact h.attributes (Table.mem_keys.mpr ⟨v, Table.mem_of_get? (hall ▸ hv)⟩)
  · exact h.get? hv

theorem added?_eq_some {name : String} {w : Value} :
    added? e.attributes name e.fields = some w ↔ name ∉ ownFields ∧ w ≠ .null ∧
      ∃ v, e.fields.get? name = some v ∧ answer e.attributes name v = w := by
  by_cases hown : name ∈ ownFields
  · rw [added?_of_ownField hown]
    exact ⟨fun h => (by cases h), fun h => absurd hown h.1⟩
  · rw [added?, Option.bind_eq_some_iff]
    simp only [addition?_eq_some hown]
    tauto

theorem Simple.table (h : e.Simple depth) :
    ∀ f ∈ e.table now message report, f.2.Simple depth := by
  intro f hf
  have hget := Table.get?_of_mem nodup_keys_table hf
  rw [get?_table h.keys, Option.or_eq_some_iff] at hget
  rcases hget with hadded | ⟨-, hheader⟩
  · obtain ⟨-, -, v, hv, hanswer⟩ := added?_eq_some.mp hadded
    rw [← hanswer]
    exact h.answer hv
  · exact h.header _ (Table.mem_of_get? hheader)

/-- **The line of a record is printable ASCII and is read back as the record's table.** -/
theorem jsonLine_readBack (now : Moment) (h : e.Simple depth)
    (hmessage : e.messageText = .ok message) (hreport : e.reportText? = .ok report) :
    ∃ line, e.jsonLine now = .ok line ∧ AsciiLine line.toList ∧
      (read? (depth + 1) line.toList).map Value.ofJson =
        some (.ofFields (e.table now message report)) := by
  obtain ⟨j, hj, hread, hvalue⟩ :=
    Value.document_of_simple (Value.simple_ofFields nodup_keys_table h.table)
  refine ⟨j.render style, ?_, ?_, ?_⟩
  · rw [jsonLine, json_eq_ok.mpr ⟨message, report, hmessage, hreport, hj⟩]
    rfl
  · rw [render, String.toList_ofList]
    exact asciiLine_renderChars ascii_style j
  · rw [read?, readBy?_render standard_style hread, Option.map_some, hvalue]

/-! ## What the reader gets -/

/-- A named field that has to be passed on: it is not null and does not describe the record
itself. -/
def PassedOn (fields : Table Value) (name : String) (v : Value) : Prop :=
  name ∉ ownFields ∧ v ≠ .null ∧ fields.get? name = some v

/-- The names that the object of a record has to have. -/
def Needed (e : LogEvent) (report : Option String) (name : String) : Prop :=
  name ∈ ["timestamp", "level", "logger", "message"] ∨ (name = "exception" ∧ report.isSome) ∨
    ∃ v, PassedOn e.fields name v

/-- The table has what the named fields add, and the header. -/
theorem Simple.mem_keys_table (h : e.Simple depth) {name : String} :
    name ∈ (e.table now message report).keys ↔
      name ∈ ["timestamp", "level", "logger", "message"] ∨
        (name = "exception" ∧ report.isSome) ∨ ∃ w, added? e.attributes name e.fields = some w := by
  have hheader : ((e.header now message report).get? name).isSome ↔
      name ∈ ["timestamp", "level", "logger", "message"] ∨ (name = "exception" ∧ report.isSome) := by
    rw [Table.get?_isSome_iff, keys_header, List.mem_append]
    cases report <;> simp
  rw [← Table.get?_isSome_iff, get?_table h.keys, Option.isSome_or, Bool.or_eq_true, hheader,
    Option.isSome_iff_exists]
  tauto

/-- A record answers with a field's own value where the field does not contradict it. -/
theorem answer_of_own {all fields : Table Value}
    (hclass : ∀ v, fields.get? "__class__" = some v → v = .text "<class 'logging.LogRecord'>")
    (hreferences : ∀ v, fields.get? "__weakref__" = some v → v = .null)
    (hall : "__dict__" ∉ fields.keys) {name : String} {v : Value}
    (hv : fields.get? name = some v) : answer all name v = v := by
  by_cases hname : name = "__class__"
  · subst hname
    exact (hclass v hv).symm
  · by_cases hname' : name = "__weakref__"
    · subst hname'
      exact (hreferences v hv).symm
    · refine answer_eq_self hname hname' (fun hname'' => hall ?_) v
      exact Table.mem_keys.mpr ⟨v, Table.mem_of_get? (hname'' ▸ hv)⟩

/-- No value of a table is that table itself. -/
theorem ofFields_ne_of_get? {t : Table Value} {name : String} {v : Value}
    (h : t.get? name = some v) : Value.ofFields t ≠ v := by
  rintro rfl
  have hmem : (Value.text name, Value.ofFields t) ∈ t.map fun f => (Value.text f.1, f.2) :=
    List.mem_map.mpr ⟨(name, Value.ofFields t), Table.mem_of_get? h, rfl⟩
  have hlt := List.sizeOf_lt_of_mem hmem
  simp only [Value.ofFields, Prod.mk.sizeOf_spec, Value.map.sizeOf_spec] at hlt
  omega

/-- So the record never answers with a field's own value under the name of all that it has. -/
theorem answer_attributes_ne (h : e.fields.keys.Nodup) {v : Value}
    (hv : e.fields.get? "__dict__" = some v) : answer e.attributes "__dict__" v ≠ v := by
  have hown : e.attributes.get? "__dict__" = some v := by
    rw [attributes, Table.get?_foldl_put h, hv]
    rfl
  exact ofFields_ne_of_get? hown

/-- A record has no references to pass on. -/
theorem added?_references : added? e.attributes "__weakref__" e.fields = none := by
  refine Option.eq_none_iff_forall_ne_some.mpr fun w hw => ?_
  obtain ⟨-, hnull, v, -, hv⟩ := added?_eq_some.mp hw
  exact hnull hv.symm

/-- What the record always answers stands in the object, so that it has to be passed on, and is the
field's own value where fields keep theirs. -/
theorem Simple.answer_eq_of_kept (h : e.Simple depth)
    (hkeys : ∀ name, name ∈ (e.table now message report).keys ↔ e.Needed report name)
    (hvalues : ∀ name v, PassedOn e.fields name v →
      (e.table now message report).get? name = some v)
    {name : String} {v : Value} (hname : name ∈ ["__class__", "__dict__"])
    (hv : e.fields.get? name = some v) : LogEvent.answer e.attributes name v = v := by
  have hadded : added? e.attributes name e.fields =
      some (LogEvent.answer e.attributes name v) := by
    simp only [List.mem_cons, List.not_mem_nil, or_false] at hname
    rcases hname with rfl | rfl <;>
      exact added?_eq_some.mpr
        ⟨by decide, by simp [LogEvent.answer, Value.ofFields], v, hv, rfl⟩
  have hneeded := (hkeys name).mp (h.mem_keys_table.mpr (.inr (.inr ⟨_, hadded⟩)))
  obtain ⟨w, hw⟩ : ∃ w, PassedOn e.fields name w := by
    simp only [List.mem_cons, List.not_mem_nil, or_false] at hname
    rcases hname with rfl | rfl <;> simpa [Needed] using hneeded
  obtain rfl : v = w := Option.some.inj (hv.symm.trans hw.2.2)
  have hget := hvalues name v hw
  rw [get?_table h.keys, hadded] at hget
  exact Option.some.inj hget

/-- Where no field contradicts the record, the table has what has to be passed on. -/
theorem added?_iff_passedOn
    (hclass : ∀ v, e.fields.get? "__class__" = some v → v = .text "<class 'logging.LogRecord'>")
    (hreferences : ∀ v, e.fields.get? "__weakref__" = some v → v = .null)
    (hall : "__dict__" ∉ e.fields.keys) {name : String} {w : Value} :
    added? e.attributes name e.fields = some w ↔ PassedOn e.fields name w := by
  rw [added?_eq_some, PassedOn]
  refine and_congr_right fun _ => and_congr_right fun _ => ⟨?_, fun hw => ?_⟩
  · rintro ⟨v, hv, rfl⟩
    rwa [answer_of_own hclass hreferences hall hv]
  · exact ⟨w, hw, answer_of_own hclass hreferences hall hw⟩

/-- **What is read back from the line of a record.**  The object has the names that it has to have
and gives every named field its value if and only if no field has another value than the record
answers itself, which for the table of all that it has is every value. -/
theorem readBack_iff (h : e.Simple depth) (hmessage : e.messageText = .ok message)
    (hreport : e.reportText? = .ok report) :
    ∃ (line : String) (t : Table Value), e.jsonLine now = .ok line ∧ AsciiLine line.toList ∧
      (read? (depth + 1) line.toList).map Value.ofJson = some (.ofFields t) ∧ t.keys.Nodup ∧
      (((∀ name, name ∈ t.keys ↔ e.Needed report name) ∧
          ∀ name v, PassedOn e.fields name v → t.get? name = some v) ↔
        (∀ v, e.fields.get? "__class__" = some v → v = .text "<class 'logging.LogRecord'>") ∧
          (∀ v, e.fields.get? "__weakref__" = some v → v = .null) ∧
            "__dict__" ∉ e.fields.keys) := by
  obtain ⟨line, hline, hascii, hread⟩ := jsonLine_readBack now h hmessage hreport
  refine ⟨line, _, hline, hascii, hread, nodup_keys_table, ?_⟩
  constructor
  · rintro ⟨hkeys, hvalues⟩
    refine ⟨fun v hv => ?_, fun v hv => ?_, fun hall => ?_⟩
    · exact (h.answer_eq_of_kept hkeys hvalues (by simp) hv).symm
    · by_contra hne
      have hget := hvalues "__weakref__" v ⟨by decide, hne, hv⟩
      have hmem : "__weakref__" ∈ (e.table now message report).keys := by
        rw [← Table.get?_isSome_iff, hget]
        rfl
      rw [h.mem_keys_table, added?_references] at hmem
      simp at hmem
    · rw [← Table.get?_isSome_iff, Option.isSome_iff_exists] at hall
      obtain ⟨v, hv⟩ := hall
      exact answer_attributes_ne h.keys hv (h.answer_eq_of_kept hkeys hvalues (by simp) hv)
  · rintro ⟨hclass, hreferences, hall⟩
    refine ⟨fun name => ?_, fun name v hv => ?_⟩
    · rw [h.mem_keys_table, Needed]
      simp only [added?_iff_passedOn hclass hreferences hall]
    · rw [get?_table h.keys, (added?_iff_passedOn hclass hreferences hall).mpr hv]
      rfl

/-- A record with a list beyond ASCII among its fields. -/
def nested : LogEvent :=
  ⟨"test_logger", Level.info, .text "Test", [],
    [("items", .list [.bool true, .text "é\n"]), ("taskName", .text "t"), ("empty", .null)], none, []⟩

theorem simple_nested : nested.Simple 1 where
  keys := by decide
  values := by simp [nested, Value.Simple, Value.SimpleItems]
  attributes := fun hall => absurd hall (by decide)

/-- The list comes back, and neither the field that is kept back nor the one without a value
does. -/
theorem readBack_iff_nested : nested.Simple 1 ∧ nested.messageText = .ok "Test" ∧
    nested.reportText? = .ok none ∧ ∃ (line : String) (t : Table Value),
      nested.jsonLine .epoch = .ok line ∧ AsciiLine line.toList ∧
      (read? 2 line.toList).map Value.ofJson = some (.ofFields t) ∧
      t.get? "items" = some (.list [.bool true, .text "é\n"]) ∧
      "taskName" ∉ t.keys ∧ "empty" ∉ t.keys := by
  refine ⟨simple_nested, rfl, rfl, ?_⟩
  obtain ⟨line, t, hline, hascii, hread, -, hexact⟩ :=
    readBack_iff simple_nested (show nested.messageText = .ok "Test" from rfl)
      (show nested.reportText? = .ok none from rfl)
  obtain ⟨hkeys, hvalues⟩ := hexact.mpr
    ⟨fun v hv => (by cases hv), fun v hv => (by cases hv), by decide⟩
  refine ⟨line, t, hline, hascii, hread, hvalues _ _ ⟨by decide, by simp, rfl⟩, ?_, ?_⟩
  · rw [hkeys]
    simp [Needed, PassedOn, ownFields]
  · rw [hkeys]
    simp [Needed, PassedOn, nested, Table.get?]

/-- A record with a field under a name that the record answers itself. -/
def classed : LogEvent :=
  ⟨"collector_sdk.x", Level.warning, .text "m", [], [("__class__", .text "v")], none, []⟩

theorem simple_classed : classed.Simple 0 where
  keys := by decide
  values := by simp [classed, Value.Simple]
  attributes := fun hall => absurd hall (by decide)

/-- **A field under the name `__class__` is lost**: the record's own class stands in its place. -/
theorem class_replaced : PassedOn classed.fields "__class__" (.text "v") ∧
    ∃ (line : String) (t : Table Value), classed.jsonLine .epoch = .ok line ∧
      (read? 1 line.toList).map Value.ofJson = some (.ofFields t) ∧
      t.get? "__class__" ≠ some (.text "v") := by
  refine ⟨⟨by decide, by simp, rfl⟩, ?_⟩
  obtain ⟨line, hline, -, hread⟩ := jsonLine_readBack .epoch simple_classed
    (show classed.messageText = .ok "m" from rfl) (show classed.reportText? = .ok none from rfl)
  refine ⟨line, _, hline, hread, ?_⟩
  have hadded : added? classed.attributes "__class__" classed.fields =
      some (answer classed.attributes "__class__" (.text "v")) :=
    added?_eq_some.mpr ⟨by decide, by simp [answer], _, rfl, rfl⟩
  rw [get?_table simple_classed.keys, hadded]
  simp [answer]

end LogEvent

end Baseline
