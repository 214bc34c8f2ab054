import Baseline.Proofs.Log.Fields

/-!
# The header of a log line

A logger refuses fields with the names that a record has for itself, but not fields with the names
that the object gives to the header: the level stands under `level`, which is no name of the
record.  Such a field takes the place of what the record says itself.

* `LogEvent.Accepted` : the fields that a logger accepts.
* `LogEvent.Accepted.get?_header` : under the name of a header line stands the record's own text, or
  a field that is not null.
* `LogEvent.header_kept_iff` : a line of the header is kept if and only if no field with another
  text has its name; so the message always is.
-/

set_option autoImplicit false

namespace Baseline

namespace LogEvent

open Json

/-! ## Records that a logger makes -/

/-- Whether a logger accepts the fields of a record: each name once, and none that the record has
for itself. -/
structure Accepted (fields : Table Value) : Prop where
  keys : fields.keys.Nodup
  names : ∀ name ∈ fields.keys, name ∉ Logging.takenFields

/-- The header of a record, with the text of each line. -/
def headerTexts (now : Moment) (e : LogEvent) (message : String) : Table String := [
  ("timestamp", now.iso), ("level", e.level.label), ("logger", e.logger),
  ("message", message)] ++ (e.ownReport.map fun text => ("exception", text)).toList

variable {now : Moment} {e : LogEvent} {message : String}

theorem Accepted.get?_eq_none (h : Accepted e.fields) {name : String}
    (hname : name ∈ Logging.takenFields) : e.fields.get? name = none := by
  rw [← Option.not_isSome_iff_eq_none, Table.get?_isSome_iff]
  exact fun hkey => h.names name hkey hname

theorem Accepted.reportText? (h : Accepted e.fields) : e.reportText? = .ok e.ownReport := by
  rw [LogEvent.reportText?, h.get?_eq_none (by decide)]

theorem Accepted.header_eq (h : Accepted e.fields) :
    e.header now message e.ownReport =
      (e.headerTexts now message).map fun r => (r.1, .text r.2) := by
  rw [header, headerTexts, h.get?_eq_none (by decide), h.get?_eq_none (by decide)]
  cases e.ownReport <;> rfl

/-- The names of the header, whatever the record. -/
theorem mem_headerTexts {r : String × String} (hr : r ∈ e.headerTexts now message) :
    r.1 ∈ ["timestamp", "level", "logger", "message", "exception"] := by
  rw [headerTexts, List.mem_append] at hr
  rcases hr with hr | hr
  · simp only [List.mem_cons, List.not_mem_nil, or_false] at hr
    rcases hr with rfl | rfl | rfl | rfl <;> simp
  · rw [Option.mem_toList, Option.map_eq_some_iff] at hr
    obtain ⟨text, -, rfl⟩ := hr
    simp

theorem nodup_keys_headerTexts : (e.headerTexts now message).keys.Nodup := by
  rw [headerTexts]
  cases e.ownReport <;> simp [Table.keys]

/-- No name of the header is one that the record answers itself or keeps back, save `message`. -/
theorem name_of_header {name : String}
    (h : name ∈ ["timestamp", "level", "logger", "message", "exception"]) :
    name ≠ "__class__" ∧ name ≠ "__weakref__" ∧ name ≠ "__dict__" ∧
      (name ∈ ownFields → name ∈ Logging.takenFields) := by
  revert name
  decide

/-! ## The object -/

/-- What is written about an accepted record. -/
theorem Accepted.json_eq_ok (h : Accepted e.fields) {j : Json} :
    e.json now = .ok j ↔ ∃ message, e.messageText = .ok message ∧
      document (.ofFields (e.table now message e.ownReport)) = .ok j := by
  rw [LogEvent.json_eq_ok, h.reportText?]
  constructor
  · rintro ⟨message, report, hmessage, hreport, hj⟩
    cases hreport
    exact ⟨message, hmessage, hj⟩
  · exact fun ⟨message, hmessage, hj⟩ => ⟨message, _, hmessage, rfl, hj⟩

theorem Accepted.get?_table (h : Accepted e.fields) (name : String) :
    (e.table now message e.ownReport).get? name = (added? e.attributes name e.fields).or
      (((e.headerTexts now message).get? name).map .text) := by
  rw [LogEvent.get?_table h.keys, h.header_eq, Table.get?_map Value.text]

/-- A line of the header is what the record says itself, or a field that is not null. -/
theorem Accepted.get?_header (h : Accepted e.fields) {r : String × String}
    (hr : r ∈ e.headerTexts now message) :
    ((∀ v, e.fields.get? r.1 = some v → v = .null) ∧
        (e.table now message e.ownReport).get? r.1 = some (.text r.2)) ∨
      ∃ v, e.fields.get? r.1 = some v ∧ v ≠ .null ∧
        (e.table now message e.ownReport).get? r.1 = some v := by
  obtain ⟨hclass, hreferences, hall, hown⟩ := name_of_header (mem_headerTexts hr)
  have hget : (e.table now message e.ownReport).get? r.1 = _ := h.get?_table r.1
  rw [Table.get?_of_mem nodup_keys_headerTexts hr, Option.map_some, added?] at hget
  cases hv : e.fields.get? r.1 with
  | none =>
    rw [hv] at hget
    exact .inl ⟨fun v hv => (by cases hv), hget⟩
  | some v =>
    have htaken : r.1 ∉ Logging.takenFields := by
      refine h.names r.1 ?_
      rw [← Table.get?_isSome_iff, hv]
      rfl
    rw [hv, Option.bind_some, addition?, answer_eq_self hclass hreferences hall] at hget
    split at hget
    · exact .inl ⟨fun w hw => (Option.some.inj hw).symm, hget⟩
    · rename_i hne
      rw [if_neg fun hmem => htaken (hown (List.contains_iff_mem.mp hmem))] at hget
      exact .inr ⟨v, rfl, hne, hget⟩

/-- The object is written if everything that the fields add can be written. -/
theorem Accepted.exists_document (h : Accepted e.fields) :
    (∃ j, document (.ofFields (e.table now message e.ownReport)) = .ok j) ↔
      ∀ name v, added? e.attributes name e.fields = some v → ∃ j, document v = .ok j := by
  rw [exists_written]
  constructor
  · intro hall name v hv
    refine hall (name, v) (Table.mem_of_get? ?_)
    rw [h.get?_table, hv]
    rfl
  · intro hall f hf
    have hget := Table.get?_of_mem nodup_keys_table hf
    rw [h.get?_table, Option.or_eq_some_iff, Option.map_eq_some_iff] at hget
    rcases hget with hadded | ⟨-, text, -, htext⟩
    · exact hall f.1 f.2 hadded
    · rw [← htext]
      exact ⟨.string text, rfl⟩

/-- **A line of the header is kept if and only if no field with another text has its name.** -/
theorem header_kept_iff (h : Accepted e.fields) :
    ((∃ j, e.json now = .ok j) ↔ (∃ message, e.messageText = .ok message) ∧
        ∀ name v, added? e.attributes name e.fields = some v → ∃ j, document v = .ok j) ∧
      ∀ j, e.json now = .ok j → ∃ message fields, e.messageText = .ok message ∧
        j = .object fields ∧ ∀ r ∈ e.headerTexts now message,
          (lastField? r.1 fields = some (.string r.2) ↔
            ∀ v, e.fields.get? r.1 = some v → v = .null ∨ document v = .ok (.string r.2)) := by
  simp only [h.json_eq_ok]
  refine ⟨⟨?_, ?_⟩, ?_⟩
  · rintro ⟨j, message, hmessage, hj⟩
    exact ⟨⟨message, hmessage⟩, h.exists_document.mp ⟨j, hj⟩⟩
  · rintro ⟨⟨message, hmessage⟩, hadded⟩
    obtain ⟨j, hj⟩ := h.exists_document.mpr hadded
    exact ⟨j, message, hmessage, hj⟩
  · rintro j ⟨message, hmessage, hj⟩
    obtain ⟨fields, rfl, hfields⟩ := document_ofFields_eq_ok.mp hj
    refine ⟨message, fields, hmessage, rfl, fun r hr => ?_⟩
    have hkeys : (Table.keys fields).Nodup := by
      rw [keys_of_written hfields]
      exact nodup_keys_table
    have hwritten {v : Value} (hv : (e.table now message e.ownReport).get? r.1 = some v) :
        lastField? r.1 fields = some (.string r.2) ↔ document v = .ok (.string r.2) := by
      obtain ⟨j, hget, hj⟩ := get?_of_written hfields hv
      rw [lastField?_eq_get? hkeys, hget, hj, Option.some_inj, Except.ok.injEq]
    rcases h.get?_header hr with ⟨hnull, hget⟩ | ⟨v, hv, hne, hget⟩
    · rw [hwritten hget]
      exact ⟨fun _ v hv => .inl (hnull v hv), fun _ => rfl⟩
    · rw [hwritten hget, hv]
      constructor
      · exact fun hdoc w hw => .inr (Option.some.inj hw ▸ hdoc)
      · exact fun hall => (hall v rfl).resolve_left hne

/-- A record with a field that has the name of a line of the header. -/
def ownLevel : LogEvent :=
  ⟨"test_logger", Level.info, .text "Test", [], [("level", .text "MINE")], none, []⟩

theorem accepted_ownLevel : Accepted ownLevel.fields where
  keys := by decide
  names := by decide

/-- The logger's name is kept, the level is not. -/
theorem header_kept_iff_ownLevel : Accepted ownLevel.fields ∧
    ∀ j, ownLevel.json .epoch = .ok j → ∃ fields, j = .object fields ∧
      lastField? "logger" fields = some (.string "test_logger") ∧
      lastField? "level" fields ≠ some (.string "INFO") := by
  refine ⟨accepted_ownLevel, fun j hj => ?_⟩
  obtain ⟨message, fields, -, rfl, hlines⟩ := (header_kept_iff accepted_ownLevel).2 j hj
  refine ⟨fields, rfl, ?_, fun hlevel => ?_⟩
  · exact (hlines ("logger", "test_logger") (by simp [headerTexts, ownLevel])).mpr
      fun v hv => by cases hv
  · have hlabel : ownLevel.level.label = "INFO" := by decide
    rcases (hlines ("level", "INFO") (by simp [headerTexts, hlabel])).mp hlevel (.text "MINE") rfl
      with hnull | hdoc
    · cases hnull
    · simp [document] at hdoc

/-- **A field in the place of the level**: the line is written without the level of the record. -/
theorem level_replaced : Accepted ownLevel.fields ∧ ∃ fields,
    ownLevel.json .epoch = .ok (.object fields) ∧
      lastField? "level" fields ≠ some (.string ownLevel.level.label) := by
  refine ⟨accepted_ownLevel, [("timestamp", .string Moment.epoch.iso), ("level", .string "MINE"),
    ("logger", .string "test_logger"), ("message", .string "Test")], rfl, ?_⟩
  intro h
  simp [lastField?] at h
  exact absurd h (by decide)

end LogEvent

end Baseline
