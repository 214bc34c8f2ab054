import Baseline.Log.Output
import Baseline.Proofs.Table
import Mathlib.Data.List.Forall2

/-!
# The object of a log line

The object that is written about a record begins with its header, and every named field is put
into it afterwards, so a field with the name of a header field takes its place.

* `LogEvent.added?` : the value that the named fields give to a name.
* `LogEvent.get?_foldl_addField` : each name has what the fields give it, else what it had.
* `LogEvent.document_ofFields_eq_ok` : the object has the names of its table, each with the
  document of its value.
* `LogEvent.json_eq_ok` : the object is written from the table of the record, its header with the
  named fields put into it.
-/

set_option autoImplicit false

namespace Baseline

/-! ## Fields of an object by name -/

namespace Json

theorem lastField?_append (name : String) (fields more : List (String × Json)) :
    lastField? name (fields ++ more) = (lastField? name more).or (lastField? name fields) := by
  rw [lastField?, lastField?, lastField?, List.reverse_append, List.find?_append, Option.map_or]

theorem lastField?_of_notMem {name : String} {fields : List (String × Json)}
    (h : name ∉ Table.keys fields) : lastField? name fields = none := by
  rw [lastField?, Option.map_eq_none_iff, List.find?_eq_none]
  intro f hf hname
  exact h (Table.mem_keys.mpr ⟨f.2, of_decide_eq_true hname ▸ List.mem_reverse.mp hf⟩)

/-- Without repeated names the last field with a name is the only one. -/
theorem lastField?_eq_get? {fields : List (String × Json)} (h : (Table.keys fields).Nodup)
    (name : String) : lastField? name fields = Table.get? name fields := by
  induction fields with
  | nil => rfl
  | cons f rest ih =>
    obtain ⟨k, j⟩ := f
    rw [Table.keys_cons, List.nodup_cons] at h
    rw [← List.singleton_append, lastField?_append, List.singleton_append, Table.get?, ih h.2]
    by_cases hk : k = name
    · subst hk
      have hnone : Table.get? k rest = none := by
        rw [← ih h.2, lastField?_of_notMem h.1]
      rw [hnone, if_pos rfl]
      simp [lastField?]
    · rw [if_neg hk]
      simp [lastField?, hk]

end Json

namespace LogEvent

open Json

/-! ## What the named fields add -/

variable {all : Table Value}

/-- The value that the named fields of a record add under a name, if they add one; `all` is what the
record has. -/
def added? (all : Table Value) (name : String) (fields : Table Value) : Option Value :=
  (fields.get? name).bind (addition? all name)

theorem get?_addField_self (t : Table Value) (f : String × Value) :
    (addField all t f).get? f.1 = (addition? all f.1 f.2).or (t.get? f.1) := by
  rw [addField]
  cases addition? all f.1 f.2 with
  | none => rfl
  | some v => exact Table.get?_put_self f.1 v t

theorem get?_addField_of_ne {name : String} (t : Table Value) {f : String × Value}
    (h : name ≠ f.1) : (addField all t f).get? name = t.get? name := by
  rw [addField]
  cases addition? all f.1 f.2 with
  | none => rfl
  | some v => exact Table.get?_put_of_ne h v t

theorem nodup_keys_addField {t : Table Value} (f : String × Value) (h : t.keys.Nodup) :
    (addField all t f).keys.Nodup := by
  rw [addField]
  cases addition? all f.1 f.2 with
  | none => exact h
  | some v => exact Table.nodup_keys_put f.1 v h

/-- **The object has under a name what the fields add, or what it had.** -/
theorem get?_foldl_addField {fields : Table Value} (hkeys : fields.keys.Nodup) (t : Table Value)
    (name : String) :
    (fields.foldl (addField all) t).get? name = (added? all name fields).or (t.get? name) := by
  induction fields generalizing t with
  | nil => rfl
  | cons f rest ih =>
    rw [Table.keys_cons, List.nodup_cons] at hkeys
    obtain ⟨hfresh, hrest⟩ := hkeys
    rw [List.foldl_cons, ih hrest, added?, added?, Table.get?]
    by_cases hname : f.1 = name
    · have hnone : Table.get? name rest = none := by
        rw [← Option.not_isSome_iff_eq_none, Table.get?_isSome_iff]
        exact hname ▸ hfresh
      rw [hnone, if_pos hname, ← hname, get?_addField_self]
      rfl
    · rw [if_neg hname, get?_addField_of_ne t (Ne.symm hname)]

theorem nodup_keys_foldl_addField (fields : Table Value) {t : Table Value} (h : t.keys.Nodup) :
    (fields.foldl (addField all) t).keys.Nodup := by
  induction fields generalizing t with
  | nil => exact h
  | cons f rest ih => exact ih (nodup_keys_addField f h)

theorem added?_of_ownField {name : String} (h : name ∈ ownFields) (fields : Table Value) :
    added? all name fields = none := by
  rw [added?, Option.bind_eq_none_iff]
  intro v _
  rw [addition?]
  split
  · rfl
  · rw [if_pos (List.contains_iff_mem.mpr h)]

theorem answer_eq_self {name : String} (hclass : name ≠ "__class__")
    (hreferences : name ≠ "__weakref__") (hall : name ≠ "__dict__") (v : Value) :
    answer all name v = v := by
  rw [answer, if_neg hclass, if_neg hreferences, if_neg hall]

/-- What a field adds that the record answers itself. -/
theorem addition?_eq_some {name : String} (hown : name ∉ ownFields) {v w : Value} :
    addition? all name v = some w ↔ answer all name v = w ∧ w ≠ .null := by
  have hcontains : ownFields.contains name = false := by
    rw [← Bool.not_eq_true, List.contains_iff_mem]
    exact hown
  rw [addition?, hcontains]
  split
  · rename_i hnull
    rw [hnull]
    exact ⟨fun h => absurd h (by simp), fun ⟨hw, hne⟩ => absurd hw.symm hne⟩
  · rename_i hne
    constructor
    · intro h
      cases h
      exact ⟨rfl, hne⟩
    · rintro ⟨rfl, -⟩
      rfl

/-! ## Tables as objects -/

theorem document_ofFields (t : Table Value) :
    document (.ofFields t) =
      (documentFields (t.map fun f => (.text f.1, f.2))).map .object := by
  rw [Value.ofFields, document]
  cases documentFields (t.map fun f => (Value.text f.1, f.2)) <;> rfl

/-- The fields of a table are written one by one. -/
theorem documentFields_eq_ok {t : Table Value} {fields : List (String × Json)} :
    documentFields (t.map fun f => (.text f.1, f.2)) = .ok fields ↔
      List.Forall₂ (fun f g => g.1 = f.1 ∧ document f.2 = .ok g.2) t fields := by
  induction t generalizing fields with
  | nil =>
    rw [List.map_nil, documentFields, List.forall₂_nil_left_iff]
    exact ⟨fun h => by cases h; rfl, fun h => by rw [h]⟩
  | cons f rest ih =>
    rw [List.map_cons, List.forall₂_cons_left_iff]
    simp only [documentFields, entryName]
    constructor
    · intro h
      obtain ⟨name, hname, h⟩ := bind_eq_ok h
      obtain ⟨j, hj, h⟩ := bind_eq_ok h
      obtain ⟨js, hjs, h⟩ := bind_eq_ok h
      cases hname
      cases h
      exact ⟨(f.1, j), js, ⟨rfl, hj⟩, ih.mp hjs, rfl⟩
    · rintro ⟨⟨k, j⟩, js, ⟨rfl, hj⟩, hjs, rfl⟩
      rw [bind_of_ok rfl, bind_of_ok hj, bind_of_ok (ih.mpr hjs)]
      rfl

/-- **A table is written as an object of its names.** -/
theorem document_ofFields_eq_ok {t : Table Value} {j : Json} :
    document (.ofFields t) = .ok j ↔ ∃ fields, j = .object fields ∧
      List.Forall₂ (fun f g => g.1 = f.1 ∧ document f.2 = .ok g.2) t fields := by
  rw [document_ofFields]
  constructor
  · intro h
    cases hfields : documentFields (t.map fun f => (Value.text f.1, f.2)) with
    | error e =>
      rw [hfields] at h
      cases h
    | ok fields =>
      rw [hfields] at h
      cases h
      exact ⟨fields, rfl, documentFields_eq_ok.mp hfields⟩
  · rintro ⟨fields, rfl, h⟩
    rw [documentFields_eq_ok.mpr h]
    rfl

theorem keys_of_written {t : Table Value} {fields : List (String × Json)}
    (h : List.Forall₂ (fun f g => g.1 = f.1 ∧ document f.2 = .ok g.2) t fields) :
    Table.keys fields = t.keys := by
  induction h with
  | nil => rfl
  | cons hfield _ ih => rw [Table.keys_cons, Table.keys_cons, hfield.1, ih]

theorem get?_of_written {t : Table Value} {fields : List (String × Json)}
    (h : List.Forall₂ (fun f g => g.1 = f.1 ∧ document f.2 = .ok g.2) t fields) {name : String}
    {v : Value} (hv : t.get? name = some v) :
    ∃ j, Table.get? name fields = some j ∧ document v = .ok j := by
  induction h with
  | nil => cases hv
  | @cons f g rest more hfield _ ih =>
    rw [Table.get?] at hv
    rw [Table.get?, hfield.1]
    split at hv
    · rename_i hname
      cases hv
      exact ⟨g.2, if_pos hname, hfield.2⟩
    · rename_i hname
      rw [if_neg hname]
      exact ih hv

/-- A table is written when all its values are. -/
theorem exists_written {t : Table Value} :
    (∃ j, document (.ofFields t) = .ok j) ↔ ∀ f ∈ t, ∃ j, document f.2 = .ok j := by
  simp only [document_ofFields_eq_ok]
  constructor
  · rintro ⟨_, fields, -, h⟩ f hf
    induction h with
    | nil => cases hf
    | cons hfield _ ih =>
      rcases List.mem_cons.mp hf with rfl | hf
      · exact ⟨_, hfield.2⟩
      · exact ih hf
  · intro h
    induction t with
    | nil => exact ⟨_, [], rfl, .nil⟩
    | cons f rest ih =>
      rw [List.forall_mem_cons] at h
      obtain ⟨⟨j, hj⟩, hrest⟩ := h
      obtain ⟨_, fields, -, hfields⟩ := ih hrest
      exact ⟨_, (f.1, j) :: fields, rfl, .cons ⟨rfl, hj⟩ hfields⟩

/-! ## The table of a record -/

/-- The table that is written about a record: its header, with the named fields put into it. -/
def table (now : Moment) (e : LogEvent) (message : String) (report : Option String) :
    Table Value :=
  e.fields.foldl (addField e.attributes) (e.header now message report)

variable {now : Moment} {e : LogEvent}

theorem json_eq_ok {j : Json} : e.json now = .ok j ↔ ∃ message report,
    e.messageText = .ok message ∧ e.reportText? = .ok report ∧
      document (.ofFields (e.table now message report)) = .ok j := by
  rw [json, jsonFields]
  constructor
  · intro h
    obtain ⟨t, ht, hj⟩ := bind_eq_ok h
    obtain ⟨message, hmessage, ht⟩ := bind_eq_ok ht
    obtain ⟨report, hreport, ht⟩ := bind_eq_ok ht
    cases ht
    exact ⟨message, report, hmessage, hreport, hj⟩
  · rintro ⟨message, report, hmessage, hreport, hj⟩
    rw [bind_of_ok hmessage, bind_of_ok hreport]
    exact hj

variable {message : String} {report : Option String}

theorem keys_header : (e.header now message report).keys =
    ["timestamp", "level", "logger", "message"] ++ (report.map fun _ => "exception").toList := by
  cases report <;> rfl

theorem nodup_keys_header : (e.header now message report).keys.Nodup := by
  rw [keys_header]
  cases report <;> simp

theorem nodup_keys_table : (e.table now message report).keys.Nodup :=
  nodup_keys_foldl_addField e.fields nodup_keys_header

theorem get?_table (hkeys : e.fields.keys.Nodup) (name : String) :
    (e.table now message report).get? name =
      (added? e.attributes name e.fields).or ((e.header now message report).get? name) :=
  get?_foldl_addField hkeys _ name

end LogEvent

end Baseline
