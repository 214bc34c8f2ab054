import Baseline.Proofs.Log.Delivery
import Baseline.Proofs.Settings.Layers
import Baseline.Proofs.Store.Refused

/-!
# Settings that were accepted

A map may write its settings in many forms: a truth value as a word, a time to live as a text, a
level in any letter case.  What it is accepted as has one form, and the rest of the collector relies
on it without asking again.

* `Settings.Proper` : the form of the settings that are accepted, and `Settings.toEntries` : the map
  that writes settings down field by field.
* `Settings.proper_of_ofEntriesBy` : accepted settings have the form, and
  `Settings.ofEntriesBy_toEntries` : settings of the form are accepted as they are.
* `MeansLevel` : a word is found among those that mean a level, and `Logging.SetsLevel` : setting up
  the logging sets a level.
* `openFor_persistence` : opening the store of a named integration under such settings reports
  nothing but errors about files.
* `ofEntries_settled` : **accepted settings are in range, are accepted again as themselves, set the
  level that they name, and are never to blame when a store does not open.**
-/

set_option autoImplicit false

namespace Baseline

/-! ## The form of accepted settings -/

/-- The time to live is positive and at most a day. -/
structure StoreSettings.Proper (s : StoreSettings) : Prop where
  positive : 1 ≤ s.ttlSeconds
  withinDay : s.ttlSeconds ≤ 86400

/-- The level is given by its full name, in lower case. -/
structure LoggingSettings.Proper (s : LoggingSettings) : Prop where
  level : s.level ∈ ["debug", "info", "warning", "error", "critical"]

/-- The form of settings that are accepted. -/
structure Settings.Proper (s : Settings) : Prop where
  store : s.store.Proper
  logging : s.logging.Proper

theorem StoreSettings.proper_default : StoreSettings.Proper {} := ⟨by decide, by decide⟩

theorem LoggingSettings.proper_default : LoggingSettings.Proper {} := ⟨by decide⟩

/-- What a field has is its default, or was read from a value. -/
theorem Checked.field_induction {α : Type} {name : String} {default a : α}
    {read : Value → Except ViolationCause α} {es : Entries} {P : α → Prop}
    (h : Checked.field name default read es = .ok a) (hdefault : P default)
    (hread : ∀ v b, read v = .ok b → P b) : P a := by
  have hfield := Entries.field_eq_ok h
  cases hv : es.field? name with
  | none =>
    rw [hv] at hfield
    exact hfield.symm ▸ hdefault
  | some v =>
    rw [hv] at hfield
    exact hread v a hfield

theorem Coercion.ttl_bounds {c : Coercion} {v : Value} {n : Int} (h : c.ttl v = .ok n) :
    1 ≤ n ∧ n ≤ 86400 := by
  unfold Coercion.ttl at h
  split at h
  · cases h
  · split at h
    · cases h
    · split at h
      · cases h
      · rename_i hpos hday
        cases h
        rw [Field.dayLength] at hday
        omega

/-- The time to live of accepted settings is positive and at most a day. -/
theorem StoreSettings.proper_of_ofEntriesBy {c : Coercion} {es : Entries} {s : StoreSettings}
    (h : StoreSettings.ofEntriesBy c es = .ok s) : s.Proper := by
  unfold StoreSettings.ofEntriesBy at h
  dsimp only at h
  split at h
  · rename_i persist path baseDir ttl hpersist hpath hdir httl
    cases h
    obtain ⟨hpos, hday⟩ := Checked.field_induction httl (P := fun n => 1 ≤ n ∧ n ≤ 86400)
      (by decide) fun v n => Coercion.ttl_bounds
    exact ⟨hpos, hday⟩
  · cases h

theorem LoggingSettings.proper_of_ofEntriesBy {c : Coercion} {es : Entries} {s : LoggingSettings}
    (h : LoggingSettings.ofEntriesBy c es = .ok s) : s.Proper :=
  ⟨Table.mem_keys.mpr (LoggingSettings.exists_level h)⟩

/-- **Accepted settings have the form**, whatever the map wrote. -/
theorem Settings.proper_of_ofEntriesBy {c : Coercion} {es : Entries} {s : Settings}
    (h : Settings.ofEntriesBy c es = .ok s) : s.Proper := by
  unfold Settings.ofEntriesBy at h
  dsimp only at h
  split at h
  · rename_i store logging hstore hlogging
    cases h
    constructor
    · rcases Entries.nested_eq_ok hstore with ⟨-, rfl⟩ | ⟨inner, -, hinner⟩
      · exact StoreSettings.proper_default
      · exact StoreSettings.proper_of_ofEntriesBy hinner
    · rcases Entries.nested_eq_ok hlogging with ⟨-, rfl⟩ | ⟨inner, -, hinner⟩
      · exact LoggingSettings.proper_default
      · exact LoggingSettings.proper_of_ofEntriesBy hinner
  · cases h

/-! ## Writing settings down -/

/-- A text that may be missing, as a value. -/
def Value.ofText? : Option String → Value
  | some s => .text s
  | none => .null

/-- The map that has the rows of a table. -/
def Entries.ofTable (t : Table Value) : Entries := t.map fun r => (.text r.1, r.2)

/-- The map that writes store settings down, field by field. -/
def StoreSettings.toEntries (s : StoreSettings) : Entries := .ofTable [
  ("persist", .bool s.persist), ("path", .ofText? s.path), ("base_dir", .ofText? s.baseDir),
  ("ttl_seconds", .int s.ttlSeconds)]

/-- The map that writes logging settings down, field by field. -/
def LoggingSettings.toEntries (s : LoggingSettings) : Entries := .ofTable [
  ("level", .text s.level), ("json_format", .bool s.json), ("log_to_stderr", .bool s.toStderr)]

/-- The map that writes settings down, section by section. -/
def Settings.toEntries (s : Settings) : Entries := .ofTable [
  ("store", .map s.store.toEntries), ("logging", .map s.logging.toEntries)]

@[simp] theorem Entries.field?_ofTable (t : Table Value) (name : String) :
    (Entries.ofTable t).field? name = t.get? name := by
  induction t with
  | nil => rfl
  | cons r rest ih =>
    rw [ofTable, List.map_cons, field?_cons, Table.get?]
    simp only [Value.text?, Option.some.injEq]
    rw [← ih, ofTable]

namespace Checked

variable {α : Type} {name : String} {default a : α} {es : Entries}

theorem field_of_read {read : Value → Except ViolationCause α} {v : Value}
    (hfield : es.field? name = some v) (hread : read v = .ok a) :
    field name default read es = .ok a := by
  rw [field, hfield]
  dsimp only
  rw [hread]
  rfl

theorem nested_of_read {schema : String} {read : Entries → Checked α} {inner : Entries}
    (hfield : es.field? name = some (.map inner)) (hread : read inner = .ok a) :
    nested name schema default read es = .ok a := by
  rw [nested, hfield]
  dsimp only
  rw [hread]
  rfl

end Checked

section ReadBack

variable {c : Coercion}

/-- A text that may be missing is read back. -/
theorem Coercion.optionalText_ofText? (s : Option String) :
    c.optionalText (.ofText? s) = .ok s := by
  cases s with
  | none => rfl
  | some text =>
    have htext : c.optionalText (.text text) = (c.text (.text text)).map some := rfl
    rw [Value.ofText?, htext, c.text_text]
    rfl

theorem Coercion.ttl_int {n : Int} (hpos : 1 ≤ n) (hday : n ≤ 86400) :
    c.ttl (.int n) = .ok n := by
  rw [ttl, c.integer_int]
  dsimp only
  rw [if_neg (by omega), if_neg (by rw [Field.dayLength]; omega)]

/-- A level that is given by its full name in lower case stays. -/
theorem Coercion.level_text {word : String}
    (h : word ∈ ["debug", "info", "warning", "error", "critical"]) :
    c.level (.text word) = .ok word := by
  simp only [List.mem_cons, List.not_mem_nil, or_false] at h
  rw [level, c.text_text]
  rcases h with rfl | rfl | rfl | rfl | rfl <;> rfl

theorem StoreSettings.ofEntriesBy_toEntries {s : StoreSettings} (h : s.Proper) :
    StoreSettings.ofEntriesBy c s.toEntries = .ok s := by
  have hpersist : Checked.field "persist" true c.boolean s.toEntries = .ok s.persist :=
    Checked.field_of_read (Entries.field?_ofTable _ _) (c.boolean_bool s.persist)
  have hpath : Checked.field "path" none c.optionalText s.toEntries = .ok s.path :=
    Checked.field_of_read (Entries.field?_ofTable _ _) (Coercion.optionalText_ofText? s.path)
  have hdir : Checked.field "base_dir" none c.optionalText s.toEntries = .ok s.baseDir :=
    Checked.field_of_read (Entries.field?_ofTable _ _) (Coercion.optionalText_ofText? s.baseDir)
  have httl : Checked.field "ttl_seconds" Field.defaultTtl c.ttl s.toEntries = .ok s.ttlSeconds :=
    Checked.field_of_read (Entries.field?_ofTable _ _) (Coercion.ttl_int h.positive h.withinDay)
  rw [StoreSettings.ofEntriesBy, hpersist, hpath, hdir, httl]

theorem LoggingSettings.ofEntriesBy_toEntries {s : LoggingSettings} (h : s.Proper) :
    LoggingSettings.ofEntriesBy c s.toEntries = .ok s := by
  have hlevel : Checked.field "level" "info" c.level s.toEntries = .ok s.level :=
    Checked.field_of_read (Entries.field?_ofTable _ _) (Coercion.level_text h.level)
  have hjson : Checked.field "json_format" true c.boolean s.toEntries = .ok s.json :=
    Checked.field_of_read (Entries.field?_ofTable _ _) (c.boolean_bool s.json)
  have hstderr : Checked.field "log_to_stderr" true c.boolean s.toEntries = .ok s.toStderr :=
    Checked.field_of_read (Entries.field?_ofTable _ _) (c.boolean_bool s.toStderr)
  rw [LoggingSettings.ofEntriesBy, hlevel, hjson, hstderr]

/-- **Settings of the form are accepted as they are** when they are written down. -/
theorem Settings.ofEntriesBy_toEntries {s : Settings} (h : s.Proper) :
    Settings.ofEntriesBy c s.toEntries = .ok s := by
  have hstore : Checked.nested "store" "StoreConfig" {} (StoreSettings.ofEntriesBy c)
      s.toEntries = .ok s.store :=
    Checked.nested_of_read (Entries.field?_ofTable _ _)
      (StoreSettings.ofEntriesBy_toEntries h.store)
  have hlogging : Checked.nested "logging" "LoggingConfig" {} (LoggingSettings.ofEntriesBy c)
      s.toEntries = .ok s.logging :=
    Checked.nested_of_read (Entries.field?_ofTable _ _)
      (LoggingSettings.ofEntriesBy_toEntries h.logging)
  rw [Settings.ofEntriesBy, hstore, hlogging]

/-- The settings that some map is accepted as are those of the form. -/
theorem Settings.exists_ofEntriesBy_iff {s : Settings} :
    (∃ es, Settings.ofEntriesBy c es = .ok s) ↔ s.Proper := by
  constructor
  · rintro ⟨es, h⟩
    exact proper_of_ofEntriesBy h
  · exact fun h => ⟨s.toEntries, ofEntriesBy_toEntries h⟩

end ReadBack

/-! ## The level that settings name -/

/-- A word is found, in capitals, among those that mean something, and means a level.  Of other
words some are refused, and what is not found at all is taken for `info`. -/
def MeansLevel (word : String) (level : Level) : Prop :=
  Table.get? (String.ofList (word.toList.flatMap levelCapitals)) levelWordTable =
    some (.level level)

theorem levelNamed_of_meansLevel {word : String} {level : Level} (h : MeansLevel word level) :
    levelNamed word = .ok level := by
  rw [levelNamed, show Table.get? _ levelWordTable = _ from h]

theorem meansLevel_of_mem {word : String} {level : Level} (h : (word, level) ∈ levelsByName) :
    MeansLevel word level := by
  simp only [levelsByName, List.mem_cons, Prod.mk.injEq, List.not_mem_nil, or_false] at h
  rcases h with ⟨rfl, rfl⟩ | ⟨rfl, rfl⟩ | ⟨rfl, rfl⟩ | ⟨rfl, rfl⟩ | ⟨rfl, rfl⟩ <;> rfl

example : ¬∃ level, MeansLevel "verbose" level := by
  rintro ⟨level, hlevel⟩
  cases hlevel

/-- Setting up the logging succeeds, and gives a level to the root logger and to its output, if the
settings ask for one. -/
structure Logging.SetsLevel (c : Logging) (s : LoggingSettings) (level : Level) : Prop where
  succeeds : (c.configure s.level s.json s.toStderr).1 = .ok ()
  logger : ((c.configure s.level s.json s.toStderr).2.logger rootLogger).level = level
  outputs : ((c.configure s.level s.json s.toStderr).2.logger rootLogger).outputs =
    if s.toStderr then [⟨level, s.form⟩] else []

/-- Setting up the logging with a word that means a level sets this level, whatever the root logger
was before. -/
theorem Logging.setsLevel_of_meansLevel {s : LoggingSettings} {level : Level}
    (h : MeansLevel s.level level) (c : Logging) : c.SetsLevel s level := by
  have hconfigure : c.configure s.level s.json s.toStderr =
      (.ok (), (c.ask rootLogger).change rootLogger
        (·.configured level (formOf s.json s.toStderr))) := by
    rw [configure, levelNamed_of_meansLevel h]
  constructor
  case succeeds => rw [hconfigure]
  case logger =>
    rw [hconfigure, logger_change_self, configured_eq]
    rfl
  case outputs =>
    rw [hconfigure, logger_change_self, configured_eq]
    cases hstderr : s.toStderr with
    | true => rfl
    | false => rfl

/-! ## Opening a store under settings -/

section Open

variable {w : Surroundings} {t : FileTree} {time now : Double} {e : CollectorError}

namespace StoreFile

variable {f : StoreFile}

theorem findContent_ne_reported : f.findContent t ≠ .error (.reported e) := by
  intro h
  rw [findContent_eq] at h
  split at h
  · cases h
  · cases h
  · split at h <;> cases h

/-- What is reported about a store file that cannot be opened is about files. -/
theorem find_persistence (h : f.find t now = .error (.reported e)) :
    e.errorClass = .persistence := by
  rw [find_eq] at h
  split at h
  · split at h
    · cases h
    · cases h
      rfl
  · cases h
  · split at h
    · cases h
    · cases h
    · exact absurd h findContent_ne_reported

theorem openStore_persistence (h : (f.openStore t time now).result = .error (.reported e)) :
    e.errorClass = .persistence := by
  rw [openStore_eq] at h
  split at h
  · rename_i g made hmade
    have hfailure : f.directoryFailure g = .reported e := Except.error.inj h
    cases g with
    | file error =>
      cases hfailure
      rfl
    | _ => cases hfailure
  · cases hfind : f.find _ now with
    | error failure =>
      rw [hfind] at h
      cases h
      exact find_persistence hfind
    | ok finding =>
      rw [hfind] at h
      cases h

end StoreFile

theorem Backing.openFile_persistence {f : StoreFile}
    (h : (Backing.openFile t time now f).result = .error (.reported e)) :
    e.errorClass = .persistence := by
  cases hopen : (f.openStore t time now).result with
  | ok s =>
    rw [Backing.openFile, hopen] at h
    cases h
  | error failure =>
    rw [Backing.openFile, hopen] at h
    cases h
    exact StoreFile.openStore_persistence hopen

namespace StoreLocation

variable {l : StoreLocation}

/-- Removing a stale file reports nothing, unless something was reported before. -/
theorem removeOld_ne_reported {done : DiskStep (List Path)}
    (h : done.result ≠ .error (.reported e)) (q : Path) :
    (removeOld time done q).result ≠ .error (.reported e) := by
  unfold removeOld
  split
  · exact h
  · split
    · simp
    · exact h
    · simp

theorem foldl_removeOld_ne_reported (old : List Path) {done : DiskStep (List Path)}
    (h : done.result ≠ .error (.reported e)) :
    (old.foldl (removeOld time) done).result ≠ .error (.reported e) := by
  induction old generalizing done with
  | nil => exact h
  | cons q rest ih => exact ih (removeOld_ne_reported h q)

theorem cleanOld_ne_reported : (l.cleanOld t time now).result ≠ .error (.reported e) := by
  unfold cleanOld
  split
  · simp
  · exact foldl_removeOld_ne_reported _ (by simp)

theorem openCleaned_persistence (h : (l.openCleaned t time now).result = .error (.reported e)) :
    e.errorClass = .persistence := by
  cases hcleaned : (l.cleanOld t time now).result with
  | error failure =>
    have hopen : (l.openCleaned t time now).result = .error failure := by
      rw [openCleaned, hcleaned]
    rw [h] at hopen
    cases hopen
    exact absurd hcleaned cleanOld_ne_reported
  | ok removed =>
    rw [openCleaned_result hcleaned] at h
    exact Backing.openFile_persistence h

end StoreLocation

/-- **Opening the store of a named integration reports nothing but errors about files**, where the
time to live is positive. -/
theorem openFor_persistence {settings : StoreSettings} (hpos : 1 ≤ settings.ttlSeconds)
    {name : String} (hname : name ≠ "") {id : Option String}
    (h : (openFor w t time now name id settings).result = .error (.reported e)) :
    e.errorClass = .persistence := by
  cases hpersist : settings.persist with
  | false =>
    rw [openFor_of_memory hpersist] at h
    cases h
  | true =>
    cases hpath : present? settings.path with
    | some path =>
      rw [openFor_of_path hpersist hpath] at h
      exact Backing.openFile_persistence h
    | none =>
      cases hid : present? id with
      | some chosen =>
        have hchosen : chosen ≠ "" := by
          have hkeep := (Option.filter_eq_some_iff.mp hid).2
          simpa using hkeep
        rw [openFor, hpersist, hpath, hid] at h
        dsimp only at h
        rw [StoreLocation.make_of_pos hname hchosen hpos] at h
        exact StoreLocation.openCleaned_persistence h
      | none =>
        rw [openFor, hpersist, hpath, hid, Surroundings.defaultPath, if_neg hname] at h
        exact Backing.openFile_persistence h

end Open

/-- **Accepted settings are settled.**  Whatever the map wrote, and whatever forms the coercion of the
fields admits: the time to live is positive and at most a day, and the level is given by its full
name; the settings are accepted again as themselves when they are written down; setting up the
logging with them gives the level of that name to the root logger and to its output, and not for want
of another; and no store of a named integration fails to open because an argument were invalid. -/
theorem ofEntries_settled {c : Coercion} {es : Entries} {s : Settings}
    (h : Settings.ofEntriesBy c es = .ok s) :
    (1 ≤ s.store.ttlSeconds ∧ s.store.ttlSeconds ≤ 86400 ∧
      s.logging.level ∈ ["debug", "info", "warning", "error", "critical"]) ∧
    Settings.ofEntriesBy c s.toEntries = .ok s ∧
    (∃ level, (s.logging.level, level) ∈ levelsByName ∧ MeansLevel s.logging.level level ∧
      ∀ logging : Logging, logging.SetsLevel s.logging level) ∧
    ∀ (w : Surroundings) (t : FileTree) (time now : Double) (name : String) (id : Option String),
      name ≠ "" → ∀ e, (openFor w t time now name id s.store).result = .error (.reported e) →
        e.errorClass ≠ .invalidArgument := by
  have hproper := Settings.proper_of_ofEntriesBy h
  have hkeys : s.logging.level ∈ levelsByName.keys := hproper.logging.level
  obtain ⟨level, hlevel⟩ := Table.mem_keys.mp hkeys
  have hmeans := meansLevel_of_mem hlevel
  refine ⟨⟨hproper.store.positive, hproper.store.withinDay, hproper.logging.level⟩,
    Settings.ofEntriesBy_toEntries hproper,
    ⟨level, hlevel, hmeans, Logging.setsLevel_of_meansLevel hmeans⟩, ?_⟩
  intro w t time now name id hname e he
  rw [openFor_persistence hproper.store.positive hname he]
  decide

/-! ### Settings in many forms -/

namespace Spelled

/-- Store settings in other forms than their own: digits with a group and a point, words as bytes,
and a key that is no text. -/
def store : Entries := [
  (.text "ttl_seconds", .text " +9_0.0 "), (.text "persist", .bytes (Text.encodeUtf8 "On")),
  (.int 5, .null), (.text "base_dir", .text "/base"), (.text "path", .bytes [])]

/-- Logging settings in other forms than their own. -/
def logging : Entries := [
  (.text "level", .bytes (Text.encodeUtf8 "WaRn")), (.text "json_format", .float .zero),
  (.text "log_to_stderr", .text "Y")]

/-- Both sections, and one that is no setting. -/
def entries : Entries := [
  (.text "store", .map store), (.text "extra", .list []), (.text "logging", .map logging)]

/-- What they are accepted as. -/
def settings : Settings := ⟨⟨true, some "", some "/base", 90⟩, ⟨"warning", false, true⟩⟩

theorem ofEntries_store : StoreSettings.ofEntriesBy .lax store = .ok settings.store := by
  simp only [StoreSettings.ofEntriesBy, Checked.field, store, Entries.field?_cons, Value.text?,
    Option.some.injEq, String.reduceEq, if_true, if_false, reduceCtorEq]
  rfl

theorem ofEntries_logging : LoggingSettings.ofEntriesBy .lax logging = .ok settings.logging := by
  simp only [LoggingSettings.ofEntriesBy, Checked.field, logging, Entries.field?_cons, Value.text?,
    Option.some.injEq, String.reduceEq, if_true, if_false]
  rfl

theorem ofEntries_entries : Settings.ofEntries entries = .ok settings := by
  simp only [Settings.ofEntries, Settings.ofEntriesBy, Checked.nested, entries,
    Entries.field?_cons, Value.text?, Option.some.injEq, String.reduceEq, if_true, if_false,
    ofEntries_store, ofEntries_logging]
  rfl

end Spelled

open Spelled in
theorem ofEntries_settled_spelled :
    Settings.ofEntries entries = .ok settings ∧
      (1 ≤ settings.store.ttlSeconds ∧ settings.store.ttlSeconds ≤ 86400 ∧
        settings.logging.level ∈ ["debug", "info", "warning", "error", "critical"]) ∧
      Settings.ofEntries settings.toEntries = .ok settings ∧
      (∃ level, (settings.logging.level, level) ∈ levelsByName ∧
        MeansLevel settings.logging.level level ∧
        ∀ logging : Logging, logging.SetsLevel settings.logging level) ∧
      "redis" ≠ "" ∧
      ∀ (w : Surroundings) (t : FileTree) (time now : Double) (id : Option String)
        (e : CollectorError),
        (openFor w t time now "redis" id settings.store).result = .error (.reported e) →
          e.errorClass ≠ .invalidArgument := by
  obtain ⟨hrange, hagain, hlevel, hopen⟩ := ofEntries_settled ofEntries_entries
  refine ⟨ofEntries_entries, hrange, hagain, hlevel, by decide, ?_⟩
  intro w t time now id e
  exact hopen w t time now "redis" id (by decide) e

end Baseline
