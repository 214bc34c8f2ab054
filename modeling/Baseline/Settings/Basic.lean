import Baseline.Failure
import Baseline.Settings.Environment
import Baseline.Settings.Field
import Baseline.Settings.Merge

/-!
# Settings

The settings of a collector process: where and how long baselines are kept, and how the
process logs.

* `StoreSettings.ofEntries`, `LoggingSettings.ofEntries`, `Settings.ofEntries` : the settings
  that a map describes.  Unknown keys are ignored, absent fields keep their defaults, and all
  violations are reported together, in the order of the fields.
* `Settings.ofEntriesBy` : the same with another coercion of the fields.
* `Settings.layered` : the settings of a file under those of the environment.
-/

set_option autoImplicit false

namespace Baseline

/-- How baselines are kept. -/
structure StoreSettings where
  persist : Bool := true
  path : Option String := none
  baseDir : Option String := none
  ttlSeconds : Int := Field.defaultTtl
deriving DecidableEq, Repr

/-- How a process logs. -/
structure LoggingSettings where
  level : String := "info"
  json : Bool := true
  toStderr : Bool := true
deriving DecidableEq, Repr

/-- The settings of a collector process. -/
structure Settings where
  store : StoreSettings := {}
  logging : LoggingSettings := {}
deriving DecidableEq, Repr

/-! ## Checking -/

/-- A checked part of the settings, or what is wrong with it. -/
abbrev Checked (α : Type) := Except (List Violation) α

namespace Checked

/-- What is wrong with a part. -/
def violations {α : Type} : Checked α → List Violation
  | .ok _ => []
  | .error vs => vs

/-- The field with a name as `read` reads it, or its default when it is absent. -/
def field {α : Type} (name : String) (default : α) (read : Value → Except ViolationCause α)
    (es : Entries) : Checked α :=
  match es.field? name with
  | none => .ok default
  | some v => (read v).mapError fun cause => [⟨[name], cause⟩]

/-- The section with a name as `read` reads its map, or its default when it is absent. -/
def nested {α : Type} (name schema : String) (default : α) (read : Entries → Checked α)
    (es : Entries) : Checked α :=
  match es.field? name with
  | none => .ok default
  | some (.map inner) =>
    (read inner).mapError fun vs => vs.map fun v => { v with path := name :: v.path }
  | some _ => .error [⟨[name], .sectionType schema⟩]

end Checked

open Checked

/-- The store settings that a map describes, under a coercion. -/
def StoreSettings.ofEntriesBy (c : Coercion) (es : Entries) : Checked StoreSettings :=
  let persist := field "persist" true c.boolean es
  let path := field "path" none c.optionalText es
  let baseDir := field "base_dir" none c.optionalText es
  let ttl := field "ttl_seconds" Field.defaultTtl c.ttl es
  match persist, path, baseDir, ttl with
  | .ok persist, .ok path, .ok baseDir, .ok ttl => .ok ⟨persist, path, baseDir, ttl⟩
  | _, _, _, _ =>
    .error (persist.violations ++ path.violations ++ baseDir.violations ++ ttl.violations)

/-- The store settings that a map describes. -/
def StoreSettings.ofEntries (es : Entries) : Checked StoreSettings := ofEntriesBy .lax es

/-- The logging settings that a map describes, under a coercion. -/
def LoggingSettings.ofEntriesBy (c : Coercion) (es : Entries) : Checked LoggingSettings :=
  let level := field "level" "info" c.level es
  let json := field "json_format" true c.boolean es
  let toStderr := field "log_to_stderr" true c.boolean es
  match level, json, toStderr with
  | .ok level, .ok json, .ok toStderr => .ok ⟨level, json, toStderr⟩
  | _, _, _ => .error (level.violations ++ json.violations ++ toStderr.violations)

/-- The logging settings that a map describes. -/
def LoggingSettings.ofEntries (es : Entries) : Checked LoggingSettings := ofEntriesBy .lax es

/-- The settings that a map describes, under a coercion. -/
def Settings.ofEntriesBy (c : Coercion) (es : Entries) : Checked Settings :=
  let store := nested "store" "StoreConfig" {} (StoreSettings.ofEntriesBy c) es
  let logging := nested "logging" "LoggingConfig" {} (LoggingSettings.ofEntriesBy c) es
  match store, logging with
  | .ok store, .ok logging => .ok ⟨store, logging⟩
  | _, _ => .error (store.violations ++ logging.violations)

/-- The settings that a map describes. -/
def Settings.ofEntries (es : Entries) : Checked Settings := ofEntriesBy .lax es

/-! ## Layers -/

namespace Settings

/-- Whether every key of a map is a text. -/
def hasTextKeys (es : Entries) : Bool := es.all fun e => e.1.text?.isSome

/-- The settings of a map from a file, if there is one, under those that the variables with a
prefix describe. -/
def layered (c : Coercion) (file : Option Value) (lead : String) (env : Environment) :
    Except Failure Settings :=
  match overlayOn [] (file.getD (.map [])) with
  | .error f => .error (.fault f)
  | .ok lower =>
    let merged := lower.overlay (environmentSettings lead env)
    if !hasTextKeys merged then .error (.fault .keywordsNotText)
    else (Settings.ofEntriesBy c merged).mapError .refused

end Settings

end Baseline
