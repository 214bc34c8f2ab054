import Mathlib
import Baseline.Proofs.Settings.Variables
import Baseline.Proofs.Yaml.Content

/-!
# Which layer a setting comes from

Settings are described by a file and by variables, as maps of sections, and what neither of them
describes has a default.

* `Entries.setting?` : what a map says under a section and a name.
* `Entries.wellKeyed_environmentSettings` : neither the variables nor their sections name a key
  twice.
* `Entries.field?_of_overlay` : what one layer over another says about a section.
* `Entries.Prevails` : a setting is that of the upper layer, else of the lower one, else the
  default.
* `KeepsKeysApart` : what is asked of the reader of a settings file.
* `load_precedence` : **so it is for each of the seven settings that are loaded from a file under
  the environment.**
-/

set_option autoImplicit false

namespace Baseline

namespace Entries

/-! ## Sections -/

/-- The value under a name in a section, where the section is a map. -/
def setting? (es : Entries) (group name : String) : Option Value :=
  match es.field? group with
  | some (.map inner) => field? name inner
  | _ => none

/-- A map with distinct keys, in which all sections have distinct keys. -/
structure WellKeyed (es : Entries) : Prop where
  keys : es.Distinct
  sections : ∀ {group : String} {inner : Entries}, es.field? group = some (.map inner) →
    inner.Distinct

/-- What is laid over a value stays a map, if it was one. -/
theorem overlayValue_map (below : Option Value) (upper : Entries) :
    ∃ merged, overlayValue below (.map upper) = .map merged := by
  unfold overlayValue
  split
  · exact ⟨_, rfl⟩
  · exact ⟨_, rfl⟩

theorem eq_map_of_overlayValue {below : Option Value} {v : Value} {es : Entries}
    (h : overlayValue below v = .map es) : ∃ upper, v = .map upper := by
  cases v with
  | map upper => exact ⟨upper, rfl⟩
  | _ => cases h

/-- **What one layer over another says about a section**: what the upper one has, over what the
lower one has, or what the lower one has alone. -/
theorem field?_of_overlay {lower upper inner : Entries} (h : upper.WellKeyed) {group : String}
    (hgroup : (lower.overlay upper).field? group = some (.map inner)) (name : String) :
    inner.field? name =
      match upper.setting? group name with
      | some v => some (overlayValue (lower.setting? group name) v)
      | none => lower.setting? group name := by
  rw [field?_overlay h.keys] at hgroup
  unfold setting?
  cases hupper : upper.field? group with
  | none =>
    rw [hupper] at hgroup
    dsimp only at hgroup ⊢
    rw [hgroup]
  | some v =>
    rw [hupper] at hgroup
    obtain ⟨above, rfl⟩ := eq_map_of_overlayValue (Option.some.inj hgroup)
    have hdistinct := h.sections hupper
    -- over anything but a map, the upper section stands alone
    have halone : field? name above = match field? name above with
        | some v => some (overlayValue none v)
        | none => none := by
      cases field? name above with
      | none => rfl
      | some v => exact congrArg some (overlayValue_none v).symm
    cases hlower : lower.field? group with
    | none =>
      rw [hlower] at hgroup
      cases hgroup
      exact halone
    | some below =>
      rw [hlower] at hgroup
      cases below with
      | map low =>
        cases hgroup
        exact field?_overlay hdistinct low name
      | _ =>
        cases hgroup
        exact halone

/-! ## The environment -/

/-- **The map that the variables describe names no key twice, nor does any of its sections.** -/
theorem wellKeyed_environmentSettings (lead : String) (env : Environment) :
    (environmentSettings lead env).WellKeyed :=
  have h := (composed_environmentSettings lead env).distinct
  ⟨h.distinct, fun hgroup => (h.field hgroup).distinct⟩

/-! ## Fields -/

section Fields

variable {α : Type} {lower upper inner es : Entries} {group name : String} {default a : α}
  {read : Value → Except ViolationCause α}

/-- A field has the value that is read from the entry of the upper layer, if that has one, else from
the entry of the lower layer, and else its default. -/
def Prevails (upper lower : Entries) (group name : String)
    (read : Value → Except ViolationCause α) (default a : α) : Prop :=
  match (upper.setting? group name).or (lower.setting? group name) with
  | some v => read v = .ok a
  | none => a = default

theorem field_eq_ok (h : Checked.field name default read es = .ok a) :
    match es.field? name with
    | some v => read v = .ok a
    | none => a = default := by
  unfold Checked.field at h
  cases hfield : es.field? name with
  | none =>
    rw [hfield] at h
    cases h
    rfl
  | some v =>
    rw [hfield] at h
    dsimp only at h ⊢
    cases hread : read v with
    | error cause =>
      rw [hread] at h
      cases h
    | ok b =>
      rw [hread] at h
      cases h
      rfl

/-- A field that is read from one layer over another, where the section is there.  A map is no value
of a field, so it does not matter that maps are merged. -/
theorem prevails_of_field (h : upper.WellKeyed) (hmap : ∀ es a, read (.map es) ≠ .ok a)
    (hgroup : (lower.overlay upper).field? group = some (.map inner))
    (hfield : Checked.field name default read inner = .ok a) :
    Prevails upper lower group name read default a := by
  have hread := field_eq_ok hfield
  rw [field?_of_overlay h hgroup] at hread
  unfold Prevails
  cases hupper : upper.setting? group name with
  | none =>
    rw [hupper] at hread
    exact hread
  | some v =>
    rw [hupper] at hread
    cases v with
    | map es =>
      obtain ⟨merged, hmerged⟩ := overlayValue_map (lower.setting? group name) es
      dsimp only at hread
      rw [hmerged] at hread
      exact absurd hread (hmap merged a)
    | _ => exact hread

/-- Where no layer has the section, the fields have their defaults. -/
theorem prevails_default (h : upper.WellKeyed)
    (hgroup : (lower.overlay upper).field? group = none) (name : String)
    (read : Value → Except ViolationCause α) (default : α) :
    Prevails upper lower group name read default default := by
  rw [field?_overlay h.keys] at hgroup
  cases hupper : upper.field? group with
  | none =>
    rw [hupper] at hgroup
    unfold Prevails setting?
    rw [hupper, show lower.field? group = none from hgroup]
    rfl
  | some v =>
    rw [hupper] at hgroup
    cases hgroup

theorem nested_eq_ok {schema : String} {read : Entries → Checked α}
    (h : Checked.nested name schema default read es = .ok a) :
    (es.field? name = none ∧ a = default) ∨
      ∃ inner, es.field? name = some (.map inner) ∧ read inner = .ok a := by
  unfold Checked.nested at h
  split at h
  · rename_i hfield
    cases h
    exact Or.inl ⟨hfield, rfl⟩
  · rename_i inner hfield
    cases hread : read inner with
    | error vs =>
      rw [hread] at h
      cases h
    | ok b =>
      rw [hread] at h
      cases h
      exact Or.inr ⟨inner, hfield, hread⟩
  · cases h

end Fields

/-! ## Sections of the settings -/

section Sections

variable {c : Coercion}

theorem optionalText_ne_ok_of_map (es : Entries) (s : Option String) :
    c.optionalText (.map es) ≠ .ok s := by
  intro h
  unfold Coercion.optionalText at h
  dsimp only at h
  cases htext : c.text (.map es) with
  | error cause =>
    rw [htext] at h
    cases h
  | ok text => exact c.text_map es text htext

theorem ttl_ne_ok_of_map (es : Entries) (n : Int) : c.ttl (.map es) ≠ .ok n := by
  intro h
  unfold Coercion.ttl at h
  split at h
  · cases h
  · rename_i found hfound
    exact c.integer_map es found hfound

theorem level_ne_ok_of_map (es : Entries) (s : String) : c.level (.map es) ≠ .ok s := by
  intro h
  unfold Coercion.level at h
  split at h
  · cases h
  · rename_i text htext
    exact c.text_map es text htext

/-- The settings of the store, field by field, under a coercion. -/
def StorePrevails (c : Coercion) (upper lower : Entries) (s : StoreSettings) : Prop :=
  Prevails upper lower "store" "persist" c.boolean true s.persist ∧
    Prevails upper lower "store" "path" c.optionalText none s.path ∧
    Prevails upper lower "store" "base_dir" c.optionalText none s.baseDir ∧
    Prevails upper lower "store" "ttl_seconds" c.ttl Field.defaultTtl s.ttlSeconds

/-- The settings of the log, field by field, under a coercion. -/
def LoggingPrevails (c : Coercion) (upper lower : Entries) (s : LoggingSettings) : Prop :=
  Prevails upper lower "logging" "level" c.level "info" s.level ∧
    Prevails upper lower "logging" "json_format" c.boolean true s.json ∧
    Prevails upper lower "logging" "log_to_stderr" c.boolean true s.toStderr

theorem storePrevails_of_nested {upper lower : Entries} (h : upper.WellKeyed) {s : StoreSettings}
    (hs : Checked.nested "store" "StoreConfig" {} (StoreSettings.ofEntriesBy c)
      (lower.overlay upper) = .ok s) : StorePrevails c upper lower s := by
  rcases nested_eq_ok hs with ⟨hgroup, rfl⟩ | ⟨inner, hgroup, hread⟩
  · exact ⟨prevails_default h hgroup _ _ _, prevails_default h hgroup _ _ _,
      prevails_default h hgroup _ _ _, prevails_default h hgroup _ _ _⟩
  · unfold StoreSettings.ofEntriesBy at hread
    dsimp only at hread
    split at hread
    · rename_i persist path baseDir ttl hpersist hpath hbaseDir httl
      cases hread
      exact ⟨prevails_of_field h c.boolean_map hgroup hpersist,
        prevails_of_field h optionalText_ne_ok_of_map hgroup hpath,
        prevails_of_field h optionalText_ne_ok_of_map hgroup hbaseDir,
        prevails_of_field h ttl_ne_ok_of_map hgroup httl⟩
    · cases hread

theorem loggingPrevails_of_nested {upper lower : Entries} (h : upper.WellKeyed)
    {s : LoggingSettings}
    (hs : Checked.nested "logging" "LoggingConfig" {} (LoggingSettings.ofEntriesBy c)
      (lower.overlay upper) = .ok s) : LoggingPrevails c upper lower s := by
  rcases nested_eq_ok hs with ⟨hgroup, rfl⟩ | ⟨inner, hgroup, hread⟩
  · exact ⟨prevails_default h hgroup _ _ _, prevails_default h hgroup _ _ _,
      prevails_default h hgroup _ _ _⟩
  · unfold LoggingSettings.ofEntriesBy at hread
    dsimp only at hread
    split at hread
    · rename_i level json toStderr hlevel hjson hstderr
      cases hread
      exact ⟨prevails_of_field h level_ne_ok_of_map hgroup hlevel,
        prevails_of_field h c.boolean_map hgroup hjson,
        prevails_of_field h c.boolean_map hgroup hstderr⟩
    · cases hread

end Sections

end Entries

open Entries

/-! ## Loading -/

/-- A reader of texts finds only maps with distinct keys. -/
def KeepsKeysApart (markup : String → Except Fault Value) : Prop :=
  ∀ (text : String) (es : Entries), markup text = .ok (.map es) → es.Distinct

theorem keepsKeysApart_load : KeepsKeysApart Yaml.load := fun _ _ => Yaml.distinct_of_load

section Files

variable {markup : String → Except Fault Value} {tree : FileTree} {p : Path}

theorem readSettingsFileBy_missing (h : tree.pathExists p = .ok false) :
    readSettingsFileBy markup tree p = .error (.configMissing p.text) := by
  unfold readSettingsFileBy
  rw [bind_of_ok h]
  rfl

theorem readSettingsFileBy_text {text : String} (h : tree.pathExists p = .ok true)
    (htext : tree.readText p = .ok text) : readSettingsFileBy markup tree p = markup text := by
  unfold readSettingsFileBy
  rw [bind_of_ok h]
  exact bind_of_ok htext _

/-- A settings file that holds a map names no key of it twice, if what reads it keeps keys apart. -/
theorem distinct_of_readSettingsFileBy (hmarkup : KeepsKeysApart markup) {es : Entries}
    (h : readSettingsFileBy markup tree p = .ok (.map es)) : es.Distinct := by
  unfold readSettingsFileBy at h
  obtain ⟨there, -, h⟩ := bind_eq_ok h
  dsimp only at h
  split at h
  · obtain ⟨_, hmissing, -⟩ := bind_eq_ok h
    cases hmissing
  · obtain ⟨text, -, h⟩ := bind_eq_ok h
    exact hmarkup text es h

end Files

/-- Both sections of settings that were checked together. -/
theorem ofEntriesBy_eq_ok {c : Coercion} {es : Entries} {s : Settings}
    (h : Settings.ofEntriesBy c es = .ok s) :
    Checked.nested "store" "StoreConfig" {} (StoreSettings.ofEntriesBy c) es = .ok s.store ∧
      Checked.nested "logging" "LoggingConfig" {} (LoggingSettings.ofEntriesBy c) es =
        .ok s.logging := by
  unfold Settings.ofEntriesBy at h
  dsimp only at h
  split at h
  · rename_i store logging hstore hlogging
    cases h
    exact ⟨hstore, hlogging⟩
  · cases h

theorem setting?_overlay_nil {es : Entries} (h : es.Distinct) (group name : String) :
    (overlay [] es).setting? group name = es.setting? group name := by
  unfold setting?
  rw [field?_overlay_nil h]

theorem prevails_overlay_nil {α : Type} {upper es : Entries} (h : es.Distinct)
    {group name : String} {read : Value → Except ViolationCause α} {default a : α} :
    Prevails upper (overlay [] es) group name read default a ↔
      Prevails upper es group name read default a := by
  unfold Prevails
  rw [setting?_overlay_nil h]

/-- **Each setting comes from the environment, else from the file, else it is the default.**
Whenever settings are loaded from a file that holds a map, under the variables of an environment,
each of the seven fields has the value that is read from the entry that the variables describe for
it; if there is none, the value that is read from the entry of the file, where the file has the
section as a map that has the entry; and otherwise the default of the field.  It is so for whatever
reads the text of the file, as long as the maps that it finds have distinct keys, and for every
coercion of the fields. -/
theorem load_precedence {markup : String → Except Fault Value} (hmarkup : KeepsKeysApart markup)
    (c : Coercion) {tree : FileTree} {p : Path} {lead : String} {env : Environment} {es : Entries}
    {settings : Settings} (hfile : readSettingsFileBy markup tree p = .ok (.map es))
    (hload : Settings.loadBy markup c tree (some p) lead env = .ok settings) :
    StorePrevails c (environmentSettings lead env) es settings.store ∧
      LoggingPrevails c (environmentSettings lead env) es settings.logging := by
  have hdistinct := distinct_of_readSettingsFileBy hmarkup hfile
  have henv := wellKeyed_environmentSettings lead env
  unfold Settings.loadBy at hload
  dsimp only at hload
  rw [hfile] at hload
  dsimp only at hload
  unfold Settings.layered overlayOn at hload
  dsimp only [Option.getD] at hload
  split at hload
  · cases hload
  cases hchecked : Settings.ofEntriesBy c
    ((overlay [] es).overlay (environmentSettings lead env)) with
  | error vs =>
    rw [hchecked] at hload
    cases hload
  | ok found =>
    rw [hchecked] at hload
    cases hload
    obtain ⟨hstore, hlogging⟩ := ofEntriesBy_eq_ok hchecked
    obtain ⟨hpersist, hpath, hbaseDir, httl⟩ := storePrevails_of_nested henv hstore
    obtain ⟨hlevel, hjson, hstderr⟩ := loggingPrevails_of_nested henv hlogging
    have hlower : ∀ {α : Type} {group name : String} {read : Value → Except ViolationCause α}
        {default a : α}, Prevails (environmentSettings lead env) (overlay [] es) group name read
          default a → Prevails (environmentSettings lead env) es group name read default a :=
      (prevails_overlay_nil hdistinct).mp
    exact ⟨⟨hlower hpersist, hlower hpath, hlower hbaseDir, hlower httl⟩,
      hlower hlevel, hlower hjson, hlower hstderr⟩

/-! ### A file and a variable that disagree -/

namespace TwoLayers

/-- The text of a settings file. -/
def content : String := "store:\n  ttl_seconds: 30\n"

/-- The tree that holds it. -/
def tree : FileTree := ⟨[(["config.yml"], .file (Text.encodeUtf8 content) .zero)]⟩

/-- Its path. -/
def file : Path := ⟨.root, ["config.yml"]⟩

/-- A variable that says otherwise. -/
def environment : Environment := [("COLLECTOR_SDK_STORE__TTL_SECONDS", "120")]

/-- What the file holds. -/
def entries : Entries := [(.text "store", .map [(.text "ttl_seconds", .int 30)])]

/-- The settings that come of it. -/
def settings : Settings := ⟨⟨true, none, none, 120⟩, ⟨"info", true, true⟩⟩

/-- The tokens of the text. -/
def tokens : List Yaml.Token := [.mappingBlock, .key, .scalar "store" true, .value, .mappingBlock,
  .key, .scalar "ttl_seconds" true, .value, .scalar "30" true, .blockEnd, .blockEnd]

/-- The node of the text. -/
def node : Yaml.Node := .mapping .mapping
  [(.scalar .text "store", .mapping .mapping [(.scalar .text "ttl_seconds", .scalar .int "30")])]

theorem load_content : Yaml.load content = .ok (.map entries) := by
  have htokens : (Yaml.characters content).map Yaml.tokens = .ok ⟨tokens, none⟩ := rfl
  have hnode : Yaml.document ⟨tokens, none⟩ = .ok (some node) := rfl
  have hvalue : node.content = .ok (.map entries) := by cbv
  exact Yaml.load_of_node htokens hnode hvalue rfl

theorem readSettingsFile_file : readSettingsFile tree file = .ok (.map entries) := by
  have hthere : tree.pathExists file = .ok true := rfl
  have htext : tree.readText file = .ok content := rfl
  exact (readSettingsFileBy_text hthere htext).trans load_content

theorem load_file : Settings.load tree (some file) settingPrefix environment = .ok settings := by
  have hfile : readSettingsFileBy Yaml.load tree file = .ok (.map entries) := readSettingsFile_file
  rw [Settings.load, Settings.loadBy, hfile]
  cbv

end TwoLayers

open TwoLayers in
theorem load_precedence_twoLayers :
    KeepsKeysApart Yaml.load ∧
      readSettingsFile tree file = .ok (.map entries) ∧
      Settings.load tree (some file) settingPrefix environment = .ok settings ∧
      StorePrevails .lax (environmentSettings settingPrefix environment) entries
        settings.store ∧
      LoggingPrevails .lax (environmentSettings settingPrefix environment) entries
        settings.logging :=
  ⟨keepsKeysApart_load, readSettingsFile_file, load_file,
    load_precedence keepsKeysApart_load .lax readSettingsFile_file load_file⟩

end Baseline
