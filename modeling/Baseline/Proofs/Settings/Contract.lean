import Baseline.Proofs.Settings.Layers
import Baseline.Proofs.Yaml.Faults

/-!
# How loading may end

Loading ends with settings, with what is wrong with them, with a text that is no markup, or with a
file that is missing.  That is so for every environment, and for every text that is ill-formed or
holds a map whose keys are texts.  Any other text makes loading end in a fault of another sort: its
value is never looked at before it is taken for a map of named settings, and what the reader of the
text raises is handed on.

* `EndsAsDocumented` : the documented ends.
* `HoldsSettings` : a text that holds a map whose keys are texts, or is ill-formed.
* `Escaping` : the other faults, and `Escaping.ofLoad` : which these are for YAML.
* `load_contract` : **a text makes loading end as documented, for every environment, exactly when
  it holds settings; any other text ends it in another fault.**
* `load_list` : a list is such a text.
-/

set_option autoImplicit false

namespace Baseline

open Settings

/-! ## Ends -/

/-- The documented ends: settings, or what is wrong with them, or a text that is no markup, or,
where there is no file, that it is missing. -/
def EndsAsDocumented (missing : Bool) : Except Failure Settings → Prop
  | .ok _ | .error (.refused _) | .error (.fault .markup) => True
  | .error (.fault (.configMissing _)) => missing = true
  | .error _ => False

/-- A text that is ill-formed, or holds a map whose keys are texts, for a reader of texts. -/
def HoldsSettings (markup : String → Except Fault Value) (text : String) : Prop :=
  markup text = .error .markup ∨
    ∃ es, markup text = .ok (.map es) ∧ hasTextKeys es = true

/-- The other faults: a value that is no map or has keys that are no texts, or what the reader of a
text raises for another reason than its form. -/
def Escaping (markup : String → Except Fault Value) (text : String) (f : Fault) : Prop :=
  f = .keywordsNotText ∨ (∃ kind, f = .noMember kind "items") ∨
    (markup text = .error f ∧ f ≠ .markup)

theorem not_endsAsDocumented_of_fault {f : Fault} (h : f ≠ .markup) :
    ¬ EndsAsDocumented false (.error (.fault f)) := by
  cases f with
  | markup => exact absurd rfl h
  | configMissing _ => exact Bool.false_ne_true
  | _ => exact id

theorem Escaping.ne_markup {markup : String → Except Fault Value} {text : String} {f : Fault}
    (h : Escaping markup text f) : f ≠ .markup := by
  rcases h with rfl | ⟨kind, rfl⟩ | ⟨-, h⟩
  · exact nofun
  · exact nofun
  · exact h

/-- What escapes from a YAML text: besides what is no map of named settings, a numeric escape beyond
all characters, nodes that are nested too deep, and a scalar that does not fit its kind. -/
theorem Escaping.ofLoad {text : String} {f : Fault} (h : Escaping Yaml.load text f) :
    f = .keywordsNotText ∨ (∃ kind, f = .noMember kind "items") ∨
      (∃ code, 0x110000 ≤ code ∧ f = .codePointTooLarge code) ∨ f = .nodesTooDeep ∨
      Yaml.OfScalar f := by
  rcases h with h | h | ⟨hload, hf⟩
  · exact Or.inl h
  · exact Or.inr (Or.inl h)
  · rcases Yaml.raisesOnly_load text f hload with (hmarkup | hcode) | h
    · exact absurd hmarkup hf
    · exact Or.inr (Or.inr (Or.inl hcode))
    · exact Or.inr (Or.inr (Or.inr h))

/-! ## Layers -/

theorem hasTextKeys_overlay_nil {es : Entries} (h : es.Distinct) :
    hasTextKeys (Entries.overlay [] es) = hasTextKeys es := by
  have hkeys : (Entries.overlay [] es).keys = es.keys := by
    rw [Entries.keys_overlay h]
    exact List.filter_eq_self.mpr fun _ _ => rfl
  rw [Bool.eq_iff_iff, hasTextKeys_iff, hasTextKeys_iff, hkeys]

/-- A map whose keys are texts comes to settings, or to what is wrong with them; one that has other
keys comes to neither. -/
theorem layered_map (c : Coercion) {es : Entries} (h : es.Distinct) (lead : String)
    (env : Environment) :
    if hasTextKeys es then EndsAsDocumented false (layered c (some (.map es)) lead env)
    else layered c (some (.map es)) lead env = .error (.fault .keywordsNotText) := by
  have henv := composed_environmentSettings lead env
  have htext : hasTextKeys ((Entries.overlay [] es).overlay (environmentSettings lead env)) =
      hasTextKeys es := by
    rw [hasTextKeys_overlay henv.distinct.distinct henv.textKeys, hasTextKeys_overlay_nil h]
  unfold layered overlayOn
  dsimp only [Option.getD]
  rw [htext]
  cases hasTextKeys es with
  | false => rfl
  | true =>
    rw [if_pos rfl]
    cases hchecked : Settings.ofEntriesBy c ((Entries.overlay [] es).overlay
      (environmentSettings lead env)) <;> exact trivial

/-- A value that is no map is not laid over anything. -/
theorem layered_of_ne_map (c : Coercion) {v : Value} (h : ∀ es, v ≠ .map es) (lead : String)
    (env : Environment) :
    layered c (some v) lead env = .error (.fault (.noMember v.fullTypeName "items")) := by
  cases v with
  | map es => exact absurd rfl (h es)
  | _ => rfl

/-! ## Files -/

section Files

variable {markup : String → Except Fault Value} {tree : FileTree} {p : Path}

theorem loadBy_of_fault {f : Fault} (h : readSettingsFileBy markup tree p = .error f)
    (c : Coercion) (lead : String) (env : Environment) :
    Settings.loadBy markup c tree (some p) lead env = .error (.fault f) := by
  rw [Settings.loadBy, h]

theorem loadBy_of_value {v : Value} (h : readSettingsFileBy markup tree p = .ok v) (c : Coercion)
    (lead : String) (env : Environment) :
    Settings.loadBy markup c tree (some p) lead env = layered c (some v) lead env := by
  rw [Settings.loadBy, h]

/-- A text that holds settings ends loading as documented. -/
theorem endsAsDocumented_of_holdsSettings {text : String}
    (hmarkup : KeepsKeysApart markup)
    (hfile : readSettingsFileBy markup tree p = markup text) (h : HoldsSettings markup text)
    (c : Coercion) (lead : String) (env : Environment) :
    EndsAsDocumented false (Settings.loadBy markup c tree (some p) lead env) := by
  rcases h with hform | ⟨es, hes, htext⟩
  · rw [loadBy_of_fault (hfile.trans hform)]
    exact trivial
  · have hlayered := layered_map c (hmarkup text es hes) lead env
    rw [htext, if_pos rfl] at hlayered
    rwa [loadBy_of_value (hfile.trans hes)]

/-- Any other text ends loading in another fault. -/
theorem exists_escaping_of_not_holdsSettings {text : String}
    (hmarkup : KeepsKeysApart markup)
    (hfile : readSettingsFileBy markup tree p = markup text) (h : ¬ HoldsSettings markup text)
    (c : Coercion) (lead : String) (env : Environment) :
    ∃ f, Escaping markup text f ∧
      Settings.loadBy markup c tree (some p) lead env = .error (.fault f) := by
  cases hread : markup text with
  | error f =>
    refine ⟨f, Or.inr (Or.inr ⟨hread, ?_⟩), loadBy_of_fault (hfile.trans hread) c lead env⟩
    rintro rfl
    exact h (Or.inl hread)
  | ok v =>
    rw [loadBy_of_value (hfile.trans hread)]
    by_cases hmap : ∃ es, v = .map es
    · obtain ⟨es, rfl⟩ := hmap
      have hlayered := layered_map c (hmarkup text es hread) lead env
      have htext : hasTextKeys es = false := by
        rw [← Bool.not_eq_true]
        exact fun htext => h (Or.inr ⟨es, hread, htext⟩)
      rw [htext, if_neg Bool.false_ne_true] at hlayered
      exact ⟨_, Or.inl rfl, hlayered⟩
    · have hlayered := layered_of_ne_map c (not_exists.mp hmap) lead env
      exact ⟨_, Or.inr (Or.inl ⟨_, rfl⟩), hlayered⟩

end Files

/-- **A text makes loading end as documented exactly when it is ill-formed or holds a map whose keys
are texts**, and the environment has no part in that.  Any other text ends it in another fault.
Without a file loading ends as documented, and one that is missing is reported so.  It is so for
whatever reads the text of the file, as long as the maps that it finds have distinct keys, and for
every coercion of the fields. -/
theorem load_contract {markup : String → Except Fault Value}
    (hmarkup : KeepsKeysApart markup) (c : Coercion)
    {tree : FileTree} {p : Path} {text : String} (hthere : tree.pathExists p = .ok true)
    (htext : tree.readText p = .ok text) (lead : String) (env : Environment) :
    (EndsAsDocumented false (Settings.loadBy markup c tree (some p) lead env) ↔
        HoldsSettings markup text) ∧
      (¬ HoldsSettings markup text → ∃ f, Escaping markup text f ∧
        Settings.loadBy markup c tree (some p) lead env = .error (.fault f)) ∧
      EndsAsDocumented false (Settings.loadBy markup c tree none lead env) ∧
      ∀ q, tree.pathExists q = .ok false →
        Settings.loadBy markup c tree (some q) lead env =
          .error (.fault (.configMissing q.text)) := by
  have hfile : readSettingsFileBy markup tree p = markup text :=
    readSettingsFileBy_text hthere htext
  have hescapes := fun hnot =>
    exists_escaping_of_not_holdsSettings hmarkup hfile hnot c lead env
  refine ⟨⟨fun hends => ?_, fun h => ?_⟩, hescapes, ?_, fun q hq => ?_⟩
  · by_contra hnot
    obtain ⟨f, hf, heq⟩ := hescapes hnot
    rw [heq] at hends
    exact not_endsAsDocumented_of_fault hf.ne_markup hends
  · exact endsAsDocumented_of_holdsSettings hmarkup hfile h c lead env
  · have hdistinct : Entries.Distinct [] := List.Pairwise.nil
    exact layered_map c hdistinct lead env
  · exact loadBy_of_fault (readSettingsFileBy_missing hq) c lead env

/-! ### A list -/

namespace ListFile

/-- The text of a file that holds a list. -/
def content : String := "- 1\n"

/-- The tree that holds it. -/
def tree : FileTree := ⟨[(["config.yml"], .file (Text.encodeUtf8 content) .zero)]⟩

/-- Its path. -/
def file : Path := ⟨.root, ["config.yml"]⟩

/-- The tokens of the text. -/
def tokens : List Yaml.Token := [.sequenceBlock, .item, .scalar "1" true, .blockEnd]

/-- The node of the text. -/
def node : Yaml.Node := .sequence .sequence [.scalar .int "1"]

theorem load_content : Yaml.load content = .ok (.list [.int 1]) := by
  have htokens : (Yaml.characters content).map Yaml.tokens = .ok ⟨tokens, none⟩ := rfl
  have hnode : Yaml.document ⟨tokens, none⟩ = .ok (some node) := rfl
  have hvalue : node.content = .ok (.list [.int 1]) := rfl
  exact Yaml.load_of_node htokens hnode hvalue rfl

theorem not_holdsSettings : ¬ HoldsSettings Yaml.load content := by
  rintro (h | ⟨es, h, -⟩)
  · rw [load_content] at h
    cases h
  · rw [load_content] at h
    cases h

theorem there : tree.pathExists file = .ok true := rfl

theorem readText_file : tree.readText file = .ok content := rfl

end ListFile

open ListFile in
/-- **A file that holds a list is reported as none of the documented ends.** -/
theorem load_list :
    tree.pathExists file = .ok true ∧ tree.readText file = .ok "- 1\n" ∧
      Settings.load tree (some file) settingPrefix [] =
        .error (.fault (.noMember "list" "items")) ∧
      ¬ EndsAsDocumented false (Settings.load tree (some file) settingPrefix []) := by
  have hload : Settings.load tree (some file) settingPrefix [] =
      .error (.fault (.noMember "list" "items")) := by
    rw [Settings.load, Settings.loadBy, readSettingsFileBy_text there readText_file, load_content]
    rfl
  refine ⟨there, readText_file, hload, ?_⟩
  rw [hload]
  exact id

open ListFile in
theorem load_contract_listFile :
    KeepsKeysApart Yaml.load ∧
      tree.pathExists file = .ok true ∧ tree.readText file = .ok content ∧
      ¬ HoldsSettings Yaml.load content ∧
      (EndsAsDocumented false (Settings.load tree (some file) settingPrefix []) ↔
        HoldsSettings Yaml.load content) ∧
      (¬ HoldsSettings Yaml.load content → ∃ f, Escaping Yaml.load content f ∧
        Settings.load tree (some file) settingPrefix [] = .error (.fault f)) ∧
      EndsAsDocumented false (Settings.load tree none settingPrefix []) ∧
      ∀ q, tree.pathExists q = .ok false →
        Settings.load tree (some q) settingPrefix [] = .error (.fault (.configMissing q.text)) :=
  ⟨keepsKeysApart_load, there, readText_file, not_holdsSettings,
    load_contract keepsKeysApart_load .lax there readText_file settingPrefix []⟩

end Baseline
