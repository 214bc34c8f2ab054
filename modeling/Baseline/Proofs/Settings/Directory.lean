import Mathlib.Data.List.TakeWhile
import Baseline.Proofs.Settings.Entries
import Baseline.Proofs.Table
import Baseline.Settings.File
import Baseline.Store.Opening

/-!
# The variable of the base directory

One variable names the base directory of the store files.  It is read as it stands where a path is
derived from it, and as a setting where settings are loaded.  A setting is guessed from its text, so
that a directory with the name of a number is none.

* `IsLiteral` : the texts that are taken for something else than a text.
* `optionalText_parseSetting` : **a field of text reads a variable exactly when it is none of
  these.**
* `environmentSettings_filter` : variables without the prefix do not matter.
* `load_baseDirectory` : **what is loaded under the variable alone, and that the store is then
  opened where the variable says.**
-/

set_option autoImplicit false

namespace Baseline

/-! ## Literals -/

namespace Numeral

theorem isSome_unsigned?_of_digits {ds : List Char} (hne : ds ≠ []) (hds : ds.all isDigit = true)
    (neg : Bool) : (unsigned? neg ds).isSome = true := by
  have hall : ∀ c ∈ ds, isDigit c = true := List.all_eq_true.mp hds
  have htake : ds.takeWhile isDigit = ds := List.takeWhile_eq_self_iff.mpr hall
  have hdrop : ds.dropWhile isDigit = [] := List.dropWhile_eq_nil_iff.mpr hall
  simp [unsigned?, htake, hdrop, hne, exponent?]

theorem isSome_plainDouble? {cs : List Char}
    (h : (unsigned? (splitSign cs).1 (splitSign cs).2).isSome = true) :
    (plainDouble? cs).isSome = true := by
  unfold plainDouble?
  dsimp only
  split
  · rfl
  · rfl
  · rfl
  · simpa using h

theorem splitSign_of_digits {ds : List Char} (h : ds.all isDigit = true) :
    splitSign ds = (false, ds) := by
  unfold splitSign
  split
  · simp [isDigit] at h
  · simp [isDigit] at h
  · rfl

/-- The underscores of a signed numeral are those behind its sign. -/
theorem joinGroups?_of_splitSign {cs ds : List Char}
    (h : joinGroups? false (splitSign cs).2 = some ds) (hds : ds.all isDigit = true) :
    ∃ joined, joinGroups? false cs = some joined ∧ splitSign joined = ((splitSign cs).1, ds) := by
  unfold splitSign at h ⊢
  split at h
  · rename_i rest
    refine ⟨'-' :: ds, ?_, rfl⟩
    simp only at h
    simp [joinGroups?, isDigit, h]
  · rename_i rest
    refine ⟨'+' :: ds, ?_, rfl⟩
    simp only at h
    simp [joinGroups?, isDigit, h]
  · refine ⟨ds, h, ?_⟩
    exact splitSign_of_digits hds

/-- **What denotes a whole number denotes a number.** -/
theorem isSome_double?_of_integer? {cs : List Char} {n : Int} (h : integer? cs = some n) :
    (double? cs).isSome = true := by
  have hdigits : ∃ neg ds, integerDigits? cs = some (neg, ds) := by
    unfold integer? at h
    split at h
    · rename_i neg ds hdigits
      exact ⟨neg, ds, hdigits⟩
    · cases h
  obtain ⟨neg, ds, hdigits⟩ := hdigits
  unfold integerDigits? at hdigits
  dsimp only at hdigits
  split at hdigits
  · rename_i ds' hjoin
    split at hdigits
    · rename_i hall
      obtain ⟨joined, hjoined, hsplit⟩ := joinGroups?_of_splitSign hjoin hall.2
      have hunsigned := isSome_unsigned?_of_digits hall.1 hall.2 (splitSign (normalize cs)).1
      rw [double?, hjoined, Option.bind_some]
      apply isSome_plainDouble?
      rwa [hsplit]
    · cases hdigits
  · cases hdigits

end Numeral

/-- A text that is taken for something else than a text: a truth word or a number. -/
def IsLiteral (s : String) : Prop :=
  Text.lower s ∈ ["true", "yes", "on", "false", "no", "off"] ∨
    (Numeral.double? s.toList).isSome = true

instance (s : String) : Decidable (IsLiteral s) :=
  inferInstanceAs (Decidable (_ ∨ _))

/-- **A field of text reads a variable exactly when its text is no literal.** -/
theorem optionalText_parseSetting (s : String) :
    Coercion.lax.optionalText (parseSetting s) =
      if IsLiteral s then .error .textType else .ok (some s) := by
  have hwords : Text.lower s ∈ ["true", "yes", "on", "false", "no", "off"] ↔
      (Text.lower s = "true" ∨ Text.lower s = "yes" ∨ Text.lower s = "on") ∨
        Text.lower s = "false" ∨ Text.lower s = "no" ∨ Text.lower s = "off" := by
    simp [or_assoc]
  unfold parseSetting
  dsimp only
  split
  · rename_i hyes
    have hliteral : IsLiteral s := Or.inl (hwords.mpr (Or.inl hyes))
    rw [if_pos hliteral]
    rfl
  rename_i hyes
  split
  · rename_i hno
    have hliteral : IsLiteral s := Or.inl (hwords.mpr (Or.inr hno))
    rw [if_pos hliteral]
    rfl
  rename_i hno
  cases hinteger : Numeral.integer? s.toList with
  | some n =>
    have hliteral : IsLiteral s := Or.inr (Numeral.isSome_double?_of_integer? hinteger)
    rw [if_pos hliteral]
    rfl
  | none =>
    cases hdouble : Numeral.double? s.toList with
    | some x =>
      have hliteral : IsLiteral s := by
        right
        rw [hdouble]
        rfl
      rw [if_pos hliteral]
      rfl
    | none =>
      have hliteral : ¬ IsLiteral s := by
        rintro (hword | hsome)
        · rcases hwords.mp hword with hword | hword
          · exact hyes hword
          · exact hno hword
        · rw [hdouble] at hsome
          cases hsome
      rw [if_neg hliteral]
      rfl

/-! ## Variables with a prefix -/

/-- **Variables without the prefix do not matter.** -/
theorem environmentSettings_filter (lead : String) (env : Environment) :
    environmentSettings lead (env.filter fun var => (afterPrefix? lead var.1).isSome) =
      environmentSettings lead env := by
  unfold environmentSettings
  generalize ([] : Entries) = es
  induction env generalizing es with
  | nil => rfl
  | cons var rest ih =>
    cases hname : afterPrefix? lead var.1 with
    | none =>
      rw [List.filter_cons_of_neg (by simp [hname]), ih]
      simp [hname]
    | some name =>
      rw [List.filter_cons_of_pos (by simp [hname]), List.foldl_cons, List.foldl_cons, ih]

/-- The variable of the base directory has this value, and no other variable with the prefix of
settings is there. -/
def OnlyBaseDirectory (env : Environment) (v : String) : Prop :=
  env.filter (fun var => (afterPrefix? settingPrefix var.1).isSome) = [(baseDirectoryVariable, v)]

namespace OnlyBaseDirectory

variable {env : Environment} {v : String}

theorem get? (h : OnlyBaseDirectory env v) : Table.get? baseDirectoryVariable env = some v := by
  have hkept : (afterPrefix? settingPrefix baseDirectoryVariable).isSome = true := by decide
  have hfilter := Table.get?_filter (fun name => (afterPrefix? settingPrefix name).isSome) hkept env
  rw [← hfilter, show List.filter _ env = [(baseDirectoryVariable, v)] from h, Table.get?,
    if_pos rfl]

theorem environmentSettings (h : OnlyBaseDirectory env v) :
    environmentSettings settingPrefix env =
      [(.text "store", .map [(.text "base_dir", parseSetting v)])] := by
  have hpath : settingPath "STORE__BASE_DIR" = ["store", "base_dir"] := by decide +kernel
  have hname : afterPrefix? settingPrefix baseDirectoryVariable = some "STORE__BASE_DIR" := by
    decide
  rw [← environmentSettings_filter, show List.filter _ env = [(baseDirectoryVariable, v)] from h]
  simp only [Baseline.environmentSettings, List.foldl_cons, List.foldl_nil, hname, hpath]
  rfl

/-- The base directory is that of the variable. -/
theorem baseDirectory (h : OnlyBaseDirectory env v) (hv : v ≠ "") (temporary : Path) :
    Surroundings.baseDirectory ⟨env, temporary⟩ none = Path.ofText v := by
  have hpresent : present? (some v) = some v := by simp [present?, hv]
  rw [Surroundings.baseDirectory, h.get?, hpresent]
  rfl

end OnlyBaseDirectory

/-! ## Loading -/

/-- The default settings with another base directory. -/
def settingsIn (dir : Option String) : Settings := { store := { baseDir := dir } }

/-- A section that names a base directory only. -/
theorem StoreSettings.ofEntriesBy_baseDir (c : Coercion) (value : Value) :
    StoreSettings.ofEntriesBy c [(.text "base_dir", value)] =
      match c.optionalText value with
      | .ok dir => .ok (settingsIn dir).store
      | .error cause => .error [⟨["base_dir"], cause⟩] := by
  have hother : ∀ name, "base_dir" ≠ name →
      Entries.field? name [(.text "base_dir", value)] = none := by
    intro name hname
    rw [Entries.field?_single, if_neg hname]
  have hpersist := hother "persist" (by decide)
  have hpath := hother "path" (by decide)
  have httl := hother "ttl_seconds" (by decide)
  have hdir : Entries.field? "base_dir" [(.text "base_dir", value)] = some value := by
    rw [Entries.field?_single, if_pos rfl]
  simp only [StoreSettings.ofEntriesBy, Checked.field, hpersist, hpath, httl, hdir]
  cases c.optionalText value with
  | ok dir => rfl
  | error cause => rfl

/-- Settings that name a base directory only. -/
theorem Settings.ofEntriesBy_baseDir (c : Coercion) (value : Value) :
    Settings.ofEntriesBy c [(.text "store", .map [(.text "base_dir", value)])] =
      match c.optionalText value with
      | .ok dir => .ok (settingsIn dir)
      | .error cause => .error [⟨["store", "base_dir"], cause⟩] := by
  have hstore : Entries.field? "store" [(.text "store", .map [(.text "base_dir", value)])] =
      some (.map [(.text "base_dir", value)]) := by
    rw [Entries.field?_single, if_pos rfl]
  have hlogging : Entries.field? "logging" [(.text "store", .map [(.text "base_dir", value)])] =
      none := by
    rw [Entries.field?_single, if_neg (by decide)]
  simp only [Settings.ofEntriesBy, Checked.nested, hstore, hlogging,
    StoreSettings.ofEntriesBy_baseDir]
  cases c.optionalText value with
  | ok dir => rfl
  | error cause => rfl

/-- Opens the store file that an integration has without settings. -/
def Surroundings.openDefault (w : Surroundings) (tree : FileTree) (time now : Double)
    (name : String) (ttl : Int) : DiskStep (Backing × Store) :=
  match w.defaultPath name none with
  | .error e => ⟨.error e, tree, []⟩
  | .ok path => Backing.openFile tree time now ⟨path, .int ttl⟩

namespace OnlyBaseDirectory

variable {env : Environment} {v : String}

theorem load (h : OnlyBaseDirectory env v) (tree : FileTree) :
    Settings.load tree none settingPrefix env =
      if IsLiteral v then .error (.refused [⟨["store", "base_dir"], .textType⟩])
      else .ok (settingsIn (some v)) := by
  have hoverlay : Entries.overlay [] [(.text "store", .map [(.text "base_dir", parseSetting v)])] =
      [(.text "store", .map [(.text "base_dir", parseSetting v)])] := rfl
  have hkeys : Settings.hasTextKeys
      [(.text "store", .map [(.text "base_dir", parseSetting v)])] = true := rfl
  have hempty : overlayOn [] ((none : Option Value).getD (.map [])) = .ok [] := rfl
  simp only [Settings.load, Settings.loadBy, Settings.layered, hempty, h.environmentSettings,
    hoverlay, hkeys, Settings.ofEntriesBy_baseDir, optionalText_parseSetting]
  by_cases hliteral : IsLiteral v
  · simp [hliteral, Except.mapError]
  · simp [hliteral, Except.mapError]

/-- With these settings the store is opened where the variable says. -/
theorem openFor (h : OnlyBaseDirectory env v) (hv : v ≠ "") (temporary : Path) (tree : FileTree)
    (time now : Double) (name : String) :
    openFor ⟨env, temporary⟩ tree time now name none (settingsIn (some v)).store =
      Surroundings.openDefault ⟨env, temporary⟩ tree time now name
        (settingsIn (some v)).store.ttlSeconds := by
  have hpresent : present? (some v) = some v := by simp [present?, hv]
  have hdirectory : Surroundings.baseDirectory ⟨env, temporary⟩ (some v) =
      Surroundings.baseDirectory ⟨env, temporary⟩ none := by
    rw [h.baseDirectory hv, Surroundings.baseDirectory, hpresent]
  have hpath : Surroundings.defaultPath ⟨env, temporary⟩ name (some v) =
      Surroundings.defaultPath ⟨env, temporary⟩ name none := by
    rw [Surroundings.defaultPath, Surroundings.defaultPath, hdirectory]
  rw [Surroundings.openDefault, ← hpath]
  rfl

end OnlyBaseDirectory

/-- A directory that is named like a year is refused as a setting, while a path is derived from
it. -/
theorem load_baseDirectory_refused :
    Settings.load ⟨[]⟩ none settingPrefix [(baseDirectoryVariable, "2024")] =
        .error (.refused [⟨["store", "base_dir"], .textType⟩]) ∧
      Surroundings.defaultPath ⟨[(baseDirectoryVariable, "2024")], ⟨.root, ["tmp"]⟩⟩ "redis" none =
        .ok ⟨.relative, ["2024", "redis.json"]⟩ := by
  have honly : OnlyBaseDirectory [(baseDirectoryVariable, "2024")] "2024" := by
    unfold OnlyBaseDirectory
    decide +kernel
  have hliteral : IsLiteral "2024" := by decide +kernel
  constructor
  · rw [honly.load, if_pos hliteral]
  · rfl

/-- **The variable of the base directory means the same to both readers exactly when its value is
no literal.**  Then settings are loaded that have it as their base directory, and with them every
integration opens the store file that it has by the variable.  A literal is refused. -/
theorem load_baseDirectory {env : Environment} {v : String} (hv : v ≠ "")
    (henv : OnlyBaseDirectory env v) (tree : FileTree) :
    (¬ IsLiteral v → ∃ settings, Settings.load tree none settingPrefix env = .ok settings ∧
      settings.store.baseDir = some v ∧
      ∀ (temporary : Path) (tree : FileTree) (time now : Double) (name : String),
        openFor ⟨env, temporary⟩ tree time now name none settings.store =
          Surroundings.openDefault ⟨env, temporary⟩ tree time now name
            settings.store.ttlSeconds) ∧
    (IsLiteral v → Settings.load tree none settingPrefix env =
      .error (.refused [⟨["store", "base_dir"], .textType⟩])) := by
  constructor
  · intro hliteral
    have hload := henv.load tree
    rw [if_neg hliteral] at hload
    exact ⟨settingsIn (some v), hload, rfl, henv.openFor hv⟩
  · intro hliteral
    rw [henv.load tree, if_pos hliteral]

/-- An ordinary directory, among other variables. -/
theorem load_baseDirectory_srv :
    "/srv/stores" ≠ "" ∧
      OnlyBaseDirectory [("HOME", "/root"), (baseDirectoryVariable, "/srv/stores")]
        "/srv/stores" ∧
      ¬ IsLiteral "/srv/stores" ∧
      ∃ settings, Settings.load ⟨[]⟩ none settingPrefix
        [("HOME", "/root"), (baseDirectoryVariable, "/srv/stores")] = .ok settings ∧
        settings.store.baseDir = some "/srv/stores" := by
  have hne : "/srv/stores" ≠ "" := by decide
  have honly : OnlyBaseDirectory [("HOME", "/root"), (baseDirectoryVariable, "/srv/stores")]
      "/srv/stores" := by
    unfold OnlyBaseDirectory
    decide +kernel
  have hliteral : ¬ IsLiteral "/srv/stores" := by decide +kernel
  obtain ⟨settings, hload, hdir, -⟩ := (load_baseDirectory hne honly ⟨[]⟩).1 hliteral
  exact ⟨hne, honly, hliteral, settings, hload, hdir⟩

end Baseline
