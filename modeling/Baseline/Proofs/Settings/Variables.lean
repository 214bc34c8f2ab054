import Mathlib.Data.List.Induction
import Baseline.Proofs.Settings.Alike
import Baseline.Settings.File

/-!
# Which variable a setting comes from

Variables are written one after the other, each at the path that its name stands for.

* `settingOf?` : the path and the value that a variable stands for.
* `Entries.outlineAt_putAt` : what a write at a path does to every path.
* `Entries.Composed`, `composed_environmentSettings` : the map that the variables describe has
  distinct text keys throughout, and all its sections lead to values.
* `LastAt` : a variable has a path, and no later one has a path that meets it.
* `Settings.load_of_alike` : settings are told by what the variables say at the paths.
* `environmentSettings_lastWins` : **the variables that stand are those that are last at their
  paths**, and the order of variables whose paths do not meet does not matter.
-/

set_option autoImplicit false

namespace Baseline

open Entries Value

/-! ## Variables -/

/-- The path and the value that a variable stands for, if its name begins with a prefix. -/
def settingOf? (lead : String) (var : String × String) : Option (List String × Value) :=
  (afterPrefix? lead var.1).map fun name => (settingPath name, parseSetting var.2)

/-- Two paths are equal, or one of them goes on from the other. -/
def Meets (p q : List String) : Prop := p <+: q ∨ q <+: p

/-- The paths of two variables do not meet. -/
def Apart (lead : String) (a b : String × String) : Prop :=
  ∀ p v q w, settingOf? lead a = some (p, v) → settingOf? lead b = some (q, w) → ¬ Meets p q

/-- Some variable stands for a value at a path, and no later one has a path that meets it. -/
def LastAt (lead : String) (env : Environment) (path : List String) (value : Value) : Prop :=
  ∃ before var after, env = before ++ var :: after ∧ settingOf? lead var = some (path, value) ∧
    ∀ later ∈ after, ∀ q w, settingOf? lead later = some (q, w) → ¬ Meets q path

theorem Meets.symm {p q : List String} (h : Meets p q) : Meets q p := Or.symm h

theorem Apart.symm {lead : String} {a b : String × String} (h : Apart lead a b) :
    Apart lead b a := fun p v q w hp hq hmeets => h q w p v hq hp hmeets.symm

section

variable {lead : String} {env : Environment} {var : String × String} {path : List String}
  {value : Value}

theorem splitAtDoubleUnderscore_ne_nil (part cs : List Char) :
    splitAtDoubleUnderscore part cs ≠ [] := by
  induction part, cs using splitAtDoubleUnderscore.induct with
  | case1 part => exact List.cons_ne_nil _ _
  | case2 part rest _ => exact List.cons_ne_nil _ _
  | case3 part c rest hc ih =>
    rw [splitAtDoubleUnderscore.eq_3 part c rest hc]
    exact ih

theorem settingPath_ne_nil (name : String) : settingPath name ≠ [] := fun h =>
  splitAtDoubleUnderscore_ne_nil _ _ (List.map_eq_nil_iff.mp h)

theorem isMap_parseSetting (s : String) : (parseSetting s).isMap = false := by
  unfold parseSetting
  dsimp only
  split
  · rfl
  split
  · rfl
  split
  · rfl
  · split <;> rfl

/-- Every variable sets a value that is no map, at a path of one key or more. -/
theorem of_settingOf? (h : settingOf? lead var = some (path, value)) :
    path ≠ [] ∧ value.isMap = false := by
  obtain ⟨name, -, hset⟩ := Option.map_eq_some_iff.mp h
  cases hset
  exact ⟨settingPath_ne_nil name, isMap_parseSetting var.2⟩

theorem environmentSettings_concat (lead : String) (env : Environment) (var : String × String) :
    environmentSettings lead (env ++ [var]) =
      match settingOf? lead var with
      | some (path, value) => (environmentSettings lead env).putAt value path
      | none => environmentSettings lead env := by
  unfold environmentSettings settingOf?
  rw [List.foldl_append, List.foldl_cons, List.foldl_nil]
  cases afterPrefix? lead var.1 <;> rfl

theorem lastAt_nil : ¬ LastAt lead [] path value := by
  rintro ⟨before, var, after, henv, -⟩
  cases before <;> cases henv

/-- **The last variable stands; an earlier one does if that does not meet it.** -/
theorem lastAt_concat : LastAt lead (env ++ [var]) path value ↔
    settingOf? lead var = some (path, value) ∨
      LastAt lead env path value ∧
        ∀ q w, settingOf? lead var = some (q, w) → ¬ Meets q path := by
  constructor
  · rintro ⟨before, found, after, henv, hfound, hlater⟩
    rcases List.eq_nil_or_concat after with rfl | ⟨after, last, rfl⟩
    · obtain ⟨-, hlast⟩ := List.append_inj' henv rfl
      cases hlast
      exact .inl hfound
    · rw [List.concat_eq_append] at henv hlater
      rw [← List.cons_append, ← List.append_assoc] at henv
      obtain ⟨rfl, hlast⟩ := List.append_inj' henv rfl
      cases hlast
      exact .inr ⟨⟨before, found, after, rfl, hfound, fun later h => hlater later (by simp [h])⟩,
        hlater var (by simp)⟩
  · rintro (hvar | ⟨⟨before, found, after, rfl, hfound, hlater⟩, hapart⟩)
    · exact ⟨env, var, [], rfl, hvar, fun later h => by cases h⟩
    · refine ⟨before, found, after ++ [var], by simp, hfound, fun later h => ?_⟩
      rcases List.mem_append.mp h with h | h
      · exact hlater later h
      · rw [List.mem_singleton.mp h]
        exact hapart

end

/-! ## Writing at a path -/

namespace Entries

/-- The entries of a section, none if there is no map. -/
def sectionAt (es : Entries) (key : String) : Entries :=
  match es.field? key with
  | some (.map inner) => inner
  | _ => []

theorem putAt_single (es : Entries) (value : Value) (key : String) :
    es.putAt value [key] = es.put (.text key) value :=
  rfl

theorem putAt_cons (es : Entries) (value : Value) {key : String} {path : List String}
    (h : path ≠ []) :
    es.putAt value (key :: path) =
      es.put (.text key) (.map ((es.sectionAt key).putAt value path)) := by
  cases path with
  | nil => exact absurd rfl h
  | cons k path => rfl

theorem outlineAt_put (es : Entries) (key k : String) (v : Value) (path : List String) :
    (Value.map (es.put (.text key) v)).outlineAt (k :: path) =
      if k = key then v.outlineAt path else (Value.map es).outlineAt (k :: path) := by
  rw [outlineAt_map_cons, outlineAt_map_cons]
  split
  · rename_i hk
    rw [hk, field?_put_of_text (k := .text key) rfl, Option.bind_some]
  · rename_i hk
    have hne : (Value.text key).text? ≠ some k := fun h => hk (Option.some.inj h).symm
    rw [field?_put_of_ne hne]

/-- Below a key there is what is in its section. -/
theorem outlineAt_sectionAt (es : Entries) (key : String) {path : List String} (h : path ≠ []) :
    (Value.map (es.sectionAt key)).outlineAt path = (Value.map es).outlineAt (key :: path) := by
  cases path with
  | nil => exact absurd rfl h
  | cons k path =>
    rw [outlineAt_map_cons es]
    unfold sectionAt
    cases es.field? key with
    | none => rfl
    | some v => cases v <;> rfl

/-- **What a write at a path does to every path**: the value stands there and nothing beyond it, on
the way there are maps, and what stands elsewhere is kept. -/
theorem outlineAt_putAt {value : Value} (hvalue : value.isMap = false) {path : List String}
    (hpath : path ≠ []) (es : Entries) (at' : List String) :
    (Value.map (es.putAt value path)).outlineAt at' =
      if at' = path then some (some value)
      else if path <+: at' then none
      else if at' <+: path then some none
      else (Value.map es).outlineAt at' := by
  induction path generalizing es at' with
  | nil => exact absurd rfl hpath
  | cons key path ih =>
    cases at' with
    | nil => simp [outline]
    | cons k at' =>
      by_cases hk : k = key
      · subst hk
        cases path with
        | nil =>
          rw [putAt_single, outlineAt_put, if_pos rfl]
          cases at' with
          | nil => simp [outline_of_leaf hvalue]
          | cons k' at' => simp [outlineAt, at?_cons_of_leaf hvalue]
        | cons k' path =>
          have hne : k' :: path ≠ [] := List.cons_ne_nil _ _
          rw [putAt_cons es value hne, outlineAt_put, if_pos rfl, ih hne]
          simp only [List.cons.injEq, true_and, List.cons_prefix_cons]
          by_cases hat : at' = []
          · simp [hat]
          · rw [outlineAt_sectionAt es k hat]
      · have hput : ∃ v, es.putAt value (key :: path) = es.put (.text key) v := by
          cases path with
          | nil => exact ⟨_, rfl⟩
          | cons k' path => exact ⟨_, rfl⟩
        obtain ⟨v, hput⟩ := hput
        rw [hput, outlineAt_put, if_neg hk]
        simp [List.cons_prefix_cons, hk, Ne.symm hk]

/-! ## Composed maps -/

/-- A map of distinct text keys throughout, all of whose sections lead to values. -/
structure Composed (es : Entries) : Prop where
  distinct : es.DistinctThroughout
  textKeys : Settings.hasTextKeys es
  grounded : ∀ {path}, path ≠ [] → (Value.map es).outlineAt path = some none →
    ∃ rest w, rest ≠ [] ∧ (Value.map es).outlineAt (path ++ rest) = some (some w)

theorem Composed.nil : Composed [] where
  distinct := .nil
  textKeys := rfl
  grounded := by
    intro path hpath hmap
    cases path with
    | nil => exact absurd rfl hpath
    | cons key path => cases hmap

theorem DistinctThroughout.putAt {es : Entries} (h : es.DistinctThroughout) {value : Value}
    (hvalue : value.isMap = false) (path : List String) :
    (es.putAt value path).DistinctThroughout := by
  induction path generalizing es with
  | nil => exact h
  | cons key path ih =>
    cases path with
    | nil =>
      refine h.put _ fun inner hinner => ?_
      rw [hinner] at hvalue
      cases hvalue
    | cons k path =>
      refine h.put _ fun inner hinner => ?_
      cases hinner
      apply ih
      change (es.sectionAt key).DistinctThroughout
      unfold sectionAt
      split
      · rename_i inner hfield
        exact h.field hfield
      · exact .nil

theorem hasTextKeys_putAt {es : Entries} (h : Settings.hasTextKeys es) (value : Value)
    (path : List String) : Settings.hasTextKeys (es.putAt value path) := by
  have hput : ∀ (key : String) (v : Value), Settings.hasTextKeys (es.put (.text key) v) := by
    intro key v
    rw [Settings.hasTextKeys_iff] at h ⊢
    intro k hk
    rw [keys_put] at hk
    split at hk
    · rcases List.mem_append.mp hk with hk | hk
      · exact h k hk
      · rw [List.mem_singleton.mp hk]
        rfl
    · exact h k hk
  cases path with
  | nil => exact h
  | cons key path =>
    cases path with
    | nil => exact hput key value
    | cons k path => exact hput key _

/-- **A write of a value at a path keeps a map composed.** -/
theorem Composed.putAt {es : Entries} (h : es.Composed) {value : Value}
    (hvalue : value.isMap = false) {path : List String} (hpath : path ≠ []) :
    (es.putAt value path).Composed where
  distinct := h.distinct.putAt hvalue path
  textKeys := hasTextKeys_putAt h.textKeys value path
  grounded := by
    intro found hne hmap
    rw [outlineAt_putAt hvalue hpath] at hmap
    split at hmap
    · cases hmap
    rename_i hself
    split at hmap
    · cases hmap
    rename_i hbeyond
    split at hmap
    · -- the way to what was written leads there
      rename_i hway
      obtain ⟨rest, rfl⟩ := hway
      refine ⟨rest, value, ?_, ?_⟩
      · rintro rfl
        rw [List.append_nil] at hself
        exact hself rfl
      · rw [outlineAt_putAt hvalue hpath, if_pos rfl]
    · -- what a section elsewhere leads to stands elsewhere as well
      rename_i hway
      obtain ⟨rest, w, hrest, hleaf⟩ := h.grounded hne hmap
      have hnot : ¬ Meets (found ++ rest) path := by
        rintro (hp | hp)
        · exact hway ((List.prefix_append found rest).trans hp)
        · rcases List.prefix_or_prefix_of_prefix hp (List.prefix_append found rest) with hp | hp
          · exact hbeyond hp
          · exact hway hp
      refine ⟨rest, w, hrest, ?_⟩
      rw [outlineAt_putAt hvalue hpath, if_neg, if_neg, if_neg, hleaf]
      · exact fun hp => hnot (.inl hp)
      · exact fun hp => hnot (.inr hp)
      · exact fun hp => hnot (.inl (hp ▸ List.prefix_refl _))

/-- A section of a composed map has entries. -/
theorem Composed.section_ne_nil {es inner : Entries} (h : es.Composed) {path : List String}
    (hpath : path ≠ []) (hat : (Value.map es).at? path = some (.map inner)) : inner ≠ [] := by
  rintro rfl
  obtain ⟨rest, w, hrest, hleaf⟩ := h.grounded hpath (outlineAt_eq_map_iff.mpr ⟨_, hat⟩)
  rw [outlineAt, at?_append, hat] at hleaf
  cases rest with
  | nil => exact hrest rfl
  | cons key rest => cases hleaf

/-- What stands at a path of a composed map is seen in one with the same values. -/
theorem Composed.outlineAt_of_values {a b : Entries} (ha : a.Composed)
    (h : ∀ path w, (Value.map a).outlineAt path = some (some w) →
      (Value.map b).outlineAt path = some (some w)) {path : List String} {o : Option Value}
    (ho : (Value.map a).outlineAt path = some o) : (Value.map b).outlineAt path = some o := by
  cases o with
  | some w => exact h path w ho
  | none =>
    by_cases hpath : path = []
    · rw [hpath]
      rfl
    · obtain ⟨rest, w, hrest, hleaf⟩ := ha.grounded hpath ho
      exact outlineAt_of_append hrest (h _ w hleaf)

/-- **Composed maps with the same values are alike.** -/
theorem Composed.alike {a b : Entries} (ha : a.Composed) (hb : b.Composed)
    (h : ∀ path w, (Value.map a).outlineAt path = some (some w) ↔
      (Value.map b).outlineAt path = some (some w)) : (Value.map a).Alike (.map b) := fun _ =>
  Option.ext fun _ =>
    ⟨ha.outlineAt_of_values fun p w => (h p w).mp, hb.outlineAt_of_values fun p w => (h p w).mpr⟩

end Entries

/-! ## The map of the variables -/

section

variable {lead : String} {env env' : Environment} {path : List String} {value : Value}

/-- **The map that the variables describe is composed.** -/
theorem composed_environmentSettings (lead : String) (env : Environment) :
    (environmentSettings lead env).Composed := by
  induction env using List.reverseRecOn with
  | nil => exact .nil
  | append_singleton env var ih =>
    rw [environmentSettings_concat]
    cases hvar : settingOf? lead var with
    | none => exact ih
    | some setting =>
      obtain ⟨hpath, hvalue⟩ := of_settingOf? hvar
      exact ih.putAt hvalue hpath

/-- **The values of the map that the variables describe are those of the last variables.** -/
theorem outlineAt_environmentSettings :
    (Value.map (environmentSettings lead env)).outlineAt path = some (some value) ↔
      LastAt lead env path value := by
  induction env using List.reverseRecOn with
  | nil =>
    refine iff_of_false (fun h => ?_) lastAt_nil
    cases path <;> cases h
  | append_singleton env var ih =>
    rw [environmentSettings_concat, lastAt_concat]
    cases hvar : settingOf? lead var with
    | none => simp [ih]
    | some setting =>
      obtain ⟨q, w⟩ := setting
      obtain ⟨hpath, hvalue⟩ := of_settingOf? hvar
      dsimp only
      rw [outlineAt_putAt hvalue hpath]
      have hapart : (∀ q' w', some (q, w) = some (q', w') → ¬ Meets q' path) ↔ ¬ Meets q path :=
        ⟨fun h => h q w rfl, fun h q' w' heq => by cases heq; exact h⟩
      rw [hapart, ← ih]
      by_cases hself : path = q
      · subst hself
        simp [Meets]
      · have hne : q ≠ path := Ne.symm hself
        rw [if_neg hself]
        by_cases hbeyond : q <+: path
        · simp [hbeyond, hne, Meets]
        · by_cases hway : path <+: q
          · simp [hbeyond, hway, hne, Meets]
          · simp [hbeyond, hway, hne, Meets]

/-- **Two environments that describe maps which are alike load the same settings**, over any
settings file. -/
theorem Settings.load_of_alike
    (h : (Value.map (environmentSettings lead env)).Alike (.map (environmentSettings lead env')))
    (tree : FileTree) (file : Option Path) :
    Settings.load tree file lead env = Settings.load tree file lead env' := by
  have henv := composed_environmentSettings lead env
  have henv' := composed_environmentSettings lead env'
  have hlayered : ∀ found, layered .lax found lead env = layered .lax found lead env' := by
    intro found
    unfold layered
    cases overlayOn [] (found.getD (.map [])) with
    | error f => rfl
    | ok lower =>
      dsimp only
      rw [hasTextKeys_overlay henv.distinct.distinct henv.textKeys,
        hasTextKeys_overlay henv'.distinct.distinct henv'.textKeys,
        ofEntriesBy_of_alike (h.overlay henv.distinct henv'.distinct lower)]
  unfold Settings.load Settings.loadBy
  simp only [hlayered]

/-- Where no paths meet, every variable is last at its path. -/
theorem lastAt_iff_of_apart (h : env.Pairwise (Apart lead)) :
    LastAt lead env path value ↔ ∃ var ∈ env, settingOf? lead var = some (path, value) := by
  constructor
  · rintro ⟨before, var, after, rfl, hvar, -⟩
    exact ⟨var, by simp, hvar⟩
  · rintro ⟨var, hmem, hvar⟩
    obtain ⟨before, after, rfl⟩ := List.append_of_mem hmem
    refine ⟨before, var, after, rfl, hvar, fun later hlater q w hq hmeets => ?_⟩
    have hapart := (List.pairwise_cons.mp (List.pairwise_append.mp h).2.1).1 later hlater
    exact hapart path value q w hvar hq hmeets.symm

/-- **Variables whose paths do not meet describe alike maps in every order.** -/
theorem alike_environmentSettings_of_perm (h : env.Pairwise (Apart lead)) (hperm : env'.Perm env) :
    (Value.map (environmentSettings lead env')).Alike (.map (environmentSettings lead env)) := by
  have h' : env'.Pairwise (Apart lead) := (hperm.pairwise_iff fun hab => hab.symm).mpr h
  refine (composed_environmentSettings lead env').alike (composed_environmentSettings lead env)
    fun path w => ?_
  rw [outlineAt_environmentSettings, outlineAt_environmentSettings, lastAt_iff_of_apart h,
    lastAt_iff_of_apart h']
  simp only [hperm.mem_iff]

end

/-- **The last variable wins, over paths.**  The map that the variables with a prefix describe has a
value that is no map at a path exactly if some variable stands for that value at that path, and no
later one has a path that is equal to it, leads to it or goes on from it; and no section of the map
is empty.  Where no two of the variables have paths that meet, they describe maps that are alike in
every order, and the same settings are loaded, over whatever file. -/
theorem environmentSettings_lastWins (lead : String) (env : Environment) :
    (∀ path, ∀ value : Value, value.isMap = false →
      ((Value.map (environmentSettings lead env)).at? path = some value ↔
        LastAt lead env path value)) ∧
    (∀ path, ∀ inner : Entries, path ≠ [] →
      (Value.map (environmentSettings lead env)).at? path = some (.map inner) → inner ≠ []) ∧
    (env.Pairwise (Apart lead) → ∀ env' : Environment, env'.Perm env →
      (Value.map (environmentSettings lead env')).Alike (.map (environmentSettings lead env)) ∧
        ∀ tree file, Settings.load tree file lead env' = Settings.load tree file lead env) := by
  refine ⟨fun path value hvalue => ?_, fun path inner hpath hat => ?_, fun h env' hperm => ?_⟩
  · rw [← outlineAt_eq_leaf_iff hvalue]
    exact outlineAt_environmentSettings
  · exact (composed_environmentSettings lead env).section_ne_nil hpath hat
  · have halike := alike_environmentSettings_of_perm h hperm
    exact ⟨halike, Settings.load_of_alike halike⟩

/-! ### A section, a field of it, and variables that do not meet -/

namespace SectionAndField

/-- A variable that sets a section as a whole. -/
def wholeSection : String × String := ("APP_STORE", "9")

/-- A variable that sets a field of that section. -/
def ttl : String × String := ("APP_STORE__TTL_SECONDS", "30")

/-- A variable of another section. -/
def level : String × String := ("APP_LOGGING__LEVEL", "debug")

theorem settingOf?_ttl : settingOf? "APP_" ttl = some (["store", "ttl_seconds"], .int 30) :=
  rfl

theorem settingOf?_level :
    settingOf? "APP_" level = some (["logging", "level"], .text "debug") :=
  rfl

theorem apart : Apart "APP_" level ttl := by
  intro p v q w hp hq
  rw [settingOf?_level] at hp
  rw [settingOf?_ttl] at hq
  cases hp
  cases hq
  unfold Meets
  decide

end SectionAndField

open SectionAndField in
theorem environmentSettings_lastWins_sectionAndField :
    (Value.map (environmentSettings "APP_" [level, wholeSection, ttl])).at?
        ["store", "ttl_seconds"] = some (.int 30) ∧
      (∃ inner : Entries, (Value.map (environmentSettings "APP_" [level, wholeSection, ttl])).at?
        ["store"] = some (.map inner) ∧ inner ≠ []) ∧
      [level, ttl].Pairwise (Apart "APP_") ∧
      Settings.load ⟨[]⟩ none "APP_" [ttl, level] =
        Settings.load ⟨[]⟩ none "APP_" [level, ttl] := by
  obtain ⟨hvalues, hsections, -⟩ := environmentSettings_lastWins "APP_" [level, wholeSection, ttl]
  have hlast : LastAt "APP_" [level, wholeSection, ttl] ["store", "ttl_seconds"] (.int 30) :=
    ⟨[level, wholeSection], ttl, [], rfl, settingOf?_ttl, fun later h => by cases h⟩
  have hfield := (hvalues ["store", "ttl_seconds"] (.int 30) rfl).mpr hlast
  have hwalk : (Value.map (environmentSettings "APP_" [level, wholeSection, ttl])).outlineAt
      (["store"] ++ ["ttl_seconds"]) = some (some (.int 30)) :=
    (outlineAt_eq_leaf_iff rfl).mpr hfield
  obtain ⟨inner, hinner⟩ := outlineAt_eq_map_iff.mp (outlineAt_of_append (by decide) hwalk)
  have hpairwise : [level, ttl].Pairwise (Apart "APP_") := List.pairwise_pair.mpr apart
  have horder := (environmentSettings_lastWins "APP_" [level, ttl]).2.2 hpairwise [ttl, level]
    (List.Perm.swap level ttl [])
  exact ⟨hfield, ⟨inner, hinner, hsections _ _ (by decide) hinner⟩, hpairwise, horder.2 _ _⟩

end Baseline
