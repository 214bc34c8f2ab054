import Baseline.Proofs.Log.Bare
import Baseline.Proofs.Log.Tree

/-!
# Where records are written

A record through a logger below the root logger goes to the output that the last set-up has given
it, and a record through a logger outside to none.  A record without an output is not dropped: when
it is a warning or worse its bare message is written.

* `LoggingSettings.exists_level` : settings that were checked have one of five levels.
* `Logging.Rooted.written_inside`, `Logging.Rooted.written_unheard`,
  `Logging.Rooted.written_outside` : what a record gives, below the root logger, with an output and
  without, and outside.
* `Logging.delivered_iff` : when a record is written once in the form that was set up last, and
  `Logging.namesake_undelivered` : a record that is not.
* `Logging.silent_iff` : when nothing is written after a set-up without an output, and
  `Logging.warning_unsilenced` : a warning that is.
-/

set_option autoImplicit false

namespace Baseline

/-! ## The levels of settings -/

/-- The levels that settings have. -/
def levelsByName : Table Level := [
  ("debug", Level.debug), ("info", Level.info), ("warning", Level.warning),
  ("error", Level.error), ("critical", Level.critical)]

theorem levelNamed_of_mem {name : String} {level : Level} (h : (name, level) ∈ levelsByName) :
    levelNamed name = .ok level := by
  simp only [levelsByName, List.mem_cons, Prod.mk.injEq, List.not_mem_nil, or_false] at h
  rcases h with ⟨rfl, rfl⟩ | ⟨rfl, rfl⟩ | ⟨rfl, rfl⟩ | ⟨rfl, rfl⟩ | ⟨rfl, rfl⟩ <;> rfl

theorem pos_of_mem_levelsByName {r : String × Level} (h : r ∈ levelsByName) : 0 < r.2 := by
  revert r
  decide

theorem exists_level_of_word {word : String} (h : word ∈ levelWords) (hwarn : word ≠ "warn") :
    ∃ level, (word, level) ∈ levelsByName := by
  have hall : ∀ w ∈ levelWords, w ≠ "warn" → w ∈ levelsByName.keys := by decide
  exact Table.mem_keys.mp (hall word h hwarn)

theorem Coercion.exists_level {c : Coercion} {v : Value} {word : String}
    (h : c.level v = .ok word) : ∃ level, (word, level) ∈ levelsByName := by
  unfold Coercion.level at h
  dsimp only at h
  split at h
  · cases h
  · split at h
    · cases h
    · rename_i hword
      rw [Bool.not_eq_true', Bool.not_eq_false, List.contains_iff_mem] at hword
      split at h
      · cases h
        exact exists_level_of_word (by decide) (by decide)
      · rename_i hwarn
        cases h
        exact exists_level_of_word hword hwarn

/-- The form of the lines that settings ask for. -/
def LoggingSettings.form (settings : LoggingSettings) : LineForm :=
  if settings.json then .json else .plain

/-- Settings that were checked have one of the levels. -/
theorem LoggingSettings.exists_level {c : Coercion} {es : Entries} {settings : LoggingSettings}
    (h : LoggingSettings.ofEntriesBy c es = .ok settings) :
    ∃ level, (settings.level, level) ∈ levelsByName := by
  unfold LoggingSettings.ofEntriesBy at h
  dsimp only at h
  split at h
  · rename_i word json toStderr hword hjson hstderr
    cases h
    dsimp only
    unfold Checked.field at hword
    split at hword
    · cases hword
      exact exists_level_of_word (by decide) (by decide)
    · rename_i v hv
      cases hlevel : c.level v with
      | error cause =>
        rw [hlevel] at hword
        cases hword
      | ok word' =>
        rw [hlevel] at hword
        cases hword
        exact Coercion.exists_level hlevel
  · cases h

namespace Logging

variable {c : Logging} {root : Logger} {name : String} {level : Level} {form : LineForm}
  {now : Moment} {e : LogEvent} {message : String}

/-! ## What loggers have from those above -/

theorem Rooted.find?_level (h : c.Rooted root) (names : List String) :
    (names.map fun n => (c.logger n).level).find? (· ≠ 0) =
      if rootLogger ∈ names ∧ root.level ≠ 0 then some root.level else none := by
  induction names with
  | nil => rfl
  | cons n rest ih =>
    rw [List.map_cons, List.find?_cons, ih]
    by_cases hn : n = rootLogger
    · rw [hn, h.root]
      by_cases hlevel : root.level = 0 <;> simp [hlevel]
    · rw [h.outside n hn]
      simp [Ne.symm hn]

theorem Rooted.threshold_eq (h : c.Rooted root) (name : String) : c.threshold name =
    if rootLogger ∈ c.lineage name ∧ root.level ≠ 0 then root.level else Level.warning := by
  rw [threshold, h.find?_level]
  split <;> rfl

theorem Rooted.outputsAlong_eq (h : c.Rooted root) (hend : root.passesOn = false)
    (names : List String) :
    c.outputsAlong names = if rootLogger ∈ names then root.outputs else [] := by
  induction names with
  | nil => rfl
  | cons n rest ih =>
    rw [outputsAlong, ih]
    by_cases hn : n = rootLogger
    · rw [hn, h.root, hend]
      simp
    · rw [h.outside n hn]
      simp [Ne.symm hn]

/-! ## What a record gives -/

theorem find?_taken (h : LogEvent.Accepted e.fields) :
    (e.fields.find? fun f => takenFields.contains f.1) = none := by
  rw [List.find?_eq_none]
  intro f hf
  rw [List.contains_iff_mem]
  exact h.names f.1 (Table.mem_keys.mpr ⟨f.2, hf⟩)

theorem lastResort_of_lt (h : e.level < Level.warning) : lastResort e = .ok [] :=
  if_neg (not_le.mpr h)

theorem lastResort_eq_nil_iff : lastResort e = .ok [] ↔ e.level < Level.warning := by
  refine ⟨fun hnil => ?_, lastResort_of_lt⟩
  by_contra hlevel
  rw [lastResort, if_pos (not_lt.mp hlevel)] at hnil
  cases hline : e.bareLine <;> rw [hline] at hnil <;> cases hnil

/-- The only line of the last resort is the bare message. -/
theorem bareLine_of_lastResort {line : String} (h : lastResort e = .ok [line]) :
    e.bareLine = .ok line := by
  rw [lastResort] at h
  split at h
  · cases hbare : e.bareLine <;> rw [hbare] at h <;> cases h
    rfl
  · cases h

/-- The last resort has a level of its own, which no lower one changes. -/
theorem ite_lastResort (h : level ≤ Level.warning) :
    (if level ≤ e.level then lastResort e else .ok []) = lastResort e := by
  split
  · rfl
  · rename_i hlevel
    exact (lastResort_of_lt (lt_of_lt_of_le (not_le.mp hlevel) h)).symm

/-- Without an output there is the last resort. -/
theorem written_of_none (hfields : LogEvent.Accepted e.fields)
    (hnone : c.outputsAlong (c.lineage e.logger) = []) :
    c.written now e = if c.threshold e.logger ≤ e.level then lastResort e else .ok [] := by
  rw [written, considers, find?_taken hfields, hnone]
  by_cases hlevel : c.threshold e.logger ≤ e.level
  · rw [if_pos hlevel]
    by_cases hpos : 0 < e.level
    · rw [decide_eq_true ⟨hpos, hlevel⟩]
      rfl
    · rw [decide_eq_false fun h => hpos h.1, lastResort_of_lt]
      · rfl
      · exact lt_of_le_of_lt (not_lt.mp hpos) (by decide)
  · rw [if_neg hlevel, decide_eq_false fun h => hlevel h.2]
    rfl

/-- With one output the record is written there. -/
theorem written_of_one (hfields : LogEvent.Accepted e.fields)
    (hone : c.outputsAlong (c.lineage e.logger) = [⟨level, form⟩])
    (hthreshold : c.threshold e.logger = level) (hpos : 0 < level) : c.written now e =
      if level ≤ e.level then (formatted now e form).map fun line => [line] else .ok [] := by
  rw [written, considers, find?_taken hfields, hone, hthreshold]
  by_cases hlevel : level ≤ e.level
  · rw [if_pos hlevel, decide_eq_true ⟨lt_of_lt_of_le hpos hlevel, hlevel⟩]
    simp only [Bool.not_true, Bool.false_eq_true, if_false, List.filter_cons, List.filter_nil,
      decide_eq_true hlevel, if_true, List.mapM_cons, List.mapM_nil]
    cases formatted now e form <;> rfl
  · rw [if_neg hlevel, decide_eq_false fun h => hlevel h.2]
    rfl

/-- **A record of a logger outside is left to the last resort.** -/
theorem Rooted.written_outside (h : c.Rooted root) (hend : root.passesOn = false)
    (hfields : LogEvent.Accepted e.fields) (hmem : rootLogger ∉ c.lineage e.logger) :
    c.written now e = lastResort e := by
  have hnone : c.outputsAlong (c.lineage e.logger) = [] := by
    rw [h.outputsAlong_eq hend, if_neg hmem]
  have hthreshold : c.threshold e.logger = Level.warning := by
    rw [h.threshold_eq, if_neg fun hboth => hmem hboth.1]
  rw [written_of_none hfields hnone, hthreshold, ite_lastResort le_rfl]

/-- **A record of a logger below the root logger is written to its output.** -/
theorem Rooted.written_inside (h : c.Rooted (rootOf level (some form))) (hpos : 0 < level)
    (hfields : LogEvent.Accepted e.fields) (hmem : rootLogger ∈ c.lineage e.logger) :
    c.written now e =
      if level ≤ e.level then (formatted now e form).map fun line => [line] else .ok [] := by
  refine written_of_one hfields ?_ ?_ hpos
  · rw [h.outputsAlong_eq rfl, if_pos hmem]
    rfl
  · rw [h.threshold_eq, if_pos ⟨hmem, ne_of_gt hpos⟩]
    rfl

/-- **Without an output a record of a logger below the root logger is left to the last resort.** -/
theorem Rooted.written_unheard (h : c.Rooted (rootOf level none))
    (hfields : LogEvent.Accepted e.fields) (hmem : rootLogger ∈ c.lineage e.logger) :
    c.written now e = if level ≤ e.level then lastResort e else .ok [] := by
  have hnone : c.outputsAlong (c.lineage e.logger) = [] := by
    rw [h.outputsAlong_eq rfl, if_pos hmem]
    rfl
  rw [written_of_none hfields hnone]
  by_cases hzero : level = 0
  · have hthreshold : c.threshold e.logger = Level.warning := by
      rw [h.threshold_eq, if_neg fun hboth => hboth.2 hzero]
    rw [hthreshold, hzero, ite_lastResort le_rfl, ite_lastResort (by decide)]
  · have hthreshold : c.threshold e.logger = level := by
      rw [h.threshold_eq, if_pos ⟨hmem, hzero⟩]
      rfl
    rw [hthreshold]

/-! ## Delivery -/

/-- A record is written once, in a form, if its level is a given one or above, and not at all
otherwise. -/
def Delivers (c : Logging) (level : Level) (form : LineForm) (now : Moment) (e : LogEvent) :
    Prop :=
  if level ≤ e.level then ∃ line, formatted now e form = .ok line ∧ c.written now e = .ok [line]
  else c.written now e = .ok []

theorem Rooted.delivers_inside (h : c.Rooted (rootOf level (some form))) (hpos : 0 < level)
    (hfields : LogEvent.Accepted e.fields) (hmessage : e.messageText = .ok message)
    (hmem : rootLogger ∈ c.lineage e.logger) :
    c.Delivers level form now e ↔ (level ≤ e.level → e.Writable form) := by
  rw [Delivers, h.written_inside hpos hfields hmem, ← hfields.exists_formatted hmessage now]
  by_cases hlevel : level ≤ e.level
  · rw [if_pos hlevel, if_pos hlevel, forall_prop_of_true hlevel]
    refine exists_congr fun line => and_iff_left_of_imp fun hline => ?_
    rw [hline]
    rfl
  · rw [if_neg hlevel, if_neg hlevel]
    exact iff_of_true rfl fun h => absurd h hlevel

theorem Rooted.delivers_outside (h : c.Rooted root) (hend : root.passesOn = false)
    (hfields : LogEvent.Accepted e.fields) (hmessage : e.messageText = .ok message)
    (hmem : rootLogger ∉ c.lineage e.logger) :
    c.Delivers level form now e ↔ e.level < level ∧ e.level < Level.warning := by
  rw [Delivers, h.written_outside hend hfields hmem]
  by_cases hlevel : level ≤ e.level
  · rw [if_pos hlevel]
    refine iff_of_false ?_ fun hboth => not_le.mpr hboth.1 hlevel
    rintro ⟨line, hline, hwritten⟩
    exact hfields.bareLine_ne_formatted hmessage hline (bareLine_of_lastResort hwritten)
  · rw [if_neg hlevel, lastResort_eq_nil_iff]
    exact (and_iff_right (not_le.mp hlevel)).symm

/-- **When a record is written once in the form of the last set-up**, if its level is that of the
set-up or above, and not at all otherwise: through a logger below the root logger, if the form can
hold what its fields add; through a logger outside, only if it is not to be written and is no
warning either.  Outside are the loggers whose name begins with that of the root logger and goes on
without a dot. -/
theorem delivered_iff {es : Entries} {settings : LoggingSettings}
    (hsettings : LoggingSettings.ofEntries es = .ok settings) (hstderr : settings.toStderr = true)
    (steps : List LogStep) (names : List String) (hname : e.logger = loggerNamed name)
    (hfields : LogEvent.Accepted e.fields) (hmessage : e.messageText = .ok message)
    (now : Moment) :
    ∃ level, (settings.level, level) ∈ levelsByName ∧
      let c := afterSetUp steps settings names
      (c.Delivers level settings.form now e ↔
        (rootLogger ∈ c.lineage e.logger ∧ (level ≤ e.level → e.Writable settings.form)) ∨
          (rootLogger ∉ c.lineage e.logger ∧ e.level < level ∧ e.level < Level.warning)) ∧
      (¬SkipsRoot name → (rootLogger ∈ c.lineage e.logger ↔ ¬RunsOn name)) := by
  obtain ⟨level, hlevel⟩ := LoggingSettings.exists_level hsettings
  have hrooted := rooted_afterSetUp (levelNamed_of_mem hlevel) steps names
  rw [formOf, hstderr, if_pos rfl, ← LoggingSettings.form] at hrooted
  refine ⟨level, hlevel, ?_, fun hskip => ?_⟩
  · by_cases hmem : rootLogger ∈ (afterSetUp steps settings names).lineage e.logger
    · rw [hrooted.delivers_inside (pos_of_mem_levelsByName hlevel) hfields hmessage hmem]
      simp only [hmem, true_and, not_true_eq_false, false_and, or_false]
    · rw [hrooted.delivers_outside rfl hfields hmessage hmem]
      simp only [hmem, false_and, not_false_eq_true, true_and, false_or]
  · rw [hname]
    exact mem_lineage_loggerNamed hrooted.has hskip

/-- A record of a logger two dots below the root logger. -/
def fromChild : LogEvent :=
  ⟨loggerNamed "a.b", Level.info, .text "hello", [], [("metric", .text "m")], none, []⟩

theorem accepted_fromChild : LogEvent.Accepted fromChild.fields where
  keys := by decide
  names := by decide

theorem writable_fromChild (form : LineForm) : fromChild.Writable form := by
  intro _ name v hv
  obtain ⟨-, -, w, hw, rfl⟩ := LogEvent.added?_eq_some.mp hv
  obtain ⟨rfl, rfl⟩ : "metric" = name ∧ Value.text "m" = w := by
    rw [fromChild, Table.get?, Table.get?] at hw
    split at hw
    · rename_i hname
      exact ⟨hname, Option.some.inj hw⟩
    · cases hw
  exact ⟨.string "m", rfl⟩

/-- The set-up before, without an output, and the loggers that were asked for change nothing. -/
theorem delivered_iff_fromChild : LogEvent.Accepted fromChild.fields ∧
    (afterSetUp [.setUp { level := "error", toStderr := false }, .ask "a"] {} ["a.b"]).Delivers
      Level.info .json .epoch fromChild := by
  refine ⟨accepted_fromChild, ?_⟩
  have hsettings : LoggingSettings.ofEntries [] = .ok {} := rfl
  have hname : fromChild.logger = loggerNamed "a.b" := rfl
  have hmessage : fromChild.messageText = .ok "hello" := rfl
  obtain ⟨level, hlevel, hiff, htree⟩ := delivered_iff hsettings rfl
    [.setUp { level := "error", toStderr := false }, .ask "a"] ["a.b"] hname accepted_fromChild
    hmessage .epoch
  obtain rfl : level = Level.info := by simpa [levelsByName] using hlevel
  exact hiff.mpr (.inl ⟨(htree (by decide)).mpr (by decide), fun _ => writable_fromChild _⟩)

/-- A record of a logger with a name that runs on behind that of the root logger. -/
def fromNamesake : LogEvent :=
  ⟨loggerNamed "collector_sdkfoo", Level.info, .text "hello", [], [], none, []⟩

theorem accepted_fromNamesake : LogEvent.Accepted fromNamesake.fields where
  keys := List.nodup_nil
  names := fun _ h => absurd h List.not_mem_nil

/-- **A logger that no output reaches**: the record is to be written, and is not. -/
theorem namesake_undelivered :
    LoggingSettings.ofEntries [] = .ok {} ∧ LogEvent.Accepted fromNamesake.fields ∧
      fromNamesake.messageText = .ok "hello" ∧
      (afterSetUp [] {} ["collector_sdkfoo"]).written .epoch fromNamesake = .ok [] ∧
      ¬(afterSetUp [] {} ["collector_sdkfoo"]).Delivers Level.info .json .epoch
        fromNamesake := by
  have hwritten : (afterSetUp [] {} ["collector_sdkfoo"]).written .epoch fromNamesake = .ok [] :=
    rfl
  refine ⟨rfl, accepted_fromNamesake, rfl, hwritten, ?_⟩
  rw [Delivers, if_pos (by decide), hwritten]
  rintro ⟨line, -, h⟩
  cases h

/-- **When nothing is written after a set-up without an output**: below its level, and below that of
a warning. -/
theorem silent_iff {settings : LoggingSettings} (hlevel : levelNamed settings.level = .ok level)
    (hstderr : settings.toStderr = false) (steps : List LogStep) (names : List String)
    (hfields : LogEvent.Accepted e.fields)
    (hmem : rootLogger ∈ (afterSetUp steps settings names).lineage e.logger) (now : Moment) :
    (afterSetUp steps settings names).written now e = .ok [] ↔
      e.level < level ∨ e.level < Level.warning := by
  have hrooted := rooted_afterSetUp hlevel steps names
  rw [formOf, hstderr, if_neg Bool.false_ne_true] at hrooted
  rw [hrooted.written_unheard hfields hmem]
  split
  · rename_i hheard
    rw [lastResort_eq_nil_iff]
    exact (or_iff_right (not_lt.mpr hheard)).symm
  · rename_i hlow
    exact iff_of_true rfl (.inl (not_le.mp hlow))

/-- An information is not written. -/
theorem silent_iff_fromChild :
    rootLogger ∈ (afterSetUp [.setUp {}] { toStderr := false } ["a.b"]).lineage
      fromChild.logger ∧
      (afterSetUp [.setUp {}] { toStderr := false } ["a.b"]).written .epoch fromChild =
        .ok [] := by
  have hmem : rootLogger ∈
      (afterSetUp [.setUp {}] { toStderr := false } ["a.b"]).lineage fromChild.logger := by
    decide
  have hlevel : levelNamed ({ toStderr := false } : LoggingSettings).level = .ok Level.info := rfl
  exact ⟨hmem, (silent_iff hlevel rfl [.setUp {}] ["a.b"] accepted_fromChild hmem .epoch).mpr
    (.inr (by decide))⟩

/-- A warning of a logger below the root logger. -/
def warningFromChild : LogEvent :=
  ⟨loggerNamed "a", Level.warning, .text "warn", [], [], none, []⟩

/-- **A warning that is written though there is no output.** -/
theorem warning_unsilenced :
    rootLogger ∈ (afterSetUp [] { toStderr := false } ["a"]).lineage warningFromChild.logger ∧
      (afterSetUp [] { toStderr := false } ["a"]).written .epoch warningFromChild =
        .ok ["warn"] :=
  ⟨by decide, rfl⟩

end Logging

end Baseline
