import Baseline.Log.Output
import Baseline.Settings.Basic
import Baseline.Proofs.Table
import Mathlib.Data.List.Induction

/-!
# The tree of the collector's loggers

Whether a logger hangs below the root logger is a matter of dots: a name that begins with that of
the root logger, but goes on without a dot, is left as it is and stands outside.

* `Logging.mem_lineage_loggerNamed` : which loggers that are asked for hang below the root logger.
* `LogStep`, `Logging.after` : a process sets up its logging and asks for loggers, in any order.
* `Logging.logger_after` : no logger but the root logger ever has a level or an output.
* `Logging.rooted_afterSetUp` : the last set-up alone tells how the root logger is, and
  `Logging.shown_afterSetUp` : which level and which form of lines it has.
-/

set_option autoImplicit false

namespace Baseline

namespace Logging

variable {c : Logging} {name other : String}

/-! ## Asking and changing -/

@[simp] theorem has_ask : (c.ask name).has other = (decide (other = name) || c.has other) := by
  by_cases h : other = name
  · rw [h, ask, has, Table.get?_put_self]
    simp
  · rw [ask, has, Table.get?_put_of_ne h]
    simp [h, has]

/-- Asking for a logger changes none. -/
@[simp] theorem logger_ask : (c.ask name).logger other = c.logger other := by
  by_cases h : other = name
  · rw [h, ask, logger, Table.get?_put_self, Option.getD_some]
  · rw [ask, logger, Table.get?_put_of_ne h, logger]

theorem has_change_self (f : Logger → Logger) : (c.change name f).has name = true := by
  rw [change, has, Table.get?_put_self, Option.isSome_some]

theorem logger_change_self (f : Logger → Logger) :
    (c.change name f).logger name = f (c.logger name) := by
  rw [change, logger, Table.get?_put_self, Option.getD_some]

theorem logger_change_of_ne (f : Logger → Logger) (h : other ≠ name) :
    (c.change name f).logger other = c.logger other := by
  rw [change, logger, Table.get?_put_of_ne h, logger]

/-! ## Names and their dots -/

/-- The name of a logger above is what precedes one of the dots. -/
theorem exists_of_mem_above {cs : List Char} (h : name ∈ c.above cs) :
    ∃ later, cs = later ++ '.' :: name.toList.reverse := by
  fun_induction c.above cs with
  | case1 y farther above hhas ih =>
    rcases List.mem_cons.mp h with rfl | h
    · exact ⟨[], by simp [above]⟩
    · obtain ⟨later, hlater⟩ := ih h
      exact ⟨'.' :: later, by rw [hlater, List.cons_append]⟩
  | case2 y farther above hhas ih =>
    obtain ⟨later, hlater⟩ := ih h
    exact ⟨'.' :: y :: later, by rw [hlater, List.cons_append, List.cons_append]⟩
  | case3 x y farther hx ih =>
    obtain ⟨later, hlater⟩ := ih h
    exact ⟨x :: later, by rw [hlater, List.cons_append]⟩
  | case4 => cases h

theorem mem_lineage_self (c : Logging) (name : String) : name ∈ c.lineage name :=
  List.mem_cons_self

/-- A logger above has a name that a dot follows in the name of the logger. -/
theorem exists_of_mem_lineage (h : other ∈ c.lineage name) :
    name = other ∨ ∃ rest, name.toList = other.toList ++ '.' :: rest := by
  rcases List.mem_cons.mp h with rfl | h
  · exact .inl rfl
  · obtain ⟨later, hlater⟩ := exists_of_mem_above h
    refine .inr ⟨later.reverse, ?_⟩
    have hname := congrArg List.reverse hlater
    simpa using hname

/-- The search for loggers comes upon every one that precedes a dot, unless a second dot follows at
once: it looks at the first of several dots only from the character behind it. -/
theorem mem_above_of_has (h : c.has name = true) {y : Char} {farther : List Char}
    (hname : name.toList.reverse = y :: farther) :
    ∀ rest : List Char, rest.getLast? ≠ some '.' → name ∈ c.above (rest ++ '.' :: y :: farther)
  | [], _ => by
    have hback : String.ofList (y :: farther).reverse = name := by
      rw [← hname, List.reverse_reverse, String.ofList_toList]
    rw [List.nil_append, above, if_pos rfl, hback, if_pos h]
    exact List.mem_cons_self
  | [x], hlast => by
    have hx : x ≠ '.' := fun hx => hlast (congrArg some hx)
    rw [List.singleton_append, above, if_neg hx]
    exact mem_above_of_has h hname [] (by simp)
  | x :: z :: rest, hlast => by
    have hrest : (z :: rest).getLast? ≠ some '.' := by
      rwa [List.getLast?_cons_cons] at hlast
    have hnear := mem_above_of_has h hname (z :: rest) hrest
    rw [List.cons_append, List.cons_append, above]
    split
    · dsimp only
      split
      · exact List.mem_cons_of_mem _ hnear
      · refine mem_above_of_has h hname rest fun hdot => hrest ?_
        rw [List.getLast?_cons, hdot]
        rfl
    · exact hnear

/-! ## The names that are asked for -/

/-- A name that begins with that of the root logger and goes on without a dot. -/
def RunsOn (name : String) : Prop :=
  rootLogger.toList <+: name.toList ∧ name ≠ rootLogger ∧
    ¬(rootLogger ++ ".").toList <+: name.toList

instance (name : String) : Decidable (RunsOn name) :=
  inferInstanceAs (Decidable (_ ∧ _ ∧ ¬_))

/-- A name of which two dots in a row would follow that of the root logger. -/
def SkipsRoot (name : String) : Prop :=
  (rootLogger ++ "..").toList <+: (loggerNamed name).toList

instance (name : String) : Decidable (SkipsRoot name) :=
  inferInstanceAs (Decidable (_ <+: _))

theorem dotted_eq : (rootLogger ++ ".").toList = rootLogger.toList ++ ['.'] := rfl

theorem mem_lineage_of_rest (h : c.has rootLogger = true) {rest : List Char}
    (hname : name.toList = rootLogger.toList ++ '.' :: rest) (hrest : rest.head? ≠ some '.') :
    rootLogger ∈ c.lineage name := by
  refine List.mem_cons_of_mem _ ?_
  rw [hname, List.reverse_append, List.reverse_cons, List.append_assoc, List.singleton_append]
  refine mem_above_of_has h rfl rest.reverse ?_
  rwa [List.getLast?_reverse]

theorem loggerNamed_of_begins (h : rootLogger.toList <+: name.toList) : loggerNamed name = name :=
  if_pos (List.isPrefixOf_iff_prefix.mpr h)

theorem loggerNamed_of_not_begins (h : ¬rootLogger.toList <+: name.toList) :
    loggerNamed name = rootLogger ++ "." ++ name :=
  if_neg fun hp => h (List.isPrefixOf_iff_prefix.mp hp)

/-- **A logger that is asked for hangs below the root logger unless its name begins with that of the
root logger and goes on without a dot.** -/
theorem mem_lineage_loggerNamed (h : c.has rootLogger = true) (hskip : ¬SkipsRoot name) :
    rootLogger ∈ c.lineage (loggerNamed name) ↔ ¬RunsOn name := by
  have hdotted {rest : List Char}
      (hname : (loggerNamed name).toList = rootLogger.toList ++ '.' :: rest) :
      rootLogger ∈ c.lineage (loggerNamed name) := by
    refine mem_lineage_of_rest h hname fun hdot => hskip ?_
    obtain ⟨more, rfl⟩ := List.head?_eq_some_iff.mp hdot
    exact ⟨more, by rw [hname, String.toList_append, List.append_assoc]; rfl⟩
  by_cases hbegins : rootLogger.toList <+: name.toList
  · rw [loggerNamed_of_begins hbegins] at hdotted ⊢
    constructor
    · rintro hmem ⟨-, hne, hnot⟩
      rcases exists_of_mem_lineage hmem with heq | ⟨rest, hname⟩
      · exact hne heq
      · exact hnot ⟨rest, by rw [dotted_eq, List.append_assoc]; exact hname.symm⟩
    · intro hruns
      by_cases heq : name = rootLogger
      · exact heq ▸ mem_lineage_self c rootLogger
      · obtain ⟨rest, hname⟩ : (rootLogger ++ ".").toList <+: name.toList :=
          Classical.byContradiction fun hnot => hruns ⟨hbegins, heq, hnot⟩
        rw [dotted_eq, List.append_assoc] at hname
        exact hdotted hname.symm
  · have hname : (loggerNamed name).toList = rootLogger.toList ++ '.' :: name.toList := by
      rw [loggerNamed_of_not_begins hbegins, String.toList_append, dotted_eq, List.append_assoc]
      rfl
    exact iff_of_true (hdotted hname) fun hruns => hbegins hruns.1

example : RunsOn "collector_sdkfoo" ∧ ¬RunsOn "collector_sdk.foo" ∧ ¬RunsOn "foo" := by decide

end Logging

/-! ## The steps of a process -/

/-- What a process does to its logging. -/
inductive LogStep where
  /-- The logging is set up. -/
  | setUp (settings : LoggingSettings)
  /-- A logger is asked for. -/
  | ask (name : String)

namespace Logging

variable {c : Logging} {name : String} {settings : LoggingSettings} {level : Level}

/-- The logging after a step. -/
def step (c : Logging) : LogStep → Logging
  | .setUp s => (c.configure s.level s.json s.toStderr).2
  | .ask name => c.ask (loggerNamed name)

/-- The logging after steps. -/
def after (steps : List LogStep) : Logging := steps.foldl step start

theorem after_append_singleton (steps : List LogStep) (s : LogStep) :
    after (steps ++ [s]) = (after steps).step s := by
  rw [after, List.foldl_append, ← after, List.foldl_cons, List.foldl_nil]

/-- What a set-up makes of the root logger, whatever that was before. -/
def rootOf (level : Level) (form : Option LineForm) : Logger :=
  ⟨level, form.toList.map (LogOutput.mk level), false⟩

theorem configured_eq (l : Logger) (level : Level) (form : Option LineForm) :
    l.configured level form = rootOf level form := by
  cases form <;> rfl

theorem step_setUp (h : levelNamed settings.level = .ok level) :
    c.step (.setUp settings) = (c.ask rootLogger).change rootLogger
      (·.configured level (formOf settings.json settings.toStderr)) := by
  rw [step, configure, h]

/-- A set-up that is refused has only asked for the root logger. -/
theorem step_refused {f : Fault} (h : levelNamed settings.level = .error f) :
    c.step (.setUp settings) = c.ask rootLogger := by
  rw [step, configure, h]

/-- No step gives another logger than the root logger a level or an output. -/
theorem logger_step (h : name ≠ rootLogger) : ∀ s, (c.step s).logger name = c.logger name
  | .ask _ => logger_ask
  | .setUp settings => by
    cases hlevel : levelNamed settings.level with
    | error f => rw [step_refused hlevel, logger_ask]
    | ok level => rw [step_setUp hlevel, logger_change_of_ne _ h, logger_ask]

theorem logger_after (h : name ≠ rootLogger) (steps : List LogStep) :
    (after steps).logger name = {} := by
  induction steps using List.reverseRecOn with
  | nil => rfl
  | append_singleton steps s ih =>
    rw [after_append_singleton]
    exact (logger_step h s).trans ih

/-- A logging of which only the root logger has a level or an output. -/
structure Rooted (c : Logging) (root : Logger) : Prop where
  has : c.has rootLogger = true
  root : c.logger rootLogger = root
  outside : ∀ name, name ≠ rootLogger → c.logger name = {}

variable {root : Logger}

theorem Rooted.ask (h : c.Rooted root) (name : String) : (c.ask name).Rooted root where
  has := by rw [has_ask, h.has, Bool.or_true]
  root := by rw [logger_ask, h.root]
  outside other hother := by rw [logger_ask, h.outside other hother]

/-- The logging after steps, a last set-up, and loggers that are asked for behind it. -/
def afterSetUp (steps : List LogStep) (settings : LoggingSettings) (names : List String) :
    Logging :=
  after (steps ++ .setUp settings :: names.map .ask)

/-- **The last set-up alone tells how the root logger is**, whatever was done before, and whichever
loggers are asked for afterwards. -/
theorem rooted_afterSetUp (h : levelNamed settings.level = .ok level) (steps : List LogStep)
    (names : List String) : (afterSetUp steps settings names).Rooted
      (rootOf level (formOf settings.json settings.toStderr)) := by
  induction names using List.reverseRecOn with
  | nil =>
    rw [afterSetUp, List.map_nil, after_append_singleton]
    exact {
      has := by rw [step_setUp h, has_change_self]
      root := by rw [step_setUp h, logger_change_self, configured_eq]
      outside := fun name hname => (logger_step hname _).trans (logger_after hname steps) }
  | append_singleton names name ih =>
    rw [afterSetUp, List.map_append, List.map_singleton, ← List.cons_append, ← List.append_assoc,
      after_append_singleton]
    exact ih.ask _

theorem shown_afterSetUp (h : levelNamed settings.level = .ok level) (steps : List LogStep)
    (names : List String) : (afterSetUp steps settings names).level = level ∧
      (afterSetUp steps settings names).output = formOf settings.json settings.toStderr := by
  rw [Logging.level, output, (rooted_afterSetUp h steps names).root]
  exact ⟨rfl, by cases formOf settings.json settings.toStderr <;> rfl⟩

end Logging

end Baseline
