import Baseline.Proofs.MetricSet.Attempt
import Baseline.Proofs.Sampling.History

/-!
# What setting a metric may change

A metric that is not set leaves its set as it was.  The class of its error tells what has become of
the store: a sampling that was skipped has recorded its sample, and every other failure comes
before anything is recorded.

* `MetricSet.sampled?` : the metrics that have to do with the store.
* `MetricSet.setMetric_unsampled`, `MetricSet.setMetric_sampled` : **all that setting a metric
  does.**
* `Failure.isSkipped`, `Failure.isRefusal` : the two sorts of failure.
* `MetricSet.Records` : the store changes at the key of a metric and nowhere else.
* `setMetric_changes` : **what a metric changes, by its result.**
-/

set_option autoImplicit false

namespace Baseline

/-! ## Sorts of failure -/

/-- The classes of the errors that leave the store untouched. -/
def ErrorClass.isRefusal (c : ErrorClass) : Bool :=
  [invalidArgument, invalidValue, failedPrecondition].contains c

namespace Failure

/-- A sampling that was skipped. -/
def isSkipped : Failure → Bool
  | reported e => e.errorClass.isSkipped
  | _ => false

/-- An invalid argument, an invalid value, a precondition that failed, or a fault. -/
def isRefusal : Failure → Bool
  | reported e => e.errorClass.isRefusal
  | fault _ => true
  | refused _ => false

/-- No failure is of both sorts. -/
theorem isSkipped_of_isRefusal {e : Failure} (h : e.isRefusal = true) : e.isSkipped = false := by
  cases e with
  | reported e =>
    have hclass : ∀ c : ErrorClass, c.isRefusal = true → c.isSkipped = false := by
      intro c
      cases c <;> decide
    exact hclass _ h
  | fault f => rfl
  | refused vs => cases h

end Failure

/-- Two samples fail to be compared when the round is to be skipped, or when they are too many
seconds apart. -/
theorem compareSamples_eq_error {key : String} {kind : SourceKind} {old new : Sample} {e : Failure}
    (h : compareSamples key kind old new = .error e) :
    e.isSkipped = true ∨ Double.ofInt? (new.time - old.time) = none := by
  unfold compareSamples at h
  dsimp only at h
  split at h
  · cases h
    exact Or.inl rfl
  split at h
  · cases h
    exact Or.inl rfl
  split at h
  · split at h
    · cases h
    · rename_i hfar
      exact Or.inr hfar
  · cases h

theorem isRefusal_of_refuseNonNumeric (key : String) (raw : Value) :
    (refuseNonNumeric key raw).isRefusal = true := by
  unfold refuseNonNumeric
  split <;> rfl

theorem isRefusal_of_resolveKind {key : String} {declared : Value} {e : Failure}
    (h : resolveKind key declared = .error e) : e.isRefusal = true := by
  unfold resolveKind at h
  split at h
  · cases h
  split at h
  · cases h
  · split at h <;> cases h <;> rfl

/-- Without a store a metric can only be refused. -/
theorem isRefusal_of_computeValue_storeless {now : Double} {key : String} {raw declared : Value}
    {e : Failure} (h : (computeValue now none key raw declared).1 = .error e) :
    e.isRefusal = true := by
  unfold computeValue computeForKind at h
  split at h
  · split at h
    · cases h
    split at h
    · split at h
      · cases h
      · cases h
        rfl
    split at h
    · cases h
      exact isRefusal_of_refuseNonNumeric key raw
    · split at h
      · cases h
      · cases h
        rfl
  · rename_i hkind
    cases h
    exact isRefusal_of_resolveKind hkind

/-! ## One sample -/

/-- What a counter reports, when its last sample was `old`, if it has one, and now it is `new`. -/
def reportSample (key : String) (kind : SourceKind) (old : Option Sample) (new : Sample) :
    Except Failure Double :=
  match old with
  | none => .ok .zero
  | some old => compareSamples key kind old new

/-- A counter whose last sample is not too far from the new one fails only to be reported. -/
theorem isSkipped_of_reportSample {key : String} {kind : SourceKind} {old : Option Sample}
    {new : Sample} {e : Failure} (h : reportSample key kind old new = .error e)
    (hseconds : ∀ sample, old = some sample →
      ∃ seconds, Double.ofInt? (new.time - sample.time) = some seconds) :
    e.isSkipped = true := by
  cases old with
  | none => cases h
  | some sample =>
    rcases compareSamples_eq_error h with hskipped | hfar
    · exact hskipped
    · obtain ⟨seconds, hseconds⟩ := hseconds sample rfl
      rw [hfar] at hseconds
      cases hseconds

/-- One store is another one but for the sample at a key. -/
structure Store.ChangedAt (key : String) (e : Sample) (s after : Store) : Prop where
  here : after.sample? key = some e
  elsewhere : ∀ other, other ≠ key → after.sample? other = s.sample? other

theorem Store.changedAt_put (s : Store) (key : String) (e : Sample) :
    Store.ChangedAt key e s ⟨s.rows.put key e⟩ where
  here := Table.get?_put_self key e s.rows
  elsewhere := fun _ hother => Table.get?_put_of_ne hother e s.rows

/-- The samples of a store are of seconds below `2 ^ 53` in absolute value. -/
def Store.Moderate (s : Store) : Prop :=
  ∀ key e, s.sample? key = some e → e.time.natAbs < 2 ^ 53

namespace MetricSet

/-! ## Setting one metric -/

variable {now : Double} {m : MetricSet} {name : String} {raw declared : Value}

/-- The store key, the kind and the number of a metric that is sampled.  No other has anything to do
with the store. -/
def sampled? (m : MetricSet) (name : String) (raw declared : Value) :
    Option (String × SourceKind × Double) :=
  match m.storeKey name with
  | .ok key => (⟨key, raw, declared⟩ : Reading).counted?.map fun counted => (key, counted)
  | .error _ => none

/-- What is declared as a sampled kind is declared as no attribute. -/
theorem not_declaresAttribute_of_resolveKind {key : String} {kind : SourceKind}
    (hkind : resolveKind key declared = .ok kind) (hsampled : kind.isSampled = true) :
    declaresAttribute declared = false := by
  rw [← Bool.not_eq_true]
  intro hattribute
  have hlabel : declared.text? = some SourceKind.attr.label := beq_iff_eq.mp hattribute
  have hattr : declared.kind? = some .attr := by
    rw [Value.kind?, hlabel]
    exact SourceKind.ofLabel?_label .attr
  rw [resolveKind_of_some hattr] at hkind
  cases hkind
  cases hsampled

theorem sampled?_eq_some {key : String} {kind : SourceKind} {value : Double} :
    m.sampled? name raw declared = some (key, kind, value) ↔
      m.storeKey name = .ok key ∧
        (⟨key, raw, declared⟩ : Reading).counted? = some (kind, value) := by
  unfold sampled?
  cases hkey : m.storeKey name with
  | error f => simp
  | ok k =>
    dsimp only
    constructor
    · intro h
      obtain ⟨counted, hcounted, heq⟩ := Option.map_eq_some_iff.mp h
      cases heq
      exact ⟨rfl, hcounted⟩
    · rintro ⟨⟨⟩, hcounted⟩
      rw [hcounted]
      rfl

/-- **A metric that is not sampled is set as it is without a store**, and leaves the store alone. -/
theorem setMetric_unsampled (h : m.sampled? name raw declared = none) (now : Double) (s : Store) :
    m.setMetric now (some s) name raw declared =
      { m.setMetric now none name raw declared with store := some s } := by
  unfold setMetric
  split
  · rfl
  unfold sampled? at h
  cases hkey : m.storeKey name with
  | error f => rfl
  | ok key =>
    rw [hkey] at h
    have hcounted := Option.map_eq_none_iff.mp h
    dsimp only
    rw [Reading.computeValue_not_counted hcounted]
    cases (computeValue now none key raw declared).1 <;> rfl

theorem setMetric_storeless (now : Double) (m : MetricSet) (name : String) (raw declared : Value) :
    (m.setMetric now none name raw declared).store = none := by
  unfold setMetric
  split
  · rfl
  cases m.storeKey name with
  | error f => rfl
  | ok key =>
    have hafter := computeValue_storeless now key raw declared
    dsimp only
    cases hresult : (computeValue now none key raw declared).1 <;> exact hafter

/-- Whether a declared value names a sampled kind. -/
def declaresSampled (declared : Value) : Bool := declared.kind?.any SourceKind.isSampled

theorem declaresSampled_of_resolveKind {key : String} {kind : SourceKind}
    (hkind : resolveKind key declared = .ok kind) (hsampled : kind.isSampled = true) :
    declaresSampled declared = true := by
  unfold declaresSampled
  cases hdeclared : declared.kind? with
  | none =>
    rw [resolveKind_of_none hdeclared] at hkind
    cases hshown : declared.shown <;> rw [hshown] at hkind <;> cases hkind
  | some k =>
    rw [resolveKind_of_some hdeclared, Except.ok.injEq] at hkind
    rw [Option.any_some, hkind]
    exact hsampled

/-- A metric of a sampled kind is refused where there is no store. -/
theorem computeValue_storeless_of_sampled (hsampled : declaresSampled declared = true)
    (now : Double) (key : String) (raw : Value) :
    ∃ e, (computeValue now none key raw declared).1 = .error e := by
  obtain ⟨kind, hkind, hsampled⟩ := (Option.any_eq_true _ _).mp hsampled
  have hnumeric : kind.isNumeric = true := by
    rw [SourceKind.isNumeric, hsampled, Bool.or_true]
  rw [computeValue, resolveKind_of_some hkind]
  dsimp only
  cases hvalue : raw.finite? with
  | none =>
    rw [computeForKind_refused hnumeric hvalue]
    exact ⟨_, rfl⟩
  | some x =>
    rw [computeForKind_sampled hsampled hvalue]
    exact ⟨_, rfl⟩

/-- **What setting a metric does without a store**: it is set, and is of no sampled kind, or it is
refused. -/
theorem setMetric_storeless_cases (now : Double) (m : MetricSet) (name : String)
    (raw declared : Value) :
    ((m.setMetric now none name raw declared).result = .ok () ∧
      (∃ value, (m.setMetric now none name raw declared).set =
        { m with metrics := m.metrics.put name value }) ∧ declaresSampled declared = false) ∨
    ∃ e, (m.setMetric now none name raw declared).result = .error e ∧
      (m.setMetric now none name raw declared).set = m ∧ e.isRefusal = true := by
  unfold setMetric
  split
  · exact Or.inr ⟨_, rfl, rfl, rfl⟩
  cases m.storeKey name with
  | error f => exact Or.inr ⟨_, rfl, rfl, rfl⟩
  | ok key =>
    dsimp only
    cases hresult : (computeValue now none key raw declared).1 with
    | error e => exact Or.inr ⟨e, rfl, rfl, isRefusal_of_computeValue_storeless hresult⟩
    | ok value =>
      refine Or.inl ⟨rfl, ⟨value, rfl⟩, ?_⟩
      rw [← Bool.not_eq_true]
      intro hsampled
      obtain ⟨e, he⟩ := computeValue_storeless_of_sampled hsampled now key raw
      rw [hresult] at he
      cases he

/-- **A metric that is sampled reports its counter**, and its sample is recorded whatever that
says, unless the clock shows no second. -/
theorem setMetric_sampled {key : String} {kind : SourceKind} {value : Double}
    (h : m.sampled? name raw declared = some (key, kind, value)) (now : Double) (s : Store) :
    m.setMetric now (some s) name raw declared =
      match wholeSecond now with
      | .error f => ⟨.error (.fault f), m, some s⟩
      | .ok time =>
        match reportSample key kind (s.sample? key) ⟨value, time⟩ with
        | .ok x =>
          ⟨.ok (), { m with metrics := m.metrics.put name (.float x) },
            some ⟨s.rows.put key ⟨value, time⟩⟩⟩
        | .error e => ⟨.error e, m, some ⟨s.rows.put key ⟨value, time⟩⟩⟩ := by
  obtain ⟨hkey, hcounted⟩ := sampled?_eq_some.mp h
  obtain ⟨hkind, hvalue, hsampled⟩ := Reading.counted?_eq_some.mp hcounted
  rw [setMetric, not_declaresAttribute_of_resolveKind hkind hsampled, Bool.false_and,
    if_neg Bool.false_ne_true, hkey]
  dsimp only
  rw [computeValue_sampled hkind hsampled, hvalue]
  simp only [sampleCounter, Store.record]
  cases wholeSecond now with
  | error f => rfl
  | ok time =>
    dsimp only
    unfold reportSample
    cases s.sample? key with
    | none => rfl
    | some old =>
      dsimp only
      cases compareSamples key kind old ⟨value, time⟩ <;> rfl

/-! ## What is changed -/

/-- The store changes at the store key of a metric and nowhere else: there it holds the number of
the raw value, under the second of the clock. -/
def Records (now : Double) (m : MetricSet) (name : String) (raw : Value)
    (before after : Option Store) : Prop :=
  ∃ s s' key value time, before = some s ∧ after = some s' ∧ m.storeKey name = .ok key ∧
    raw.finite? = some value ∧ wholeSecond now = .ok time ∧ Store.ChangedAt key ⟨value, time⟩ s s'

/-- What a step that sets a metric may change, by its result.  A metric that is set takes its place
in the set, and one of a sampled kind is recorded in the store.  One that is not set leaves the set
as it was, and its sample is recorded exactly when the sampling was skipped. -/
structure Changes (now : Double) (store : Option Store) (m : MetricSet) (name : String)
    (raw declared : Value) (step : MetricStep Unit) : Prop where
  reported : step.result = .ok () →
    ∃ value, step.set = { m with metrics := m.metrics.put name value }
  sampled : step.result = .ok () → declaresSampled declared = true →
    m.Records now name raw store step.store
  unsampled : step.result = .ok () → declaresSampled declared = false → step.store = store
  unreported : ∀ e, step.result = .error e → step.set = m
  skipped : ∀ e, step.result = .error e → e.isSkipped = true →
    m.Records now name raw store step.store
  refused : ∀ e, step.result = .error e → e.isSkipped = false →
    e.isRefusal = true ∧ step.store = store

/-- A step that reports a metric. -/
theorem Changes.of_ok {store : Option Store} {step : MetricStep Unit}
    (hresult : step.result = .ok ())
    (hset : ∃ value, step.set = { m with metrics := m.metrics.put name value })
    (hstore : if declaresSampled declared then m.Records now name raw store step.store
      else step.store = store) : Changes now store m name raw declared step where
  reported := fun _ => hset
  sampled := fun _ hsampled => by rwa [if_pos hsampled] at hstore
  unsampled := fun _ hsampled => by rwa [if_neg (Bool.eq_false_iff.mp hsampled)] at hstore
  unreported := fun e he => by rw [hresult] at he; cases he
  skipped := fun e he => by rw [hresult] at he; cases he
  refused := fun e he => by rw [hresult] at he; cases he

/-- A step that fails. -/
theorem Changes.of_error {store : Option Store} {step : MetricStep Unit} {e : Failure}
    (hresult : step.result = .error e) (hset : step.set = m)
    (hstore : if e.isSkipped then m.Records now name raw store step.store
      else e.isRefusal = true ∧ step.store = store) :
    Changes now store m name raw declared step where
  reported := fun hok => by rw [hresult] at hok; cases hok
  sampled := fun hok => by rw [hresult] at hok; cases hok
  unsampled := fun hok => by rw [hresult] at hok; cases hok
  unreported := fun _ _ => hset
  skipped := fun e' he hskipped => by
    rw [hresult, Except.error.injEq] at he
    rwa [he, if_pos hskipped] at hstore
  refused := fun e' he hskipped => by
    rw [hresult, Except.error.injEq] at he
    rw [he, if_neg (Bool.eq_false_iff.mp hskipped)] at hstore
    exact hstore

/-- What is changed where nothing is recorded. -/
theorem changes_of_storeless (now : Double) (store : Option Store) (m : MetricSet) (name : String)
    (raw declared : Value) :
    Changes now store m name raw declared
      { m.setMetric now none name raw declared with store := store } := by
  rcases setMetric_storeless_cases now m name raw declared with
    ⟨hresult, hset, hkind⟩ | ⟨e, hresult, hset, hrefusal⟩
  · refine .of_ok hresult hset ?_
    rw [hkind, if_neg Bool.false_ne_true]
  · refine .of_error hresult hset ?_
    rw [Failure.isSkipped_of_isRefusal hrefusal, if_neg Bool.false_ne_true]
    exact ⟨hrefusal, rfl⟩

/-- What is changed by a metric that is sampled. -/
theorem changes_of_sampled {key : String} {kind : SourceKind} {value : Double}
    (h : m.sampled? name raw declared = some (key, kind, value)) {s : Store}
    (hseconds : ∀ time old, wholeSecond now = .ok time → s.sample? key = some old →
      ∃ seconds, Double.ofInt? (time - old.time) = some seconds) :
    Changes now (some s) m name raw declared (m.setMetric now (some s) name raw declared) := by
  obtain ⟨hkey, hcounted⟩ := sampled?_eq_some.mp h
  obtain ⟨hkind, hvalue, hsampled⟩ := Reading.counted?_eq_some.mp hcounted
  rw [setMetric_sampled h]
  cases htime : wholeSecond now with
  | error f => exact .of_error rfl rfl ⟨rfl, rfl⟩
  | ok time =>
    have hrecords : m.Records now name raw (some s) (some ⟨s.rows.put key ⟨value, time⟩⟩) :=
      ⟨s, _, key, value, time, rfl, rfl, hkey, hvalue, htime, s.changedAt_put key _⟩
    dsimp only
    cases hreport : reportSample key kind (s.sample? key) ⟨value, time⟩ with
    | ok x =>
      refine .of_ok rfl ⟨_, rfl⟩ ?_
      rw [if_pos (declaresSampled_of_resolveKind hkind hsampled)]
      exact hrecords
    | error e =>
      have hskipped : e.isSkipped = true :=
        isSkipped_of_reportSample hreport fun old hold => hseconds time old htime hold
      refine .of_error rfl rfl ?_
      rw [if_pos hskipped]
      exact hrecords

end MetricSet

open MetricSet

/-- **What a metric changes, by its result**, where the seconds of the clock and of the samples are
not too far apart for their difference to be a number. -/
theorem setMetric_changes {now : Double} (hnow : now.Moderate ∨ now.isFinite = false)
    {store : Option Store} (hstore : ∀ s ∈ store, s.Moderate) (m : MetricSet) (name : String)
    (raw declared : Value) :
    Changes now store m name raw declared (m.setMetric now store name raw declared) := by
  cases store with
  | none =>
    have hchanges := changes_of_storeless now none m name raw declared
    have hsame : { m.setMetric now none name raw declared with store := none } =
        m.setMetric now none name raw declared :=
      congrArg (fun store => { m.setMetric now none name raw declared with store := store })
        (setMetric_storeless now m name raw declared).symm
    rwa [hsame] at hchanges
  | some s =>
    cases hsampled : m.sampled? name raw declared with
    | none =>
      rw [setMetric_unsampled hsampled]
      exact changes_of_storeless now (some s) m name raw declared
    | some found =>
      obtain ⟨key, kind, value⟩ := found
      refine changes_of_sampled hsampled fun time old htime hold => ?_
      have hfinite : now.isFinite = true := isFinite_iff_wholeSecond.mpr ⟨time, htime⟩
      -- a clock that shows a second is moderate, so both seconds are below `2 ^ 53`
      have hmoderate : now.Moderate := hnow.resolve_right (by rw [hfinite]; decide)
      obtain ⟨second, hsecond, hbound⟩ := wholeSecond_of_moderate hmoderate
      have hold' : old.time.natAbs < 2 ^ 53 := hstore s rfl key old hold
      rw [htime, Except.ok.injEq] at hsecond
      exact Double.ofInt?_isSome (by omega)

/-! ### A counter that fell back -/

theorem wholeSecond_of_truncate? {now : Double} {time : Int} (h : now.truncate? = some time) :
    wholeSecond now = .ok time := by
  cases now with
  | nan => cases h
  | inf neg => cases h
  | fin neg m =>
    rw [wholeSecond]
    simp only [h, Option.getD_some]

namespace FellBack

/-- The set of one of two hosts. -/
def set : MetricSet :=
  ⟨"S", [⟨"host", .text "db-1"⟩], [("event_type", .text "S"), ("host", .text "db-1")]⟩

/-- A counter of both hosts, sampled at second 1000. -/
def store : Store :=
  ⟨[("host==db-1::net.rx", ⟨.ofWhole 5, 1000⟩), ("host==db-2::net.rx", ⟨.ofWhole 7, 1000⟩)]⟩

theorem sampled?_set : set.sampled? "net.rx" (.int 3) (.kind .rate) =
    some ("host==db-1::net.rx", .rate, .ofWhole 3) := by
  decide +kernel

theorem reportSample_store :
    reportSample "host==db-1::net.rx" .rate (store.sample? "host==db-1::net.rx")
        ⟨.ofWhole 3, 1010⟩ =
      .error (.reported (.counterReset "host==db-1::net.rx" (.ofWhole 5) (.ofWhole 3))) := by
  have hold : store.sample? "host==db-1::net.rx" = some ⟨.ofWhole 5, 1000⟩ := by decide +kernel
  have hless : ((Double.ofWhole 3).sub (.ofWhole 5)).less .zero = true := by decide +kernel
  rw [hold, reportSample, compareSamples, if_neg (by decide), if_pos hless]

theorem moderate : ∀ s ∈ some store, s.Moderate := by
  rintro s ⟨⟩ key e hsample
  have hrows : ∀ row ∈ store.rows, row.2.time.natAbs < 2 ^ 53 := by decide
  exact hrows _ (Table.mem_of_get? hsample)

end FellBack

open FellBack in
/-- Ten seconds later the counter of one host is 3: its sampling is skipped. -/
theorem setMetric_changes_fellBack :
    ((Double.ofWhole 1010).Moderate ∨ (Double.ofWhole 1010).isFinite = false) ∧
      (∀ s ∈ some store, s.Moderate) ∧
      (set.setMetric (.ofWhole 1010) (some store) "net.rx" (.int 3) (.kind .rate)).result =
        .error (.reported (.counterReset "host==db-1::net.rx" (.ofWhole 5) (.ofWhole 3))) ∧
      Changes (.ofWhole 1010) (some store) set "net.rx" (.int 3) (.kind .rate)
        (set.setMetric (.ofWhole 1010) (some store) "net.rx" (.int 3) (.kind .rate)) := by
  have hnow : (Double.ofWhole 1010).Moderate := by decide +kernel
  have htime : wholeSecond (.ofWhole 1010) = .ok 1010 :=
    wholeSecond_of_truncate? (by decide +kernel)
  have hresult : (set.setMetric (.ofWhole 1010) (some store) "net.rx" (.int 3)
      (.kind .rate)).result =
        .error (.reported (.counterReset "host==db-1::net.rx" (.ofWhole 5) (.ofWhole 3))) := by
    rw [setMetric_sampled sampled?_set, htime]
    dsimp only
    rw [reportSample_store]
  have hchanges := setMetric_changes (Or.inl hnow) moderate set "net.rx" (.int 3) (.kind .rate)
  exact ⟨Or.inl hnow, moderate, hresult, hchanges⟩

end Baseline
