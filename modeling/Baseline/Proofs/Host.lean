import Baseline.Host
import Baseline.Proofs.MetricSet.Apart
import Baseline.Proofs.Number.Order

/-!
# The host over many cycles

The host's counters are collected cycle after cycle over one store, each time into a fresh set.  What
a host exposes may change from one cycle to the next: its network or its disks may be missing for a
while, and come back.

* `HostReading.exposed?` : the raw value that a reading exposes for a metric.
* `HostCycle` : one cycle, and `HostCycle.collect` : what it collects over a store.
* `latestExposure` : the counter of the latest cycle that exposed it.
* `HostCycle.Yields` : what a cycle may hold of a metric in the end.
* `HostCycle.yields_collect` : **one cycle holds that of every metric**, and
  `sample?_storeAfter` : after any cycles the store holds the latest exposure of every counter.
* `HostCycle.Tells` : what a cycle tells about a metric.
* `hostCycles_tell` : **so every cycle of every run tells each metric in one of three groups, and a
  counter by its latest exposure.**
-/

set_option autoImplicit false

namespace Baseline

/-! ## What a reading exposes -/

/-- The two counters of the disks, if they are exposed. -/
def DiskReading.exposed? : DiskReading → Option (Value × Value)
  | counters read written => some (read, written)
  | _ => none

namespace HostReading

/-- For every metric its raw value, if the host exposes one. -/
def exposures (r : HostReading) : Table (Option Value) := [
  ("hostname", some r.hostname),
  ("cpuPercent", some r.cpuPercent),
  ("memoryUsedPercent", some r.memoryPercent),
  ("memoryUsedBytes", some r.memoryUsed),
  ("net.receiveBytesPerSecond", r.network.map (·.bytesReceived)),
  ("net.transmitBytesPerSecond", r.network.map (·.bytesSent)),
  ("net.receivePacketsPerSecond", r.network.map (·.packetsReceived)),
  ("net.transmitPacketsPerSecond", r.network.map (·.packetsSent)),
  ("net.receiveErrors", r.network.map (·.errorsIn)),
  ("net.transmitErrors", r.network.map (·.errorsOut)),
  ("net.receiveDropped", r.network.map (·.droppedIn)),
  ("net.transmitDropped", r.network.map (·.droppedOut)),
  ("disk.readBytesPerSecond", r.disk.exposed?.map (·.1)),
  ("disk.writeBytesPerSecond", r.disk.exposed?.map (·.2))]

/-- The raw value that a reading exposes for a metric. -/
def exposed? (r : HostReading) (name : String) : Option Value := (r.exposures.get? name).join

/-- A reading as hosts give them: the hostname is a text, the gauges and the counters that are
exposed are finite numbers, and reading the disks does not fail for good. -/
structure Sound (r : HostReading) : Prop where
  hostname : r.hostname.text?.isSome = true
  numbers : ∀ m ∈ hostMetricKinds, m.2 ≠ .attr → ∀ v ∈ r.exposed? m.1, v.finite?.isSome = true
  disk : ∀ f, r.disk ≠ .failed f

end HostReading

/-- A table of what is there, looked up by a name. -/
theorem Table.get?_filterMap {α : Type} {t : Table (Option α)} (hkeys : t.keys.Nodup)
    (name : String) :
    Table.get? name (t.filterMap fun r => r.2.map fun v => (r.1, v)) = (t.get? name).join := by
  induction t with
  | nil => rfl
  | cons r rest ih =>
    obtain ⟨k, v⟩ := r
    obtain ⟨hk, hrest⟩ := List.nodup_cons.mp hkeys
    have ih := ih hrest
    by_cases hname : k = name
    · subst hname
      have hnone : Table.get? k rest = none := by
        rw [← Option.not_isSome_iff_eq_none, Table.get?_isSome_iff]
        exact hk
      rw [hnone] at ih
      cases v with
      | some v => simp [get?]
      | none => simp [get?, ih]
    · cases v with
      | some v => simp [get?, hname, ih]
      | none => simp [get?, hname, ih]

namespace HostReading

variable {r : HostReading} {values : Table Value}

theorem nodup_keys_exposures (r : HostReading) : r.exposures.keys.Nodup := by
  have hkeys : r.exposures.keys = Table.keys hostMetricKinds := rfl
  rw [hkeys]
  decide

/-- The raw values of a reading are what it exposes. -/
theorem values_eq (hdisk : ∀ f, r.disk ≠ .failed f) :
    r.values = .ok (r.exposures.filterMap fun e => e.2.map fun v => (e.1, v)) := by
  obtain ⟨hostname, cpu, percent, used, network, disk⟩ := r
  cases disk with
  | failed f => exact absurd rfl (hdisk f)
  | _ => cases network <;> rfl

theorem get?_values (hdisk : ∀ f, r.disk ≠ .failed f) :
    ∃ values, r.values = .ok values ∧ ∀ name, values.get? name = r.exposed? name :=
  ⟨_, values_eq hdisk, Table.get?_filterMap r.nodup_keys_exposures⟩

end HostReading

/-! ## Cycles -/

/-- One cycle: what the clock shows, the second that this is, the event that is reported, and the
reading of the host. -/
structure HostCycle where
  now : Double
  second : Int
  clock : wholeSecond now = .ok second
  bounded : second < 2 ^ 53
  eventType : String
  reading : HostReading
  sound : reading.Sound

/-- The set of an event before anything was observed, without attributes. -/
def MetricSet.fresh (eventType : String) : MetricSet :=
  ⟨eventType, [], [(eventTypeKey, .text eventType)]⟩

/-- Making a set without attributes gives it. -/
theorem MetricSet.make_fresh (eventType : String) : make eventType [] = .ok (fresh eventType) := rfl

namespace HostCycle

/-- What a cycle collects over a store, in a fresh set. -/
def collect (c : HostCycle) (store : Option Store) : MetricSet.Collection :=
  collectHost c.now store (.fresh c.eventType) c.reading

/-- The counter that a cycle exposes under a name: its number and the second. -/
def counter? (c : HostCycle) (name : String) : Option Sample :=
  ((c.reading.exposed? name).bind Value.finite?).map fun value => ⟨value, c.second⟩

end HostCycle

/-- The store after cycles; it was empty before the first. -/
def storeAfter (cycles : List HostCycle) : Option Store :=
  cycles.foldl (fun store c => (c.collect store).store) (some .empty)

/-- The counter of the latest of the cycles that exposes it. -/
def latestExposure (name : String) (cycles : List HostCycle) : Option Sample :=
  cycles.reverse.findSome? (·.counter? name)

theorem storeAfter_concat (cycles : List HostCycle) (c : HostCycle) :
    storeAfter (cycles ++ [c]) = (c.collect (storeAfter cycles)).store := by
  rw [storeAfter, List.foldl_append, ← storeAfter, List.foldl_cons, List.foldl_nil]

theorem latestExposure_concat (name : String) (cycles : List HostCycle) (c : HostCycle) :
    latestExposure name (cycles ++ [c]) = (c.counter? name).or (latestExposure name cycles) := by
  rw [latestExposure, List.reverse_concat, List.findSome?_cons]
  cases c.counter? name <;> rfl

theorem exists_of_latestExposure {name : String} {cycles : List HostCycle} {e : Sample}
    (h : latestExposure name cycles = some e) : ∃ c ∈ cycles, c.counter? name = some e := by
  obtain ⟨c, hc, hcounter⟩ := List.exists_of_findSome?_eq_some h
  exact ⟨c, List.mem_reverse.mp hc, hcounter⟩

theorem HostCycle.counter?_eq_some {c : HostCycle} {name : String} {e : Sample} :
    c.counter? name = some e ↔
      ∃ raw, c.reading.exposed? name = some raw ∧ raw.finite? = some e.value ∧
        e.time = c.second := by
  unfold counter?
  constructor
  · intro h
    obtain ⟨value, hvalue, rfl⟩ := Option.map_eq_some_iff.mp h
    obtain ⟨raw, hraw, hfinite⟩ := Option.bind_eq_some_iff.mp hvalue
    exact ⟨raw, hraw, hfinite, rfl⟩
  · rintro ⟨raw, hraw, hfinite, htime⟩
    rw [hraw, Option.bind_some, hfinite, Option.map_some, ← htime]

/-! ## The seconds between two cycles -/

/-- The second of a clock reading is within the finite range. -/
theorem natAbs_mul_le_of_wholeSecond {now : Double} {time : Int} (h : wholeSecond now = .ok time) :
    time.natAbs * Double.unitsPerOne ≤ Magnitude.largest.units := by
  cases now with
  | nan => cases h
  | inf neg => cases h
  | fin neg m =>
    obtain ⟨u, hu, htime⟩ : ∃ u : Int, u.natAbs = m.units ∧ time = u.tdiv Double.unitsPerOne := by
      cases h
      exact ⟨if neg then -(m.units : Int) else m.units, by cases neg <;> simp, rfl⟩
    rw [htime, Int.natAbs_tdiv, Int.natAbs_natCast, hu]
    exact Nat.le_trans (Nat.div_mul_le_self _ _) m.units_le_largest

/-- From the second of a clock reading to a later one below `2 ^ 53` it is a finite number of
seconds. -/
theorem exists_seconds {now : Double} {old new : Int} (hold : wholeSecond now = .ok old)
    (hlater : old < new) (hbound : new < 2 ^ 53) :
    ∃ seconds, Double.ofInt? (new - old) = some seconds := by
  have hrange : 2 ^ 53 * Double.unitsPerOne + Magnitude.largest.units < Magnitude.rangeEnd := by
    decide +kernel
  have hapart : (new - old).natAbs ≤ 2 ^ 53 + old.natAbs := by omega
  have hproduct := Nat.mul_le_mul_right Double.unitsPerOne hapart
  have hearlier := natAbs_mul_le_of_wholeSecond hold
  rw [Nat.add_mul] at hproduct
  rw [Double.exists_ofInt?_iff]
  generalize (new - old).natAbs * Double.unitsPerOne = apart at hproduct ⊢
  generalize old.natAbs * Double.unitsPerOne = earlier at hproduct hearlier
  omega

/-! ## One metric in one cycle -/

namespace HostCycle

/-- A sample from before a cycle: its second is an earlier one, not too far away, and its value is
finite. -/
structure Follows (c : HostCycle) (last : Sample) : Prop where
  later : last.time < c.second
  finite : last.value.isFinite = true
  seconds : ∃ seconds, Double.ofInt? (c.second - last.time) = some seconds

/-- What a cycle may hold of a metric in the end, when the store held `old` of it: nothing where it
is not exposed, the raw value of a plain metric, and what a counter reports.  The counter is recorded
in any case. -/
inductive Yields (c : HostCycle) (name : String) (kind : SourceKind) (old : Option Sample) :
    MetricSet.Share → Prop
  | unexposed (h : c.reading.exposed? name = none) : Yields c name kind old ⟨none, none, some old⟩
  | plain {raw : Value} (h : c.reading.exposed? name = some raw) (hkind : kind.isSampled = false) :
      Yields c name kind old ⟨none, some raw, some old⟩
  | reported {new : Sample} {v : Value} (hnew : c.counter? name = some new)
      (hkind : kind.isSampled = true) (hv : Reports name kind new old (.ok v)) :
      Yields c name kind old ⟨none, some v, some (some new)⟩
  | reset {last new : Sample} (hnew : c.counter? name = some new) (hkind : kind.isSampled = true)
      (hold : old = some last) (hless : new.value.less last.value = true) :
      Yields c name kind old
        ⟨some (.counterReset name last.value new.value), none, some (some new)⟩

open MetricSet

/-- A collection of a cycle before anything was attempted. -/
def start (c : HostCycle) (s : Store) : Collection := ⟨[], none, .fresh c.eventType, some s, []⟩

section Step

variable {c : HostCycle} {s : Store} {values : Table Value} {name : String} {kind : SourceKind}

theorem storeKey_fresh (event name : String) : (fresh event).storeKey name = .ok name := by
  rw [storeKey_eq]
  rfl

theorem get?_fresh (hname : name ≠ eventTypeKey) (event : String) :
    (fresh event).metrics.get? name = none := by
  rw [fresh, Table.get?, if_neg (Ne.symm hname)]
  rfl

/-- At the start nothing is held of a metric but what the store has. -/
theorem share_start (hname : name ≠ eventTypeKey) (c : HostCycle) (s : Store) :
    (c.start s).collected.share name name = ⟨none, none, some (s.sample? name)⟩ := by
  rw [Collection.share_collected, start, get?_fresh hname]
  rfl

/-- What is held of a metric that was set. -/
theorem share_set (event name : String) (v : Value) (after : Store) (log : List LogRecord) :
    (Collection.collected ⟨[], none,
      { fresh event with metrics := (fresh event).metrics.put name v }, some after, log⟩).share
        name name = ⟨none, some v, some (after.sample? name)⟩ := by
  rw [Collection.share_collected, Table.get?_put_self]
  rfl

/-- What is held of a metric that was refused. -/
theorem share_refused (hname : name ≠ eventTypeKey) (event : String) (e : CollectorError)
    (after : Store) (log : List LogRecord) :
    (Collection.collected ⟨[(name, e)], none, fresh event, some after, log⟩).share name name =
      ⟨some e, none, some (after.sample? name)⟩ := by
  rw [Collection.share_collected, get?_fresh hname, Table.get?, if_pos rfl]
  rfl

/-- The attempt of a metric that has a value, by the step that sets it. -/
theorem attempt_start {raw : Value} {step : MetricStep Unit}
    (hraw : rawValue values ⟨name, .kind kind, .null⟩ = raw) (hgiven : raw ≠ .null)
    (hset : (fresh c.eventType).setMetric c.now (some s) name raw (.kind kind) = step) :
    attempt c.now values (c.start s) ⟨name, .kind kind, .null⟩ =
      match step.result with
      | .ok _ => ⟨[], none, step.set, step.store, []⟩
      | .error (.reported e) =>
        ⟨[(name, e)], none, step.set, step.store, [notSetRecord name e]⟩
      | .error f => ⟨[], some f, step.set, step.store, []⟩ := by
  subst hraw hset
  rw [attempt_given rfl hgiven]
  rfl

/-- A plain metric is set as it is. -/
theorem setMetric_plain {raw : Value}
    (hplain : kind = .attr ∧ raw.text?.isSome = true ∨ kind = .gauge ∧ raw.finite?.isSome = true)
    (event : String) (now : Double) (s : Store) (name : String) :
    (fresh event).setMetric now (some s) name raw (.kind kind) =
      ⟨.ok (), { fresh event with metrics := (fresh event).metrics.put name raw }, some s⟩ := by
  have hfree : (declaresAttribute (.kind kind) && (fresh event).attributes.any (·.key = name)) =
      false := Bool.and_false _
  have hcompute : computeValue now (some s) name raw (.kind kind) = (.ok raw, some s) := by
    rcases hplain with ⟨rfl, htext⟩ | ⟨rfl, hfinite⟩
    · obtain ⟨text, htext⟩ := Option.isSome_iff_exists.mp htext
      simp [computeValue, resolveKind, computeForKind, SourceKind.isAggregate, htext]
    · obtain ⟨value, hvalue⟩ := Option.isSome_iff_exists.mp hfinite
      simp [computeValue, resolveKind, computeForKind, SourceKind.isAggregate, hvalue]
  rw [setMetric, hfree, if_neg Bool.false_ne_true, storeKey_fresh]
  dsimp only
  rw [hcompute]

/-- A counter is set as it is compared with the sample that the store holds of it. -/
theorem setMetric_counter {raw : Value} {new : Sample} (hkind : kind.isSampled = true)
    (hvalue : raw.finite? = some new.value) (htime : new.time = c.second) (s : Store)
    (name : String) :
    (fresh c.eventType).setMetric c.now (some s) name raw (.kind kind) =
      match reportSample name kind (s.sample? name) new with
      | .ok x =>
        ⟨.ok (), { fresh c.eventType with metrics := (fresh c.eventType).metrics.put name (.float x) },
          some ⟨s.rows.put name new⟩⟩
      | .error e => ⟨.error e, fresh c.eventType, some ⟨s.rows.put name new⟩⟩ := by
  have hcounted : (⟨name, raw, .kind kind⟩ : Reading).counted? = some (kind, new.value) :=
    Reading.counted?_eq_some.mpr ⟨rfl, hvalue, hkind⟩
  have hsampled := sampled?_eq_some.mpr ⟨storeKey_fresh c.eventType name, hcounted⟩
  obtain ⟨value, time⟩ := new
  cases htime
  have hset := setMetric_sampled hsampled c.now s
  rw [c.clock] at hset
  exact hset

/-- **What a counter reports that follows what the store holds of it**: its error is a reset. -/
theorem reportSample_of_follows (hkind : kind.isSampled = true) {new : Sample}
    (hfinite : new.value.isFinite = true) (htime : new.time = c.second) {old : Option Sample}
    (hfollows : ∀ last, old = some last → c.Follows last) :
    (∃ x, reportSample name kind old new = .ok x ∧ Reports name kind new old (.ok (.float x))) ∨
      ∃ last, old = some last ∧ new.value.less last.value = true ∧
        reportSample name kind old new =
          .error (.reported (.counterReset name last.value new.value)) := by
  cases old with
  | none => exact Or.inl ⟨.zero, rfl, .first⟩
  | some last =>
    obtain ⟨hlater, hlast, hseconds⟩ := hfollows last rfl
    rw [← htime] at hlater hseconds
    have hreports : Reports name kind new (some last)
        ((compareSamples name kind last new).map .float) := reports_compareSamples hkind hseconds
    rw [reportSample]
    cases hcompare : compareSamples name kind last new with
    | ok x =>
      rw [hcompare] at hreports
      exact Or.inl ⟨x, rfl, hreports⟩
    | error e =>
      rw [hcompare] at hreports
      refine Or.inr ⟨last, rfl, ?_⟩
      cases hreports with
      | tooClose hsame => omega
      | reset _ hless =>
        rw [Double.sub_less_zero hfinite hlast] at hless
        exact ⟨hless, rfl⟩

/-- The metrics of the host are no event's name, and are attributes, gauges or counters that never
fall. -/
theorem mem_hostMetricKinds {m : String × SourceKind} (h : m ∈ hostMetricKinds) :
    m.1 ≠ eventTypeKey ∧ (m = ("hostname", .attr) ∨ m.2 = .gauge ∨ m.2.isSampled = true) := by
  revert m
  decide

theorem nodup_hostMetrics : (hostMetrics.map (·.name)).Nodup := by
  decide

theorem rawValue_eq (hvalues : ∀ name, values.get? name = c.reading.exposed? name)
    (name : String) (kind : SourceKind) :
    rawValue values ⟨name, .kind kind, .null⟩ = (c.reading.exposed? name).getD .null :=
  congrArg (Option.getD · Value.null) (hvalues name)

/-- What the attempt of a counter yields that is exposed. -/
theorem yields_counter (hvalues : ∀ name, values.get? name = c.reading.exposed? name)
    (hname : name ≠ eventTypeKey) (hkind : kind.isSampled = true) {new : Sample}
    (hnew : c.counter? name = some new)
    (hfollows : ∀ last, s.sample? name = some last → c.Follows last) :
    (attempt c.now values (c.start s) ⟨name, .kind kind, .null⟩).fault = none ∧
      c.Yields name kind (s.sample? name)
        ((attempt c.now values (c.start s) ⟨name, .kind kind, .null⟩).collected.share
          name name) := by
  obtain ⟨raw, hexposed, hvalue, htime⟩ := counter?_eq_some.mp hnew
  have hraw := rawValue_eq hvalues name kind
  rw [hexposed, Option.getD_some] at hraw
  have hgiven : raw ≠ .null := by
    rintro rfl
    cases hvalue
  have hset := setMetric_counter hkind hvalue htime s name
  have hrecorded : (⟨s.rows.put name new⟩ : Store).sample? name = some new :=
    Table.get?_put_self _ _ _
  rcases reportSample_of_follows hkind (Value.isFinite_of_finite? hvalue) htime hfollows with
    ⟨x, hx, hreports⟩ | ⟨last, hlast, hless, hreset⟩
  · rw [hx] at hset
    rw [attempt_start hraw hgiven hset]
    dsimp only
    rw [share_set, hrecorded]
    exact ⟨rfl, .reported hnew hkind hreports⟩
  · rw [hreset] at hset
    rw [attempt_start hraw hgiven hset]
    dsimp only
    rw [share_refused hname, hrecorded]
    exact ⟨rfl, .reset hnew hkind hlast hless⟩

/-- What the attempt of a plain metric yields. -/
theorem yields_plain (hvalues : ∀ name, values.get? name = c.reading.exposed? name) {raw : Value}
    (hexposed : c.reading.exposed? name = some raw)
    (hplain : kind = .attr ∧ raw.text?.isSome = true ∨ kind = .gauge ∧ raw.finite?.isSome = true)
    (s : Store) :
    (attempt c.now values (c.start s) ⟨name, .kind kind, .null⟩).fault = none ∧
      c.Yields name kind (s.sample? name)
        ((attempt c.now values (c.start s) ⟨name, .kind kind, .null⟩).collected.share
          name name) := by
  have hraw := rawValue_eq hvalues name kind
  rw [hexposed, Option.getD_some] at hraw
  have hgiven : raw ≠ .null := by
    rintro rfl
    rcases hplain with ⟨-, htext⟩ | ⟨-, hfinite⟩
    · cases htext
    · cases hfinite
  have hkind : kind.isSampled = false := by
    rcases hplain with ⟨rfl, -⟩ | ⟨rfl, -⟩ <;> rfl
  rw [attempt_start hraw hgiven (setMetric_plain hplain c.eventType c.now s name)]
  dsimp only
  rw [share_set]
  exact ⟨rfl, .plain hexposed hkind⟩

/-- **What one attempt alone yields.** -/
theorem yields_attempt (hvalues : ∀ name, values.get? name = c.reading.exposed? name)
    (hm : (name, kind) ∈ hostMetricKinds)
    (hfollows : kind.isSampled = true → ∀ last, s.sample? name = some last → c.Follows last) :
    (attempt c.now values (c.start s) ⟨name, .kind kind, .null⟩).fault = none ∧
      c.Yields name kind (s.sample? name)
        ((attempt c.now values (c.start s) ⟨name, .kind kind, .null⟩).collected.share
          name name) := by
  obtain ⟨hname, hkinds⟩ := mem_hostMetricKinds hm
  cases hexposed : c.reading.exposed? name with
  | none =>
    have hraw := rawValue_eq hvalues name kind
    rw [hexposed, Option.getD_none] at hraw
    rw [attempt_null hraw, share_start hname]
    exact ⟨rfl, .unexposed hexposed⟩
  | some raw =>
    have hnumber : kind ≠ .attr → raw.finite?.isSome = true := fun hattr =>
      c.sound.numbers _ hm hattr raw hexposed
    rcases hkinds with heq | hgauge | hsampled
    · cases heq
      obtain rfl : c.reading.hostname = raw := Option.some.inj hexposed
      exact yields_plain hvalues hexposed (Or.inl ⟨rfl, c.sound.hostname⟩) s
    · cases hgauge
      exact yields_plain hvalues hexposed (Or.inr ⟨rfl, hnumber (by decide)⟩) s
    · have hattr : kind ≠ .attr := by
        rintro rfl
        cases hsampled
      obtain ⟨value, hvalue⟩ := Option.isSome_iff_exists.mp (hnumber hattr)
      have hnew : c.counter? name = some ⟨value, c.second⟩ :=
        counter?_eq_some.mpr ⟨raw, hexposed, hvalue, rfl⟩
      exact yields_counter hvalues hname hsampled hnew (hfollows hsampled)

/-! ## One cycle -/

/-- What a cycle collects, but for the record that is written about it. -/
theorem collect_eq (hvalues : c.reading.values = .ok values) (s : Store) :
    (c.collect (some s)).fault = (hostMetrics.foldl (attempt c.now values) (c.start s)).fault ∧
      (c.collect (some s)).collected =
        (hostMetrics.foldl (attempt c.now values) (c.start s)).collected := by
  rw [collect, collectHost, hvalues]
  dsimp only
  rw [setMetrics]
  split
  · exact ⟨rfl, rfl⟩
  · exact ⟨rfl, rfl⟩

/-- **One cycle goes on to the end and yields every metric**, where it follows what the store holds
of the counters. -/
theorem yields_collect (hfollows : ∀ m ∈ hostMetricKinds, m.2.isSampled = true →
      ∀ last, s.sample? m.1 = some last → c.Follows last) :
    (c.collect (some s)).fault = none ∧ ∀ name kind, (name, kind) ∈ hostMetricKinds →
      c.Yields name kind (s.sample? name) ((c.collect (some s)).collected.share name name) := by
  obtain ⟨values, hvalues, hlookup⟩ := HostReading.get?_values c.sound.disk
  obtain ⟨hfault, hcollected⟩ := collect_eq hvalues s
  have hapart : GoApart c.now values (c.start s) hostMetrics := by
    refine ⟨nodup_hostMetrics, fun d hd => ?_⟩
    obtain ⟨⟨name, kind⟩, hm, rfl⟩ := List.mem_map.mp hd
    exact (yields_attempt hlookup hm (hfollows _ hm)).1
  refine ⟨hfault.trans (fault_foldl hapart rfl), fun name kind hm => ?_⟩
  have hd : ⟨name, .kind kind, .null⟩ ∈ hostMetrics := List.mem_map_of_mem hm
  rw [hcollected, share_foldl hapart hd (storeKey_fresh c.eventType name)]
  exact (yields_attempt hlookup hm (hfollows _ hm)).2

/-- A counter that an earlier cycle exposed is one that a cycle follows. -/
theorem follows_of_counter? {earlier : HostCycle} {last : Sample}
    (hlater : earlier.second < c.second) (h : earlier.counter? name = some last) :
    c.Follows last := by
  obtain ⟨raw, -, hvalue, htime⟩ := counter?_eq_some.mp h
  refine ⟨by omega, Value.isFinite_of_finite? hvalue, ?_⟩
  rw [htime]
  exact exists_seconds earlier.clock hlater c.bounded

/-- What a cycle yields is over a store. -/
theorem Yields.stored {old : Option Sample} {held : Share} (h : c.Yields name kind old held) :
    held.sample.isSome = true := by
  cases h <;> rfl

theorem counter?_of_unexposed (h : c.reading.exposed? name = none) : c.counter? name = none := by
  rw [counter?, h]
  rfl

/-- A counter that is exposed is recorded, whatever it reports, and else its sample stays. -/
theorem Yields.recorded {old : Option Sample} {held : Share} (h : c.Yields name kind old held)
    (hsampled : kind.isSampled = true) : held.sample = some ((c.counter? name).or old) := by
  cases h with
  | unexposed hexposed => rw [counter?_of_unexposed hexposed, Option.none_or]
  | plain _ hkind =>
    rw [hsampled] at hkind
    cases hkind
  | reported hnew => rw [hnew, Option.some_or]
  | reset hnew => rw [hnew, Option.some_or]

end Step

end HostCycle

/-! ## Runs -/

/-- Cycles at later and later seconds. -/
def SecondsIncrease (cycles : List HostCycle) : Prop :=
  (cycles.map (·.second)).Pairwise (· < ·)

instance (cycles : List HostCycle) : Decidable (SecondsIncrease cycles) :=
  inferInstanceAs (Decidable (List.Pairwise _ _))

section Runs

variable {cycles earlier later : List HostCycle} {c : HostCycle} {name : String}
  {kind : SourceKind}

theorem SecondsIncrease.of_append (h : SecondsIncrease (earlier ++ later)) :
    SecondsIncrease earlier := by
  rw [SecondsIncrease, List.map_append, List.pairwise_append] at h
  exact h.1

/-- A cycle follows every counter of the cycles before it. -/
theorem SecondsIncrease.follows (h : SecondsIncrease (earlier ++ c :: later)) {last : Sample}
    (hlast : latestExposure name earlier = some last) : c.Follows last := by
  obtain ⟨before, hbefore, hcounter⟩ := exists_of_latestExposure hlast
  refine HostCycle.follows_of_counter? ?_ hcounter
  rw [SecondsIncrease, List.map_append, List.pairwise_append] at h
  exact h.2.2 _ (List.mem_map_of_mem hbefore) _ List.mem_cons_self

/-- **After any cycles the store holds the latest exposure of every counter.** -/
theorem sample?_storeAfter (h : SecondsIncrease cycles) :
    ∃ s, storeAfter cycles = some s ∧ ∀ m ∈ hostMetricKinds, m.2.isSampled = true →
      s.sample? m.1 = latestExposure m.1 cycles := by
  induction cycles using List.reverseRecOn with
  | nil => exact ⟨.empty, rfl, fun m _ _ => rfl⟩
  | append_singleton earlier c ih =>
    obtain ⟨s, hs, hsamples⟩ := ih h.of_append
    obtain ⟨-, hyields⟩ := HostCycle.yields_collect (c := c) (s := s) fun m hm hkind last hlast =>
      h.follows ((hsamples m hm hkind).symm.trans hlast)
    rw [storeAfter_concat, hs]
    have hshare : ∀ name, ((c.collect (some s)).collected.share name name).sample =
        (c.collect (some s)).store.map (·.sample? name) := by
      intro name
      rw [MetricSet.Collection.share_collected]
    have hhostname := (hyields "hostname" .attr (by decide)).stored
    rw [hshare, Option.isSome_map, Option.isSome_iff_exists] at hhostname
    obtain ⟨after, hafter⟩ := hhostname
    refine ⟨after, hafter, fun m hm hkind => ?_⟩
    have hrecorded := (hyields m.1 m.2 hm).recorded hkind
    rw [hshare, hafter, Option.map_some, Option.some.injEq] at hrecorded
    rw [latestExposure_concat, hrecorded, hsamples m hm hkind]

/-! ## What is told -/

/-- What a cycle tells about a metric after the cycles before it, as an error or as a value: it is
in one of three groups; a counter is reset where it has fallen below its latest exposure, and else
reports zero, its growth since then, or its growth by the second. -/
structure HostCycle.Tells (c : HostCycle) (earlier : List HostCycle) (name : String)
    (kind : SourceKind) (error : Option CollectorError) (metric : Option Value) : Prop where
  groups : c.reading.exposed? name = none ∧ error = none ∧ metric = none ∨
    (c.reading.exposed? name).isSome = true ∧
      (∃ previous current, error = some (.counterReset name previous current)) ∧ metric = none ∨
    (c.reading.exposed? name).isSome = true ∧ error = none ∧ metric.isSome = true
  reset : ∀ e, error = some e ↔ kind.isSampled = true ∧ ∃ last new,
    latestExposure name earlier = some last ∧ c.counter? name = some new ∧
      new.value.less last.value = true ∧ e = .counterReset name last.value new.value
  first : kind.isSampled = true → ∀ new, latestExposure name earlier = none →
    c.counter? name = some new → metric = some (.float .zero)
  change : kind = .pdelta → ∀ last new, latestExposure name earlier = some last →
    c.counter? name = some new → new.value.less last.value = false →
      metric = some (.float (new.value.sub last.value))
  perSecond : kind = .prate → ∀ last new, latestExposure name earlier = some last →
    c.counter? name = some new → new.value.less last.value = false →
      ∃ seconds, Double.ofInt? (new.time - last.time) = some seconds ∧
        metric = some (.float ((new.value.sub last.value).div seconds))
  plain : kind.isSampled = false → metric = c.reading.exposed? name

theorem Reports.of_unseen {new : Sample} {v : Value} (h : Reports name kind new none (.ok v)) :
    v = .float .zero := by
  cases h
  rfl

/-- What a counter that was seen before reports, if it is reported. -/
theorem Reports.of_seen {last new : Sample} {v : Value}
    (h : Reports name kind new (some last) (.ok v)) :
    (new.value.sub last.value).less .zero = false ∧
      (kind = .pdelta → v = .float (new.value.sub last.value)) ∧
      (kind = .prate → ∃ seconds, Double.ofInt? (new.time - last.time) = some seconds ∧
        v = .float ((new.value.sub last.value).div seconds)) := by
  cases h with
  | change _ hless hkind =>
    refine ⟨hless, fun _ => rfl, ?_⟩
    rintro rfl
    simp at hkind
  | perSecond _ hless hkind hseconds =>
    refine ⟨hless, ?_, fun _ => ⟨_, hseconds, rfl⟩⟩
    rintro rfl
    simp at hkind

namespace HostCycle

/-- Nothing is told about a metric that is not exposed. -/
theorem tells_unexposed (h : c.reading.exposed? name = none) :
    c.Tells earlier name kind none none := by
  have hnone : ∀ new, c.counter? name ≠ some new := by
    rw [counter?_of_unexposed h]
    exact nofun
  constructor
  case groups => exact Or.inl ⟨h, rfl, rfl⟩
  case reset =>
    refine fun e => iff_of_false nofun ?_
    rintro ⟨-, -, new, -, hnew, -⟩
    exact hnone new hnew
  case first => exact fun _ new _ hnew => absurd hnew (hnone new)
  case change => exact fun _ _ new _ hnew => absurd hnew (hnone new)
  case perSecond => exact fun _ _ new _ hnew => absurd hnew (hnone new)
  case plain => exact fun _ => h.symm

theorem tells_plain {raw : Value} (h : c.reading.exposed? name = some raw)
    (hkind : kind.isSampled = false) : c.Tells earlier name kind none (some raw) := by
  have hcounter : kind.isSampled ≠ true := Bool.eq_false_iff.mp hkind
  constructor
  case groups => exact Or.inr (Or.inr ⟨by rw [h]; rfl, rfl, rfl⟩)
  case reset => exact fun e => iff_of_false nofun fun hreset => hcounter hreset.1
  case first => exact fun hsampled => absurd hsampled hcounter
  case change =>
    rintro rfl
    cases hkind
  case perSecond =>
    rintro rfl
    cases hkind
  case plain => exact fun _ => h.symm

/-- A counter that reports a value. -/
theorem tells_reported {new : Sample} {v : Value} (hnew : c.counter? name = some new)
    (hkind : kind.isSampled = true)
    (hv : Reports name kind new (latestExposure name earlier) (.ok v))
    (hfollows : ∀ last, latestExposure name earlier = some last → c.Follows last) :
    c.Tells earlier name kind none (some v) := by
  obtain ⟨raw, hexposed, hvalue, -⟩ := counter?_eq_some.mp hnew
  have hfinite := Value.isFinite_of_finite? hvalue
  have hseen : ∀ last, latestExposure name earlier = some last →
      new.value.less last.value = false ∧
      (kind = .pdelta → v = .float (new.value.sub last.value)) ∧
      (kind = .prate → ∃ seconds, Double.ofInt? (new.time - last.time) = some seconds ∧
        v = .float ((new.value.sub last.value).div seconds)) := by
    intro last hlast
    rw [hlast] at hv
    obtain ⟨hless, hchange⟩ := hv.of_seen
    rw [Double.sub_less_zero hfinite (hfollows last hlast).finite] at hless
    exact ⟨hless, hchange⟩
  constructor
  case groups => exact Or.inr (Or.inr ⟨by rw [hexposed]; rfl, rfl, rfl⟩)
  case reset =>
    refine fun e => iff_of_false nofun ?_
    rintro ⟨-, last, new', hlast, hnew', hless, -⟩
    obtain rfl : new = new' := Option.some.inj (hnew.symm.trans hnew')
    rw [(hseen last hlast).1] at hless
    cases hless
  case first =>
    intro _ new' hlast _
    rw [hlast] at hv
    rw [hv.of_unseen]
  case change =>
    intro hdelta last new' hlast hnew' _
    obtain rfl : new = new' := Option.some.inj (hnew.symm.trans hnew')
    rw [(hseen last hlast).2.1 hdelta]
  case perSecond =>
    intro hrate last new' hlast hnew' _
    obtain rfl : new = new' := Option.some.inj (hnew.symm.trans hnew')
    obtain ⟨seconds, hseconds, hv⟩ := (hseen last hlast).2.2 hrate
    exact ⟨seconds, hseconds, by rw [hv]⟩
  case plain => exact fun hplain => absurd hkind (Bool.eq_false_iff.mp hplain)

/-- A counter that has fallen. -/
theorem tells_reset {last new : Sample} (hnew : c.counter? name = some new)
    (hkind : kind.isSampled = true) (hlast : latestExposure name earlier = some last)
    (hless : new.value.less last.value = true) :
    c.Tells earlier name kind (some (.counterReset name last.value new.value)) none := by
  obtain ⟨raw, hexposed, -, -⟩ := counter?_eq_some.mp hnew
  have hfallen : ∀ last' new', latestExposure name earlier = some last' →
      c.counter? name = some new' → new'.value.less last'.value ≠ false := by
    intro last' new' hlast' hnew'
    obtain rfl : last = last' := Option.some.inj (hlast.symm.trans hlast')
    obtain rfl : new = new' := Option.some.inj (hnew.symm.trans hnew')
    rw [hless]
    decide
  constructor
  case groups => exact Or.inr (Or.inl ⟨by rw [hexposed]; rfl, ⟨_, _, rfl⟩, rfl⟩)
  case reset =>
    intro e
    constructor
    · rintro ⟨⟩
      exact ⟨hkind, last, new, hlast, hnew, hless, rfl⟩
    · rintro ⟨-, last', new', hlast', hnew', -, rfl⟩
      obtain rfl : last = last' := Option.some.inj (hlast.symm.trans hlast')
      obtain rfl : new = new' := Option.some.inj (hnew.symm.trans hnew')
      rfl
  case first =>
    intro _ new' hnone
    rw [hlast] at hnone
    cases hnone
  case change =>
    exact fun _ last' new' hlast' hnew' hnot => absurd hnot (hfallen last' new' hlast' hnew')
  case perSecond =>
    exact fun _ last' new' hlast' hnew' hnot => absurd hnot (hfallen last' new' hlast' hnew')
  case plain => exact fun hplain => absurd hkind (Bool.eq_false_iff.mp hplain)

/-- **What a cycle yields tells this**, where the store held the latest exposures. -/
theorem Yields.tells {old : Option Sample} {held : MetricSet.Share}
    (h : c.Yields name kind old held)
    (hold : kind.isSampled = true → old = latestExposure name earlier)
    (hfollows : ∀ last, latestExposure name earlier = some last → c.Follows last) :
    c.Tells earlier name kind held.error held.metric := by
  cases h with
  | unexposed hexposed => exact tells_unexposed hexposed
  | plain hexposed hkind => exact tells_plain hexposed hkind
  | reported hnew hkind hv => exact tells_reported hnew hkind (hold hkind ▸ hv) hfollows
  | reset hnew hkind hlast hless => exact tells_reset hnew hkind (hold hkind ▸ hlast) hless

end HostCycle

end Runs

/-- **What every cycle of a run tells.**  The host is read again and again, at later and later
seconds; each reading goes to a fresh set, over one store that was empty at first.  Then every cycle
goes on to the end, and tells this about each metric of the host. -/
theorem hostCycles_tell {cycles : List HostCycle} (h : SecondsIncrease cycles) :
    ∀ earlier c later, cycles = earlier ++ c :: later →
      (c.collect (storeAfter earlier)).fault = none ∧
      ∀ name kind, (name, kind) ∈ hostMetricKinds →
        c.Tells earlier name kind ((c.collect (storeAfter earlier)).errors.get? name)
          ((c.collect (storeAfter earlier)).set.metrics.get? name) := by
  rintro earlier c later rfl
  obtain ⟨s, hs, hsamples⟩ := sample?_storeAfter h.of_append
  obtain ⟨hfault, hyields⟩ := HostCycle.yields_collect (c := c) (s := s) fun m hm hkind last hlast =>
    h.follows ((hsamples m hm hkind).symm.trans hlast)
  rw [hs]
  refine ⟨hfault, fun name kind hm => ?_⟩
  have hyield := hyields name kind hm
  rw [MetricSet.Collection.share_collected] at hyield
  exact hyield.tells (fun hkind => hsamples _ hm hkind) fun last => h.follows

/-! ### A host that loses its network for a while -/

namespace Rebooted

/-- A reading with as many bytes and packets, and without errors. -/
def reading (network : Option Int) (disk : DiskReading) : HostReading where
  hostname := .text "db-1"
  cpuPercent := .float .one
  memoryPercent := .text "40.5"
  memoryUsed := .int 1024
  network := network.map fun n =>
    ⟨.int n, .int (2 * n), .int n, .int n, .int 0, .int 0, .int 0, .bool true⟩
  disk := disk

/-- A first reading with all counters. -/
def first : HostCycle where
  now := .ofWhole 5000
  second := 5000
  clock := by decide +kernel
  bounded := by decide
  eventType := "SystemSample"
  reading := reading (some 100) (.counters (.int 50) (.int 70))
  sound := ⟨by decide, by decide +kernel, nofun⟩

/-- Ten seconds later the host exposes none of them. -/
def second : HostCycle where
  now := .ofWhole 5010
  second := 5010
  clock := by decide +kernel
  bounded := by decide
  eventType := "SystemSample"
  reading := reading none .unavailable
  sound := ⟨by decide, by decide +kernel, nofun⟩

/-- Then they are back, and those of the disks have fallen. -/
def third : HostCycle where
  now := .ofWhole 5025
  second := 5025
  clock := by decide +kernel
  bounded := by decide
  eventType := "SystemSample"
  reading := reading (some 175) (.counters (.int 20) (.int 0))
  sound := ⟨by decide, by decide +kernel, nofun⟩

/-- All of them. -/
def run : List HostCycle := [first, second, third]

theorem secondsIncrease : SecondsIncrease run := by decide

theorem latest_disk :
    latestExposure "disk.readBytesPerSecond" [first, second] = some ⟨.ofWhole 50, 5000⟩ := by
  decide +kernel

theorem latest_network :
    latestExposure "net.receiveBytesPerSecond" [first, second] = some ⟨.ofWhole 200, 5000⟩ := by
  decide +kernel

end Rebooted

open Rebooted in
/-- The counters that are back are compared with those of the first reading: one of the disks has
fallen, while the network has received 150 bytes in 25 seconds. -/
theorem hostCycles_tell_rebooted :
    SecondsIncrease run ∧
      (∀ earlier c later, run = earlier ++ c :: later →
        (c.collect (storeAfter earlier)).fault = none ∧
        ∀ name kind, (name, kind) ∈ hostMetricKinds →
          c.Tells earlier name kind ((c.collect (storeAfter earlier)).errors.get? name)
            ((c.collect (storeAfter earlier)).set.metrics.get? name)) ∧
      (third.collect (storeAfter [first, second])).errors.get? "disk.readBytesPerSecond" =
        some (.counterReset "disk.readBytesPerSecond" (.ofWhole 50) (.ofWhole 20)) ∧
      (third.collect (storeAfter [first, second])).set.metrics.get? "net.receiveBytesPerSecond" =
        some (.float (.ofWhole 6)) := by
  have htell := hostCycles_tell secondsIncrease
  obtain ⟨-, hthird⟩ := htell [first, second] third [] rfl
  have hdisk := hthird "disk.readBytesPerSecond" .prate (by decide)
  have hnetwork := hthird "net.receiveBytesPerSecond" .prate (by decide)
  refine ⟨secondsIncrease, htell, ?_, ?_⟩
  · refine (hdisk.reset _).mpr ⟨rfl, ⟨.ofWhole 50, 5000⟩, ⟨.ofWhole 20, 5025⟩, latest_disk,
      ?_, ?_, by dsimp only⟩
    · decide +kernel
    · decide +kernel
  · obtain ⟨seconds, hseconds, hmetric⟩ := hnetwork.perSecond rfl ⟨.ofWhole 200, 5000⟩
      ⟨.ofWhole 350, 5025⟩ latest_network (by decide +kernel) (by decide +kernel)
    have hduration : Double.ofInt? (5025 - 5000) = some (.ofWhole 25) := by decide +kernel
    have hrate : ((Double.ofWhole 350).sub (.ofWhole 200)).div (.ofWhole 25) = .ofWhole 6 := by
      decide +kernel
    obtain rfl : .ofWhole 25 = seconds := Option.some.inj (hduration.symm.trans hseconds)
    rw [hmetric, hrate]

end Baseline
