import Baseline.Proofs.MetricSet.Attempt

/-!
# Which definitions end a collection

All defined metrics are set one after the other.  A metric that is refused is noted among the
errors and the next one is attempted, but a fault ends the collection: then neither the metric nor
those behind it are set, and the errors so far are lost.

* `MetricSet.Ends` : why a definition ends the collection in which it is attempted.
* `MetricSet.Reached.attempt` : what every attempt preserves.
* `MetricSet.setMetrics_fault_iff` : which collections return.
* `collection_stopped` : a clock that shows no number, and nothing is set.
* `collection_completes_iff` : **a collection returns, and settles all its metrics, exactly when no
  definition has a reason to end it.**
-/

set_option autoImplicit false

namespace Baseline

namespace MetricSet

/-! ## The definitions before -/

/-- Whether a sample has been recorded under a name by the definitions so far. -/
def sampledBefore (values : Table Value) (before : List MetricDefinition) (name : String) : Bool :=
  before.any fun d => d.name = name && counts values d

/-- The sample that a definition finds in the store, if it is from before the collection. -/
def foundSample? (store : Option Store) (m : MetricSet) (values : Table Value)
    (before : List MetricDefinition) (d : MetricDefinition) : Option Sample :=
  if sampledBefore values before d.name then none
  else
    match m.storeKey d.name with
    | .ok key => store.bind (·.sample? key)
    | .error _ => none

/-- **Why a definition ends the collection in which it is attempted after others**: it has a value
and may be set, but an attribute of the set has no text, or there is a reason why computing it
breaks. -/
structure Ends (now : Double) (store : Option Store) (m : MetricSet) (values : Table Value)
    (before : List MetricDefinition) (d : MetricDefinition) : Prop where
  given : rawValue values d ≠ .null
  free : m.taken d.name d.kind = false
  cause : (∃ a ∈ m.attributes, ∃ f, a.value.plain = .error f) ∨
    Breaks now store.isSome (foundSample? store m values before d) (rawValue values d) d.kind

/-- What a collection has come to after some definitions: the attributes are the same, a sample
that was recorded has the second of the clock, and all others are as they were. -/
structure Reached (now : Double) (store : Option Store) (m : MetricSet) (values : Table Value)
    (before : List MetricDefinition) (c : Collection) : Prop where
  attributes : c.set.attributes = m.attributes
  stored : c.store.isSome = store.isSome
  recorded : ∀ {name key e}, sampledBefore values before name = true →
    m.storeKey name = .ok key → c.store.bind (·.sample? key) = some e →
    wholeSecond now = .ok e.time
  untouched : ∀ {name key}, sampledBefore values before name = false →
    m.storeKey name = .ok key →
    c.store.bind (·.sample? key) = store.bind (·.sample? key)

section Runs

variable {now : Double} {store : Option Store} {m : MetricSet} {values : Table Value}
  {before : List MetricDefinition} {c : Collection} {d : MetricDefinition}

theorem sampledBefore_concat {name : String} :
    sampledBefore values (before ++ [d]) name =
      (sampledBefore values before name || d.name = name && counts values d) := by
  simp [sampledBefore]

theorem Reached.start : Reached now store m values [] ⟨[], none, m, store, []⟩ where
  attributes := rfl
  stored := rfl
  recorded := fun h => by cases h
  untouched := fun _ _ => rfl

/-- A definition that records nothing leaves a collection where it is. -/
theorem Reached.skip (h : Reached now store m values before c) {c' : Collection}
    (hattributes : c'.set.attributes = c.set.attributes) (hstore : c'.store = c.store)
    (hcounts : counts values d = false ∨ c.store = none) :
    Reached now store m values (before ++ [d]) c' where
  attributes := hattributes.trans h.attributes
  stored := by rw [hstore, h.stored]
  recorded := by
    intro name key e hbefore hkey hsample
    rw [hstore] at hsample
    rcases hcounts with hcounts | hnone
    · rw [sampledBefore_concat, hcounts, Bool.and_false, Bool.or_false] at hbefore
      exact h.recorded hbefore hkey hsample
    · rw [hnone] at hsample
      cases hsample
  untouched := by
    intro name key hbefore hkey
    rw [sampledBefore_concat, Bool.or_eq_false_iff] at hbefore
    rw [hstore]
    exact h.untouched hbefore.1 hkey

/-- **Every attempt that does not end the collection brings it one definition further.** -/
theorem Reached.attempt (h : Reached now store m values before c)
    (hfault : (attempt now values c d).fault = none) :
    Reached now store m values (before ++ [d]) (attempt now values c d) := by
  have hattributes := (changedBy_attempt now values c d).attributes
  by_cases hnull : rawValue values d = .null
  · have hsame : MetricSet.attempt now values c d = c := attempt_null hnull
    exact h.skip hattributes (by rw [hsame]) (Or.inl (not_counts_of_null hnull))
  obtain ⟨hstore, -⟩ := attempt_outcome now (fault_of_fault_attempt hfault) hnull
  obtain ⟨r, houtcome, -⟩ := settled_attempt hfault hnull
  rcases setMetric_store (by rw [houtcome]; exact Option.some_ne_none r) with
    ⟨hcounts, hafter⟩ | ⟨s, key, x, time, hcounts, hs, hkey, htime, hafter⟩
  · exact h.skip hattributes (hstore.trans hafter) hcounts
  rw [storeKey_congr h.attributes] at hkey
  refine ⟨hattributes.trans h.attributes, ?_, ?_, ?_⟩
  · rw [hstore, hafter, ← h.stored, hs]
    rfl
  · intro name key' e hbefore hkey' hsample
    rw [hstore, hafter, Option.bind_some] at hsample
    by_cases hname : d.name = name
    · subst hname
      rw [hkey] at hkey'
      cases hkey'
      simp only [Store.sample?, Table.get?_put_self, Option.some.injEq] at hsample
      rw [← hsample]
      exact htime
    · have hne : key' ≠ key := fun heq => hname (eq_of_storeKey hkey (heq ▸ hkey'))
      simp only [Store.sample?, Table.get?_put_of_ne hne] at hsample
      rw [sampledBefore_concat] at hbefore
      simp only [hname, decide_false, Bool.false_and, Bool.or_false] at hbefore
      refine h.recorded hbefore hkey' ?_
      rw [hs]
      exact hsample
  · intro name key' hbefore hkey'
    rw [sampledBefore_concat, hcounts, Bool.and_true, Bool.or_eq_false_iff,
      decide_eq_false_iff_not] at hbefore
    have hne : key' ≠ key := fun heq => hbefore.2 (eq_of_storeKey hkey (heq ▸ hkey'))
    rw [← h.untouched hbefore.1 hkey', hstore, hafter, hs]
    simp only [Option.bind_some, Store.sample?, Table.get?_put_of_ne hne]

/-- **Which definition ends a collection**, told from the set and the store with which the
collection began. -/
theorem Reached.outcome?_eq_none_iff (h : Reached now store m values before c)
    (hgiven : rawValue values d ≠ .null) :
    outcome? now c.store c.set d.name (rawValue values d) d.kind = none ↔
      Ends now store m values before d := by
  have htaken : c.set.taken d.name d.kind = m.taken d.name d.kind := by
    unfold taken
    rw [h.attributes]
  rw [outcome?, htaken, storeKey_congr h.attributes]
  cases hfree : m.taken d.name d.kind with
  | true =>
    refine iff_of_false (by simp) fun hends => ?_
    rw [hends.free] at hfree
    cases hfree
  | false =>
    rw [if_neg Bool.false_ne_true]
    cases hkey : m.storeKey d.name with
    | error f =>
      exact iff_of_true rfl ⟨hgiven, hfree, Or.inl (storeKey_eq_error_iff.mp ⟨f, hkey⟩)⟩
    | ok key =>
      have htexts : ¬ ∃ a ∈ m.attributes, ∃ f, a.value.plain = .error f := by
        intro hunwritable
        obtain ⟨f, hf⟩ := (@storeKey_eq_error_iff m d.name).mpr hunwritable
        rw [hkey] at hf
        cases hf
      have hbreaks : Breaks now c.store.isSome (c.store.bind (·.sample? key)) (rawValue values d)
          d.kind ↔ Breaks now store.isSome (foundSample? store m values before d)
            (rawValue values d) d.kind := by
        rw [h.stored, foundSample?, hkey]
        cases hbefore : sampledBefore values before d.name with
        | true =>
          rw [if_pos rfl]
          exact breaks_iff_of_recorded fun e he => h.recorded hbefore hkey he
        | false =>
          rw [if_neg Bool.false_ne_true, h.untouched hbefore hkey]
      dsimp only
      rw [settled?_computeValue_eq_none_iff, hbreaks]
      exact ⟨fun hcause => ⟨hgiven, hfree, Or.inr hcause⟩,
        fun hends => hends.cause.resolve_left htexts⟩

theorem setMetrics_concat (ds : List MetricDefinition) :
    m.setMetrics now store values (ds ++ [d]) =
      attempt now values (m.setMetrics now store values ds) d := by
  simp [setMetrics]

/-- An attempt ends a collection exactly when there is a reason to. -/
theorem Reached.fault_attempt_iff (h : Reached now store m values before c)
    (hfault : c.fault = none) :
    (MetricSet.attempt now values c d).fault = none ↔ ¬ Ends now store m values before d := by
  by_cases hnull : rawValue values d = .null
  · rw [attempt_null hnull]
    exact iff_of_true hfault fun hends => hends.given hnull
  obtain ⟨-, hdone⟩ := attempt_outcome now hfault hnull
  rw [← h.outcome?_eq_none_iff hnull]
  split at hdone
  · rename_i houtcome
    rw [houtcome]
    exact iff_of_true hdone.1 (Option.some_ne_none _)
  · rename_i houtcome
    rw [houtcome]
    exact iff_of_true hdone.1 (Option.some_ne_none _)
  · rename_i houtcome
    rw [houtcome]
    refine iff_of_false (fun hnone => ?_) (fun hno => hno rfl)
    rw [hnone] at hdone
    cases hdone

/-- **Which collections return**: those in which no definition has a reason to end it. -/
theorem setMetrics_fault_iff (now : Double) (store : Option Store) (m : MetricSet)
    (values : Table Value) (definitions : List MetricDefinition) :
    ((m.setMetrics now store values definitions).fault = none ↔
      ∀ before d after, definitions = before ++ d :: after →
        ¬ Ends now store m values before d) ∧
    ((m.setMetrics now store values definitions).fault = none →
      Reached now store m values definitions (m.setMetrics now store values definitions)) := by
  induction definitions using List.reverseRecOn with
  | nil =>
    refine ⟨iff_of_true rfl fun before d after h => ?_, fun _ => .start⟩
    exact absurd h (by simp)
  | append_singleton ds last ih =>
    obtain ⟨hreturns, hreached⟩ := ih
    rw [setMetrics_concat]
    refine ⟨⟨fun hfault before d after hsplit => ?_, fun hnone => ?_⟩, fun hfault => ?_⟩
    · have hfirst := fault_of_fault_attempt hfault
      rcases List.eq_nil_or_concat after with rfl | ⟨after, other, rfl⟩
      · obtain ⟨rfl, hlast⟩ := List.append_inj' hsplit rfl
        cases hlast
        exact ((hreached hfirst).fault_attempt_iff hfirst).mp hfault
      · rw [List.concat_eq_append, ← List.cons_append, ← List.append_assoc] at hsplit
        obtain ⟨hds, -⟩ := List.append_inj' hsplit rfl
        exact hreturns.mp hfirst before d after hds
    · have hfirst : (m.setMetrics now store values ds).fault = none :=
        hreturns.mpr fun before d after hsplit =>
          hnone before d (after ++ [last]) (by rw [hsplit]; simp)
      exact ((hreached hfirst).fault_attempt_iff hfirst).mpr (hnone ds last [] rfl)
    · exact (hreached (fault_of_fault_attempt hfault)).attempt hfault

end Runs

/-! ## Whole collections -/

/-- A collection returns, and every definition that has a value is settled: right after it was
attempted its outcome is among the metrics or the errors, and it stays there until another
definition of the same name is attempted. -/
structure Completes (now : Double) (store : Option Store) (m : MetricSet) (es : Entries)
    (definitions : List MetricDefinition) : Prop where
  returns : (m.setMetricsFrom now store (.map es) definitions).fault = none
  settles : ∀ before d between after, definitions = before ++ d :: (between ++ after) →
    rawValue (byName es) d ≠ .null →
    (∀ other ∈ between, other.name = d.name → rawValue (byName es) other = .null) →
    ∃ r, outcome? now (m.setMetricsFrom now store (.map es) before).store
        (m.setMetricsFrom now store (.map es) before).set d.name (rawValue (byName es) d) d.kind =
          some r ∧
      Settled (m.setMetricsFrom now store (.map es) (before ++ d :: between)) d.name r

/-- What is settled stays when definitions of other names are attempted. -/
theorem settled_setMetrics_append {now : Double} {store : Option Store} {m : MetricSet}
    {values : Table Value} {name : String} {r : Except CollectorError Value}
    {done between : List MetricDefinition}
    (hr : Settled (m.setMetrics now store values done) name r)
    (hfault : (m.setMetrics now store values (done ++ between)).fault = none)
    (hnames : ∀ d ∈ between, d.name = name → rawValue values d = .null) :
    Settled (m.setMetrics now store values (done ++ between)) name r := by
  induction between using List.reverseRecOn with
  | nil => rwa [List.append_nil]
  | append_singleton between d ih =>
    rw [← List.append_assoc, setMetrics_concat] at hfault ⊢
    have hsettled := ih (fault_of_fault_attempt hfault) fun other hother =>
      hnames other (List.mem_append_left _ hother)
    exact hsettled.attempt hfault (hnames d (List.mem_append_right _ (List.mem_singleton_self d)))

/-- Where a collection returns, it has also returned from its first definitions. -/
theorem fault_of_fault_append {now : Double} {store : Option Store} {m : MetricSet}
    {values : Table Value} {ds rest : List MetricDefinition}
    (h : (m.setMetrics now store values (ds ++ rest)).fault = none) :
    (m.setMetrics now store values ds).fault = none := by
  rw [(setMetrics_fault_iff now store m values _).1] at h ⊢
  intro before d after hsplit
  exact h before d (after ++ rest) (by rw [hsplit]; simp)

end MetricSet

open MetricSet

namespace BrokenClock

/-- A set without attributes. -/
def set : MetricSet := ⟨"S", [], [(eventTypeKey, .text "S")]⟩

/-- Two numbers. -/
def values : Entries := [(.text "a", .int 1), (.text "b", .int 2)]

/-- A change and a gauge. -/
def definitions : List MetricDefinition := [⟨"a", .kind .delta, .null⟩, ⟨"b", .kind .gauge, .null⟩]

theorem sampleCounter_nan (key : String) (x : Double) (kind : SourceKind) (s : Store) :
    sampleCounter .nan key x kind s = (.error (.fault .nanToInteger), s) :=
  rfl

theorem isSome_finite?_one : (Value.int 1).finite?.isSome = true := by decide +kernel

/-- What becomes of them under a clock that shows no number. -/
theorem setMetricsFrom_nan :
    set.setMetricsFrom .nan (some .empty) (.map values) definitions =
      ⟨[], some (.fault .nanToInteger), set, some .empty, []⟩ := by
  obtain ⟨x, hx⟩ := Option.isSome_iff_exists.mp isSome_finite?_one
  have hcompute : computeValue .nan (some .empty) "a" (.int 1) (.kind .delta) =
      (.error (.fault .nanToInteger), some .empty) := by
    rw [computeValue, resolveKind_of_some (k := .delta) rfl]
    dsimp only
    rw [computeForKind_sampled rfl hx]
    dsimp only
    rw [sampleCounter_nan]
    rfl
  have hraw : rawValue (byName values) ⟨"a", .kind .delta, .null⟩ = .int 1 := rfl
  have hgiven : rawValue (byName values) ⟨"a", .kind .delta, .null⟩ ≠ .null := by
    rw [hraw]
    intro h
    cases h
  have hkey : set.storeKey "a" = .ok "a" := rfl
  have hset : set.setMetric .nan (some .empty) "a" (.int 1) (.kind .delta) =
      ⟨.error (.fault .nanToInteger), set, some .empty⟩ := by
    rw [setMetric, if_neg (by decide), hkey]
    dsimp only
    rw [hcompute]
  rw [values, setMetricsFrom, setMetrics, definitions, List.foldl_cons, ← values,
    attempt_given rfl hgiven, hraw, hset]
  rfl

end BrokenClock

open BrokenClock in
/-- **A clock that shows no number ends the collection**: the sample behind a change has no second at
which it could be recorded, and the gauge behind it, which needs no clock, is not set either. -/
theorem collection_stopped :
    make "S" [] = .ok set ∧
      ¬ Completes .nan (some .empty) set values definitions ∧
      (set.setMetricsFrom .nan (some .empty) (.map values) definitions).fault =
        some (.fault .nanToInteger) ∧
      (set.setMetricsFrom .nan (some .empty) (.map values) definitions).errors = [] ∧
      (set.setMetricsFrom .nan (some .empty) (.map values) definitions).set.metrics =
        [("event_type", .text "S")] := by
  rw [setMetricsFrom_nan]
  refine ⟨rfl, fun h => ?_, rfl, rfl, rfl⟩
  have hreturns := h.returns
  rw [setMetricsFrom_nan] at hreturns
  cases hreturns

/-- **A collection completes exactly when no definition has a reason to end it.**  For every set,
every map of values, every list of definitions and every clock reading: the collection returns, and
every definition that has a value is settled, unless some definition that has a value and may be set
ends it, because an attribute of the set has no text, or because computing it breaks. -/
theorem collection_completes_iff (now : Double) (store : Option Store) (m : MetricSet)
    (es : Entries) (definitions : List MetricDefinition) :
    Completes now store m es definitions ↔
      ∀ before d after, definitions = before ++ d :: after →
        ¬ Ends now store m (byName es) before d := by
  have hfault := (setMetrics_fault_iff now store m (byName es) definitions).1
  refine ⟨fun h => hfault.mp h.returns, fun h => ⟨hfault.mpr h, ?_⟩⟩
  intro before d between after hsplit hgiven hnames
  have hreturns : (m.setMetrics now store (byName es) (before ++ d :: between)).fault = none := by
    have hwhole := hfault.mpr h
    rw [hsplit, ← List.cons_append, ← List.append_assoc] at hwhole
    exact fault_of_fault_append hwhole
  have hsame : before ++ d :: between = before ++ [d] ++ between :=
    List.append_cons before d between
  have hd : (m.setMetrics now store (byName es) (before ++ [d])).fault = none :=
    fault_of_fault_append (hsame ▸ hreturns)
  rw [setMetrics_concat] at hd
  obtain ⟨r, houtcome, hsettled⟩ := settled_attempt hd hgiven
  refine ⟨r, houtcome, ?_⟩
  rw [← setMetrics_concat] at hsettled
  rw [hsame] at hreturns ⊢
  exact settled_setMetrics_append hsettled hreturns hnames

end Baseline
