import Baseline.Proofs.Sampling.Reading

/-!
# Why computing a metric ends in a fault

A metric is reported, or it is refused with an error of the collector's own.  A fault is neither:
what it takes to report the metric, or to word its refusal, cannot be had.

* `settled?` : a value or a reported error, as opposed to a fault.
* `Breaks` : why computing a metric ends in a fault.
* `settled?_computeValue_eq_none_iff` : **these are all the reasons.**
* `computeValue_store_of_settled` : what computing a metric without a fault does to the store.
-/

set_option autoImplicit false

namespace Baseline

/-! ## Faults of one metric -/

/-- A result that is a value or a reported error. -/
def settled? {α : Type} : Except Failure α → Option (Except CollectorError α)
  | .ok a => some (.ok a)
  | .error (.reported e) => some (.error e)
  | .error _ => none

/-- The kind that a declared value names. -/
def Value.kind? (declared : Value) : Option SourceKind := declared.text?.bind SourceKind.ofLabel?

/-- Why computing a metric ends in a fault.  `stored` tells whether there is a store, `old` is the
sample that it has of the metric. -/
inductive Breaks (now : Double) (stored : Bool) (old : Option Sample) (raw declared : Value) : Prop
  /-- The declared kind is none, and cannot be displayed in the refusal. -/
  | kind {f : Fault} (hkind : declared.kind? = none) (hshown : declared.shown = .error f)
  /-- The value is no finite number, and cannot be displayed in the refusal. -/
  | value {k : SourceKind} {f : Fault} (hkind : declared.kind? = some k)
      (hnumeric : k.isNumeric = true) (hvalue : raw.finite? = none)
      (hshown : raw.shown = .error f)
  /-- The clock shows no second under which a sample could be recorded. -/
  | clock {k : SourceKind} {x : Double} (hkind : declared.kind? = some k)
      (hsampled : k.isSampled = true) (hvalue : raw.finite? = some x) (hstored : stored = true)
      (hnow : now.isFinite = false)
  /-- The change since the old sample is divided by more seconds than a double can hold. -/
  | span {k : SourceKind} {x : Double} {time : Int} {e : Sample} (hkind : declared.kind? = some k)
      (hrate : k.isRate = true) (hvalue : raw.finite? = some x) (hstored : stored = true)
      (htime : wholeSecond now = .ok time) (hold : old = some e)
      (hless : (x.sub e.value).less .zero = false) (hfar : Double.ofInt? (time - e.time) = none)

theorem resolveKind_of_some {declared : Value} {k : SourceKind} (h : declared.kind? = some k)
    (key : String) : resolveKind key declared = .ok k := by
  unfold Value.kind? at h
  unfold resolveKind
  split
  · rename_i k'
    simp only [Value.text?, Option.bind_some, SourceKind.ofLabel?_label] at h
    exact congrArg Except.ok (Option.some.inj h)
  · rw [h]

theorem resolveKind_of_none {declared : Value} (h : declared.kind? = none) (key : String) :
    resolveKind key declared =
      match declared.shown with
      | .ok shown => .error (.reported (.unknownKind key shown))
      | .error f => .error (.fault f) := by
  unfold Value.kind? at h
  unfold resolveKind
  split
  · exact absurd h (by simp [Value.text?, SourceKind.ofLabel?_label])
  · cases declared.shown with
    | ok shown => simp only [h]
    | error f => simp only [h]

theorem isFinite_iff_wholeSecond {now : Double} :
    now.isFinite = true ↔ ∃ time, wholeSecond now = .ok time := by
  cases now with
  | nan => simp [Double.isFinite, wholeSecond]
  | inf neg => simp [Double.isFinite, wholeSecond]
  | fin neg m => simp [Double.isFinite, wholeSecond]

/-- Comparing two samples faults only when a change is to be divided by too many seconds. -/
theorem settled?_compareSamples_eq_none_iff {key : String} {kind : SourceKind} {old new : Sample} :
    settled? ((compareSamples key kind old new).map Value.float) = none ↔
      kind.isRate = true ∧ (new.value.sub old.value).less .zero = false ∧
        Double.ofInt? (new.time - old.time) = none := by
  unfold compareSamples
  dsimp only
  split
  · rename_i helapsed
    obtain ⟨zero, hzero⟩ := Double.ofInt?_isSome (n := 0) (by decide)
    rw [helapsed, hzero]
    simp [settled?, Except.map]
  split
  · rename_i hless
    simp [settled?, Except.map, hless]
  rename_i hless
  split
  · rename_i hrate
    cases hseconds : Double.ofInt? (new.time - old.time) <;>
      simp [settled?, Except.map, hless, hrate]
  · rename_i hrate
    simp [settled?, Except.map, hrate]

/-- A sample of a counter faults only when the clock shows no second, or the span is too long. -/
theorem settled?_sampleCounter_eq_none_iff {now value : Double} {key : String} {kind : SourceKind}
    {s : Store} :
    settled? ((sampleCounter now key value kind s).1.map Value.float) = none ↔
      now.isFinite = false ∨ ∃ time e, wholeSecond now = .ok time ∧ s.sample? key = some e ∧
        kind.isRate = true ∧ (value.sub e.value).less .zero = false ∧
        Double.ofInt? (time - e.time) = none := by
  unfold sampleCounter Store.record
  cases htime : wholeSecond now with
  | error f =>
    have hnow : now.isFinite = false := by
      rw [← Bool.not_eq_true, isFinite_iff_wholeSecond, htime]
      simp
    simp [settled?, Except.map, hnow]
  | ok time =>
    have hnow : now.isFinite = true := isFinite_iff_wholeSecond.mpr ⟨time, htime⟩
    cases hold : s.sample? key with
    | none => simp [settled?, Except.map, hnow]
    | some e => simp [settled?_compareSamples_eq_none_iff, hnow]

theorem settled?_refuseNonNumeric_eq_none_iff {α : Type} {key : String} {raw : Value} :
    settled? (.error (refuseNonNumeric key raw) : Except Failure α) = none ↔
      ∃ f, raw.shown = .error f := by
  unfold refuseNonNumeric
  cases raw.shown <;> simp [settled?]

theorem SourceKind.isSampled_of_isRate {k : SourceKind} (h : k.isRate = true) :
    k.isSampled = true := by
  cases k with
  | rate => rfl
  | prate => rfl
  | _ => cases h

/-- What the reasons are for a metric of a known kind. -/
theorem breaks_iff_of_kind {now : Double} {stored : Bool} {old : Option Sample}
    {raw declared : Value} {k : SourceKind} (hkind : declared.kind? = some k) :
    Breaks now stored old raw declared ↔
      (k.isNumeric = true ∧ raw.finite? = none ∧ ∃ f, raw.shown = .error f) ∨
      ∃ x, k.isSampled = true ∧ raw.finite? = some x ∧ stored = true ∧
        (now.isFinite = false ∨ ∃ time e, wholeSecond now = .ok time ∧ old = some e ∧
          k.isRate = true ∧ (x.sub e.value).less .zero = false ∧
          Double.ofInt? (time - e.time) = none) := by
  have hsame : ∀ {k'}, declared.kind? = some k' → k' = k := by
    intro k' h
    rw [hkind] at h
    exact (Option.some.inj h).symm
  constructor
  · intro h
    cases h with
    | kind h =>
      rw [hkind] at h
      cases h
    | value h hnumeric hvalue hshown =>
      obtain rfl := hsame h
      exact Or.inl ⟨hnumeric, hvalue, _, hshown⟩
    | clock h hsampled hvalue hstored hnow =>
      obtain rfl := hsame h
      exact Or.inr ⟨_, hsampled, hvalue, hstored, Or.inl hnow⟩
    | span h hrate hvalue hstored htime hold hless hfar =>
      obtain rfl := hsame h
      exact Or.inr ⟨_, SourceKind.isSampled_of_isRate hrate, hvalue, hstored,
        Or.inr ⟨_, _, htime, hold, hrate, hless, hfar⟩⟩
  · rintro (⟨hnumeric, hvalue, f, hshown⟩ | ⟨x, hsampled, hvalue, hstored, hnow | hspan⟩)
    · exact .value hkind hnumeric hvalue hshown
    · exact .clock hkind hsampled hvalue hstored hnow
    · obtain ⟨time, e, htime, hold, hrate, hless, hfar⟩ := hspan
      exact .span hkind hrate hvalue hstored htime hold hless hfar

section KnownKind

variable {now : Double} {store : Option Store} {key : String} {raw : Value} {k : SourceKind}

/-- A numeric metric without a number is refused. -/
theorem computeForKind_refused (hnumeric : k.isNumeric = true) (hvalue : raw.finite? = none) :
    computeForKind now store key raw k = (.error (refuseNonNumeric key raw), store) := by
  unfold computeForKind
  rw [hvalue]
  cases k <;> first | rfl | cases hnumeric

/-- A sampled metric with a number reports its counter, if there is a store. -/
theorem computeForKind_sampled {x : Double} (hsampled : k.isSampled = true)
    (hvalue : raw.finite? = some x) :
    computeForKind now store key raw k =
      match store with
      | none => (.error (.reported (.noStore key)), none)
      | some s => ((sampleCounter now key x k s).1.map .float,
          some (sampleCounter now key x k s).2) := by
  unfold computeForKind
  rw [hvalue]
  cases k <;> first | rfl | cases hsampled

/-- Every other metric is reported as it is, or refused as no text. -/
theorem settled?_computeForKind_unsampled (hsampled : k.isSampled = false)
    (hnumber : k.isNumeric = true → raw.finite?.isSome = true) :
    settled? (computeForKind now store key raw k).1 ≠ none := by
  unfold computeForKind
  cases k with
  | gauge =>
    obtain ⟨x, hx⟩ := Option.isSome_iff_exists.mp (hnumber rfl)
    simp [hx, SourceKind.isAggregate, settled?]
  | attr => cases htext : raw.text? <;> simp [SourceKind.isAggregate, settled?]
  | count => simp [SourceKind.isAggregate, settled?]
  | summary => simp [SourceKind.isAggregate, settled?]
  | _ => cases hsampled

end KnownKind

/-- **Why computing a metric ends in a fault**: these reasons and no others. -/
theorem settled?_computeValue_eq_none_iff {now : Double} {store : Option Store} {key : String}
    {raw declared : Value} :
    settled? (computeValue now store key raw declared).1 = none ↔
      Breaks now store.isSome (store.bind (·.sample? key)) raw declared := by
  cases hkind : declared.kind? with
  | none =>
    rw [computeValue, resolveKind_of_none hkind]
    cases hshown : declared.shown with
    | error f => exact iff_of_true rfl (.kind hkind hshown)
    | ok text =>
      refine iff_of_false (by simp [settled?]) ?_
      rintro (⟨-, h⟩ | ⟨h, -⟩ | ⟨h, -⟩ | ⟨h, -⟩)
      · rw [hshown] at h
        cases h
      all_goals rw [hkind] at h; cases h
  | some k =>
    rw [computeValue, resolveKind_of_some hkind, breaks_iff_of_kind hkind]
    dsimp only
    cases hvalue : raw.finite? with
    | none =>
      by_cases hnumeric : k.isNumeric = true
      · rw [computeForKind_refused hnumeric hvalue, settled?_refuseNonNumeric_eq_none_iff]
        simp [hnumeric]
      · have hsampled : k.isSampled = false := by
          simp only [SourceKind.isNumeric, Bool.or_eq_true, not_or, Bool.not_eq_true] at hnumeric
          exact hnumeric.2
        refine iff_of_false ?_ (by simp [hnumeric])
        exact settled?_computeForKind_unsampled hsampled (fun h => absurd h hnumeric)
    | some x =>
      by_cases hsampled : k.isSampled = true
      · rw [computeForKind_sampled hsampled hvalue]
        cases store with
        | none => simp [settled?]
        | some s => simp [settled?_sampleCounter_eq_none_iff, hsampled]
      · refine iff_of_false ?_ (by simp [hsampled])
        rw [Bool.not_eq_true] at hsampled
        exact settled?_computeForKind_unsampled hsampled (fun _ => by rw [hvalue]; rfl)

/-- A sample that was recorded at the second of the clock is no reason to break. -/
theorem breaks_iff_of_recorded {now : Double} {stored : Bool} {old : Option Sample}
    {raw declared : Value} (hold : ∀ e, old = some e → wholeSecond now = .ok e.time) :
    Breaks now stored old raw declared ↔ Breaks now stored none raw declared := by
  constructor
  · intro h
    cases h with
    | kind hkind hshown => exact .kind hkind hshown
    | value hkind hnumeric hvalue hshown => exact .value hkind hnumeric hvalue hshown
    | clock hkind hsampled hvalue hstored hnow => exact .clock hkind hsampled hvalue hstored hnow
    | span hkind hrate hvalue hstored htime hfound hless hfar =>
      rw [hold _ hfound, Except.ok.injEq] at htime
      obtain ⟨zero, hzero⟩ := Double.ofInt?_isSome (n := 0) (by decide)
      rw [← htime, Int.sub_self, hzero] at hfar
      cases hfar
  · intro h
    cases h with
    | kind hkind hshown => exact .kind hkind hshown
    | value hkind hnumeric hvalue hshown => exact .value hkind hnumeric hvalue hshown
    | clock hkind hsampled hvalue hstored hnow => exact .clock hkind hsampled hvalue hstored hnow
    | span hkind hrate hvalue hstored htime hfound hless hfar => cases hfound

/-! ## What computing a metric does to the store -/

/-- Without a store there is none afterwards. -/
theorem computeValue_storeless (now : Double) (key : String) (raw declared : Value) :
    (computeValue now none key raw declared).2 = none := by
  unfold computeValue computeForKind
  split
  · split
    · rfl
    split
    · split <;> rfl
    split
    · rfl
    · split <;> rfl
  · rfl

/-- A sampled metric with a number is recorded whenever the clock shows a second. -/
theorem computeValue_recorded {now x : Double} {time : Int} {s : Store} {key : String}
    {raw declared : Value} {k : SourceKind}
    (hcounted : (⟨key, raw, declared⟩ : Reading).counted? = some (k, x))
    (htime : wholeSecond now = .ok time) :
    (computeValue now (some s) key raw declared).2 = some ⟨s.rows.put key ⟨x, time⟩⟩ := by
  obtain ⟨hkind, hvalue, hsampled⟩ := Reading.counted?_eq_some.mp hcounted
  rw [computeValue_sampled hkind hsampled, hvalue]
  simp only [sampleCounter, Store.record, htime]
  cases s.sample? key <;> rfl

/-- **What computing a metric does to the store**, unless it ends in a fault: a sampled metric with
a number is recorded, and nothing else is. -/
theorem computeValue_store_of_settled {now : Double} {store : Option Store} {key : String}
    {raw declared : Value} (h : settled? (computeValue now store key raw declared).1 ≠ none) :
    (((⟨key, raw, declared⟩ : Reading).counted? = none ∨ store = none) ∧
      (computeValue now store key raw declared).2 = store) ∨
    ∃ s k x time, (⟨key, raw, declared⟩ : Reading).counted? = some (k, x) ∧ store = some s ∧
      wholeSecond now = .ok time ∧
      (computeValue now store key raw declared).2 = some ⟨s.rows.put key ⟨x, time⟩⟩ := by
  cases store with
  | none => exact Or.inl ⟨Or.inr rfl, computeValue_storeless _ _ _ _⟩
  | some s =>
    cases hcounted : (⟨key, raw, declared⟩ : Reading).counted? with
    | none =>
      exact Or.inl ⟨Or.inl rfl, congrArg Prod.snd (Reading.computeValue_not_counted hcounted now s)⟩
    | some counted =>
      obtain ⟨k, x⟩ := counted
      cases htime : wholeSecond now with
      | error f =>
        have hfault : (computeValue now (some s) key raw declared).1 = .error (.fault f) :=
          congrArg Prod.fst (Reading.perform_fault hcounted htime s)
        rw [hfault] at h
        exact absurd rfl h
      | ok time =>
        exact Or.inr ⟨s, k, x, time, rfl, rfl, rfl, computeValue_recorded hcounted htime⟩

end Baseline
