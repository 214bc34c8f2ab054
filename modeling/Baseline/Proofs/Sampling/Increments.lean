import Baseline.Proofs.Sampling.Resets
import Baseline.Proofs.Store.Maps

/-!
# Increments of a counter

A counter that never falls reports how much it has grown since its last reading.  What is asked
about other keys in the meantime does not matter.

* `StoreRequest.key?`, `answersAt` : what is asked about one key, and what is answered.
* `CountReading` : a counter of whole numbers up to `2 ^ 53` is read as a delta.
* `CountReading.perform_seen` : one such reading after another reports the exact increment.
* `increments_accounted` : **every increment is reported once, exactly, and together they make up
  all that the counter has grown.**
-/

set_option autoImplicit false

namespace Baseline

/-! ## Requests about one key -/

/-- The key that a request may change. -/
def StoreRequest.key? : StoreRequest → Option String
  | set _ key _ => some key
  | delete key => some key
  | compute _ key _ _ => some key
  | get _ => none
  | snapshot => none
  | save _ _ _ => none

/-- The answers to those of the requests that may change a key. -/
def answersAt (key : String) (s : Store) (requests : List StoreRequest) :
    List (Except Failure StoreAnswer) :=
  ((requests.zip (StoreRequest.performAll s requests).1).filter fun p => p.1.key? = some key).map
    (·.2)

theorem answersAt_cons (key : String) (s : Store) (q : StoreRequest) (rest : List StoreRequest) :
    answersAt key s (q :: rest) =
      if q.key? = some key then (q.perform s).1 :: answersAt key (q.perform s).2 rest
      else answersAt key (q.perform s).2 rest := by
  unfold answersAt
  rw [StoreRequest.performAll, List.zip_cons_cons, List.filter_cons]
  by_cases hkey : q.key? = some key
  · simp [hkey]
  · simp [hkey]

/-- A request leaves the samples of the keys that it may not change. -/
theorem StoreRequest.sample?_perform {q : StoreRequest} {key : String} (h : q.key? ≠ some key)
    (s : Store) : (q.perform s).2.sample? key = s.sample? key := by
  cases q with
  | set now k raw =>
    have hne : k ≠ key := fun hk => h (congrArg some hk)
    cases htime : wholeSecond now with
    | error f => simp only [perform, Store.set, htime]
    | ok time =>
      cases hvalue : raw.toDouble with
      | error f => simp only [perform, Store.set, htime, hvalue]
      | ok value =>
        simp only [perform, Store.set, Store.record, htime, hvalue]
        exact Table.get?_put_of_ne (Ne.symm hne) _ _
  | delete k =>
    have hne : k ≠ key := fun hk => h (congrArg some hk)
    exact Table.get?_erase_of_ne (Ne.symm hne) _
  | compute now k raw declared =>
    have hne : k ≠ key := fun hk => h (congrArg some hk)
    exact sample?_perform_of_ne (m := ⟨k, raw, declared⟩) hne now s
  | _ => rfl

/-! ## Readings of a counter -/

/-- A counter shows a whole number up to `2 ^ 53` at a second of the clock, and is declared as a
delta of either sort. -/
structure CountReading (key : String) where
  now : Double
  second : Int
  clock : wholeSecond now = .ok second
  count : Int
  nonneg : 0 ≤ count
  le_bound : count ≤ 2 ^ 53
  declared : Value
  kind : resolveKind key declared = .ok .delta ∨ resolveKind key declared = .ok .pdelta

namespace CountReading

variable {key : String}

/-- The request to compute the counter. -/
def request (r : CountReading key) : StoreRequest := .compute r.now key (.int r.count) r.declared

/-- The sample that is recorded then. -/
def sample (r : CountReading key) : Sample := ⟨.ofWhole r.count, r.second⟩

/-- A reading at a later second, of a counter that has not fallen. -/
def Precedes (r next : CountReading key) : Prop := r.second < next.second ∧ r.count ≤ next.count

/-- How much the counter has grown since a reading, at each of the next ones since the last. -/
def increments (r : CountReading key) (rest : List (CountReading key)) : List Int :=
  List.zipWith (fun old new => new.count - old.count) (r :: rest) rest

theorem increments_nil (r : CountReading key) : r.increments [] = [] :=
  rfl

theorem increments_cons (r next : CountReading key) (rest : List (CountReading key)) :
    r.increments (next :: rest) = (next.count - r.count) :: next.increments rest :=
  rfl

theorem natAbs_count_le (r : CountReading key) : r.count.natAbs ≤ 2 ^ 53 := by
  have := r.nonneg
  have := r.le_bound
  omega

/-- What one reading shows more than another is a whole number that a double holds. -/
theorem natAbs_sub_le (a b : CountReading key) : (a.count - b.count).natAbs ≤ 2 ^ 53 := by
  have := a.nonneg
  have := a.le_bound
  have := b.nonneg
  have := b.le_bound
  omega

theorem exists_counted (r : CountReading key) :
    ∃ kind : SourceKind, kind.isRate = false ∧
      (⟨key, .int r.count, r.declared⟩ : Reading).counted? =
        some (kind, Double.ofWhole r.count) := by
  have hvalue : (Value.int r.count).finite? = some (.ofWhole r.count) :=
    Value.finite?_int.mpr (Double.ofInt?_ofWhole r.natAbs_count_le)
  rcases r.kind with hkind | hkind
  · exact ⟨.delta, rfl, Reading.counted?_eq_some.mpr ⟨hkind, hvalue, rfl⟩⟩
  · exact ⟨.pdelta, rfl, Reading.counted?_eq_some.mpr ⟨hkind, hvalue, rfl⟩⟩

/-- A reading is answered by zero, or by what comparing the samples says, and its sample is
recorded in any case. -/
theorem perform_request (r : CountReading key) (s : Store) :
    ∃ kind : SourceKind, kind.isRate = false ∧
      (r.request.perform s).1 =
        (match s.sample? key with
          | none => .ok (.value (.float .zero))
          | some old => (compareSamples key kind old r.sample).map fun x => .value (.float x)) ∧
      (r.request.perform s).2.sample? key = some r.sample := by
  obtain ⟨kind, hrate, hcounted⟩ := r.exists_counted
  have hperform := Reading.perform_counted hcounted r.clock s
  have hrequest : r.request.perform s =
      ((((⟨key, .int r.count, r.declared⟩ : Reading).call r.now).perform s).1.map .value,
        (((⟨key, .int r.count, r.declared⟩ : Reading).call r.now).perform s).2) := rfl
  refine ⟨kind, hrate, ?_, ?_⟩
  · rw [hrequest, hperform, Reading.compared?, hcounted, Option.isSome_some, if_pos rfl]
    cases s.sample? key with
    | none => rfl
    | some old =>
      dsimp only [sample]
      cases compareSamples key kind old ⟨.ofWhole r.count, r.second⟩ <;> rfl
  · rw [hrequest, hperform]
    exact Table.get?_put_self _ _ _

/-- **The first reading reports zero.** -/
theorem perform_unseen (r : CountReading key) {s : Store} (hs : s.sample? key = none) :
    (r.request.perform s).1 = .ok (.value (.float .zero)) ∧
      (r.request.perform s).2.sample? key = some r.sample := by
  obtain ⟨kind, -, hanswer, hsample⟩ := r.perform_request s
  rw [hs] at hanswer
  exact ⟨hanswer, hsample⟩

/-- **A later reading reports the exact increment.** -/
theorem perform_seen {old new : CountReading key} (h : old.Precedes new) {s : Store}
    (hs : s.sample? key = some old.sample) :
    (new.request.perform s).1 = .ok (.value (.float (.ofWhole (new.count - old.count)))) ∧
      (new.request.perform s).2.sample? key = some new.sample := by
  obtain ⟨kind, hrate, hanswer, hsample⟩ := new.perform_request s
  obtain ⟨hlater, hle⟩ := h
  have hbound := natAbs_sub_le new old
  have hchange : new.sample.value.sub old.sample.value = .ofWhole (new.count - old.count) :=
    Double.ofWhole_sub new.natAbs_count_le old.natAbs_count_le hbound
  have hup : (Double.ofWhole (new.count - old.count)).less .zero = false := by
    rw [Double.ofWhole_less_zero hbound, decide_eq_false_iff_not]
    omega
  have hcompare : compareSamples key kind old.sample new.sample =
      .ok (.ofWhole (new.count - old.count)) := by
    rw [compareSamples_eq_ok, hchange, hrate]
    exact ⟨Ne.symm (Int.ne_of_lt hlater), hup, rfl⟩
  rw [hs] at hanswer
  dsimp only at hanswer
  rw [hcompare] at hanswer
  exact ⟨hanswer, hsample⟩

/-! ## Runs of readings -/

/-- Answers to the readings after one whose sample the store has, whatever else is asked. -/
theorem answersAt_seen {old : CountReading key} {rest : List (CountReading key)}
    (hchain : (old :: rest).IsChain Precedes) {s : Store} (hs : s.sample? key = some old.sample)
    {requests : List StoreRequest}
    (hrequests : requests.filter (·.key? = some key) = rest.map request) :
    answersAt key s requests =
      (old.increments rest).map fun n => .ok (.value (.float (.ofWhole n))) := by
  induction requests generalizing s old rest with
  | nil =>
    rw [List.map_eq_nil_iff.mp hrequests.symm]
    rfl
  | cons q more ih =>
    rw [answersAt_cons]
    by_cases hkey : q.key? = some key
    · rw [List.filter_cons_of_pos (by simpa using hkey)] at hrequests
      rw [if_pos hkey]
      cases rest with
      | nil => cases hrequests
      | cons new rest =>
        obtain ⟨rfl, hmore⟩ := List.cons_eq_cons.mp hrequests
        obtain ⟨hstep, hchain⟩ := List.isChain_cons_cons.mp hchain
        obtain ⟨hanswer, hsample⟩ := perform_seen hstep hs
        rw [hanswer, ih hchain hsample hmore, increments_cons, List.map_cons]
    · rw [List.filter_cons_of_neg (by simpa using hkey)] at hrequests
      rw [if_neg hkey]
      exact ih hchain ((StoreRequest.sample?_perform hkey s).trans hs) hrequests

/-- Answers to all readings of a counter that the store has no sample of. -/
theorem answersAt_unseen {first : CountReading key} {rest : List (CountReading key)}
    (hchain : (first :: rest).IsChain Precedes) {s : Store} (hs : s.sample? key = none)
    {requests : List StoreRequest}
    (hrequests : requests.filter (·.key? = some key) = (first :: rest).map request) :
    answersAt key s requests =
      (0 :: first.increments rest).map fun n => .ok (.value (.float (.ofWhole n))) := by
  induction requests generalizing s with
  | nil => cases hrequests
  | cons q more ih =>
    rw [answersAt_cons]
    by_cases hkey : q.key? = some key
    · rw [List.filter_cons_of_pos (by simpa using hkey)] at hrequests
      obtain ⟨rfl, hmore⟩ := List.cons_eq_cons.mp hrequests
      obtain ⟨hanswer, hsample⟩ := first.perform_unseen hs
      rw [if_pos hkey, hanswer, answersAt_seen hchain hsample hmore, List.map_cons,
        Double.ofWhole_zero]
    · rw [List.filter_cons_of_neg (by simpa using hkey)] at hrequests
      rw [if_neg hkey]
      exact ih ((StoreRequest.sample?_perform hkey s).trans hs) hrequests

/-! ## Sums of increments -/

theorem natAbs_le_of_mem_increments {r : CountReading key} {rest : List (CountReading key)}
    {n : Int} (hn : n ∈ r.increments rest) : n.natAbs ≤ 2 ^ 53 := by
  induction rest generalizing r with
  | nil => cases hn
  | cons next rest ih =>
    rw [increments_cons, List.mem_cons] at hn
    rcases hn with rfl | hn
    · exact natAbs_sub_le next r
    · exact ih hn

/-- **The increments add up**, one after the other, to all that the counter has grown since a
reading before. -/
theorem foldl_add_increments (base r : CountReading key) (rest : List (CountReading key)) :
    ((r.increments rest).map Double.ofWhole).foldl Double.add (.ofWhole (r.count - base.count)) =
      .ofWhole (((r :: rest).getLast (List.cons_ne_nil _ _)).count - base.count) := by
  induction rest generalizing r with
  | nil => rw [increments_nil, List.map_nil, List.foldl_nil, List.getLast_singleton]
  | cons next rest ih =>
    have hsum : r.count - base.count + (next.count - r.count) = next.count - base.count := by omega
    have hadd := Double.ofWhole_add (natAbs_sub_le r base) (natAbs_sub_le next r)
      (hsum ▸ natAbs_sub_le next base)
    rw [increments_cons, List.map_cons, List.foldl_cons, hadd, hsum, ih,
      List.getLast_cons (List.cons_ne_nil _ _)]

end CountReading

open CountReading in
/-- **Deltas account for every increment.**  A counter that the store has no sample of is read at
later and later seconds, shows whole numbers up to `2 ^ 53` that never fall, and is declared as a
delta of either sort each time; between the readings anything may be asked about other keys, and
may fail.  Then every reading is answered: the first one by zero, and every later one by exactly
what it shows more than the one before.  Added up in their order, the answers are exactly what the
last reading shows more than the first. -/
theorem increments_accounted {key : String} {first : CountReading key}
    {rest : List (CountReading key)} (hchain : (first :: rest).IsChain Precedes) {s : Store}
    (hnew : s.sample? key = none) {requests : List StoreRequest}
    (hrequests : requests.filter (·.key? = some key) = (first :: rest).map request) :
    let changes := 0 :: first.increments rest
    let growth := ((first :: rest).getLast (List.cons_ne_nil _ _)).count - first.count
    answersAt key s requests = changes.map (fun n => .ok (.value (.float (.ofWhole n)))) ∧
      (∀ n ∈ changes, (Double.ofWhole n).units? = some (n * Double.unitsPerOne)) ∧
      (changes.map Double.ofWhole).foldl Double.add .zero = .ofWhole growth ∧
      (Double.ofWhole growth).units? = some (growth * Double.unitsPerOne) := by
  intro changes growth
  refine ⟨answersAt_unseen hchain hnew hrequests, fun n hn => ?_, ?_, ?_⟩
  · rcases List.mem_cons.mp hn with rfl | hn
    · exact Double.units?_ofWhole (by decide)
    · exact Double.units?_ofWhole (natAbs_le_of_mem_increments hn)
  · have hsum := foldl_add_increments first first rest
    have hzero : Double.zero.add .zero = .zero := rfl
    rw [Int.sub_self, Double.ofWhole_zero] at hsum
    rw [List.map_cons, List.foldl_cons, Double.ofWhole_zero, hzero, hsum]
  · exact Double.units?_ofWhole (natAbs_sub_le _ first)

/-! ### A counter that comes to the bound -/

namespace Growing

/-- A counter at zero. -/
def first : CountReading "k" where
  now := .ofWhole 1000
  second := 1000
  clock := by decide +kernel
  count := 0
  nonneg := by decide
  le_bound := by decide
  declared := .kind .delta
  kind := .inl rfl

/-- The counter just below the bound, a second later. -/
def second : CountReading "k" where
  now := .ofWhole 1001
  second := 1001
  clock := by decide +kernel
  count := 9007199254740991
  nonneg := by decide
  le_bound := by decide
  declared := .text "pdelta"
  kind := .inr rfl

/-- The counter at the bound. -/
def third : CountReading "k" where
  now := .ofWhole 2000
  second := 2000
  clock := by decide +kernel
  count := 9007199254740992
  nonneg := by decide
  le_bound := by decide
  declared := .kind .delta
  kind := .inl rfl

/-- The readings, with another key set, removed and read while the clock shows no number. -/
def requests : List StoreRequest := [
  .set (.ofWhole 990) "j" (.int 3),
  first.request,
  .compute (.ofWhole 1000) "j" (.int 2) (.kind .rate),
  .delete "j",
  second.request,
  .compute .nan "j" (.int 5) (.kind .delta),
  .snapshot,
  third.request]

theorem chain : [first, second, third].IsChain CountReading.Precedes := by
  rw [List.isChain_cons_cons, List.isChain_cons_cons]
  unfold CountReading.Precedes
  exact ⟨by decide, by decide, List.IsChain.singleton third⟩

end Growing

open Growing in
theorem increments_accounted_growing :
    [first, second, third].IsChain CountReading.Precedes ∧ Store.empty.sample? "k" = none ∧
      requests.filter (·.key? = some "k") = [first, second, third].map CountReading.request ∧
      answersAt "k" .empty requests = [.ok (.value (.float (.ofWhole 0))),
        .ok (.value (.float (.ofWhole 9007199254740991))), .ok (.value (.float (.ofWhole 1)))] :=
  have hrequests : requests.filter (·.key? = some "k") =
      [first, second, third].map CountReading.request := rfl
  ⟨chain, rfl, hrequests, (increments_accounted chain rfl hrequests).1⟩

end Baseline
