import Baseline.Proofs.MetricSet.Interleaving
import Baseline.Proofs.MetricSet.StoreKey

/-!
# The order of the attributes

The attributes of a set are sorted before anything is made of them.  Where a key is repeated, all
its values enter the store keys, and the greatest one is reported, wherever it was given.

* `MetricSet.get?_report` : **of several values of one key the greatest one is reported.**
* `MetricSet.Identifies` : what a set reports of its attributes, told without their order.
* `MetricSet.trace` : what a sequence of calls shows.
* `attributes_perm` : **sets with the same attributes in different orders report the same, have the
  same store keys, and cannot be told apart by any sequence of calls.**
-/

set_option autoImplicit false

namespace Baseline

open Attribute

namespace MetricSet

/-! ## What is reported of attributes -/

/-- The metrics of an event with attributes, given in the order in which they are reported. -/
def report (event : String) (ps : List (String × String)) : Table Value :=
  ps.foldl (fun t p => t.put p.1 (.text p.2)) [(eventTypeKey, .text event)]

/-- A value of a key, and the greatest one. -/
def GreatestAt (key value : String) (ps : List (String × String)) : Prop :=
  (key, value) ∈ ps ∧ ∀ p ∈ ps, p.1 = key → p.2 ≤ value

theorem report_concat (event : String) (ps : List (String × String)) (p : String × String) :
    report event (ps ++ [p]) = (report event ps).put p.1 (.text p.2) := by
  rw [report, List.foldl_append]
  rfl

/-- **Of several values of one key the greatest one is reported**, where they come in order: it is
the one that is written last. -/
theorem get?_report {event key value : String} {ps : List (String × String)}
    (hordered : ps.Pairwise AtMost) (h : GreatestAt key value ps) :
    (report event ps).get? key = some (.text value) := by
  induction ps using List.reverseRecOn with
  | nil => cases h.1
  | append_singleton before p ih =>
    obtain ⟨hmem, hgreatest⟩ := h
    rw [report_concat]
    obtain ⟨hbefore, -, hlast⟩ := List.pairwise_append.mp hordered
    by_cases hkey : p.1 = key
    · have hle : p.2 ≤ value := hgreatest p (by simp) hkey
      have hge : value ≤ p.2 := by
        rcases List.mem_append.mp hmem with hmem | hmem
        · have hlex : AtMost (key, value) p := hlast _ hmem p (List.mem_singleton_self p)
          rcases Prod.Lex.toLex_le_toLex.mp hlex with hless | ⟨-, hvalue⟩
          · exact absurd hkey.symm hless.ne
          · exact hvalue
        · rw [← List.mem_singleton.mp hmem]
      rw [← hkey, Table.get?_put_self, le_antisymm hle hge]
    · have hmem : (key, value) ∈ before := by
        rcases List.mem_append.mp hmem with hmem | hmem
        · exact hmem
        · exact absurd (congrArg Prod.fst (List.mem_singleton.mp hmem)).symm hkey
      rw [Table.get?_put_of_ne (Ne.symm hkey)]
      exact ih hbefore ⟨hmem, fun q hq => hgreatest q (List.mem_append_left _ hq)⟩

/-- Attributes leave the metrics under other names alone. -/
theorem get?_report_of_notMem {event key : String} {ps : List (String × String)}
    (h : key ∉ ps.map (·.1)) :
    (report event ps).get? key = if key = eventTypeKey then some (.text event) else none := by
  induction ps using List.reverseRecOn with
  | nil => simp only [report, List.foldl_nil, Table.get?, eq_comm]
  | append_singleton before p ih =>
    rw [List.map_append, List.mem_append, not_or] at h
    have hkey : key ≠ p.1 := fun heq => h.2 (List.mem_singleton.mpr heq)
    rw [report_concat, Table.get?_put_of_ne hkey]
    exact ih h.1

/-- What a set reports before anything was observed: the greatest value of every attribute key, and
the event, unless an attribute takes its place. -/
structure Identifies (event : String) (ps : List (String × String)) (metrics : Table Value) :
    Prop where
  attributes : ∀ key value, GreatestAt key value ps → metrics.get? key = some (.text value)
  event : eventTypeKey ∉ ps.map (·.1) → metrics.get? eventTypeKey = some (.text event)
  others : ∀ key, key ∉ ps.map (·.1) → key ≠ eventTypeKey → metrics.get? key = none

theorem identifies_report {event : String} {ps qs : List (String × String)}
    (hordered : ps.Pairwise AtMost) (hperm : ps.Perm qs) :
    Identifies event qs (report event ps) where
  attributes := by
    intro key value h
    exact get?_report hordered
      ⟨hperm.mem_iff.mpr h.1, fun p hp => h.2 p (hperm.mem_iff.mp hp)⟩
  event := by
    intro h
    rw [get?_report_of_notMem fun hmem => h ((hperm.map _).mem_iff.mp hmem), if_pos rfl]
  others := by
    intro key h hevent
    rw [get?_report_of_notMem fun hmem => h ((hperm.map _).mem_iff.mp hmem), if_neg hevent]

/-! ## Calls -/

/-- What a call shows: its result, and the metrics and the store after it. -/
structure Shown where
  result : Except Failure Unit
  metrics : Table Value
  store : Option Store

/-- What a sequence of calls shows, each made on the set and the store that the one before left. -/
def trace (store : Option Store) (m : MetricSet) : List MetricCall → List Shown
  | [] => []
  | c :: rest =>
    let step := m.setMetric c.now store c.name c.raw c.declared
    ⟨step.result, step.set.metrics, step.store⟩ :: trace step.store step.set rest

end MetricSet

open MetricSet

/-- **The order in which attributes are given never matters.**  Both sets can be made; they report
the same, which is the greatest value of every key; they have the same store key for every metric;
and with the same store and clock every sequence of calls shows the same on both. -/
theorem attributes_perm {ps qs : List (String × String)} (hperm : ps.Perm qs) (event : String) :
    ∃ m m', make event (ps.map ofTexts) = .ok m ∧ make event (qs.map ofTexts) = .ok m' ∧
      Identifies event ps m.metrics ∧ m.metrics = m'.metrics ∧
      (∀ name, ∃ key, m.storeKey name = .ok key ∧ m'.storeKey name = .ok key) ∧
      ∀ store calls, m.trace store calls = m'.trace store calls := by
  obtain ⟨ordered, hsorted, hordered⟩ := sorted_ofTexts ps
  obtain ⟨m, _, _, _, hmake, hkey⟩ := storeKey_ofTexts event ps
  have hmake' : make event (qs.map ofTexts) = .ok m := by
    rw [make, ← sorted_eq_of_perm hperm]
    exact hmake
  have hmetrics : m.metrics = report event ordered := by
    rw [make, hsorted] at hmake
    cases hmake
    exact List.foldl_map
  refine ⟨m, m, hmake, hmake', ?_, rfl, fun name => ⟨_, hkey name, hkey name⟩, fun _ _ => rfl⟩
  rw [hmetrics]
  exact identifies_report hordered.2 hordered.1

/-! ### A port that is given twice -/

namespace PortTwice

/-- The attributes of an instance, among them a key with two values and a pair that is repeated. -/
def given : List (String × String) :=
  [("port", "6380"), ("host", "db-1"), ("port", "6379"), ("host", "db-1")]

/-- The same attributes in another order. -/
def other : List (String × String) :=
  [("host", "db-1"), ("port", "6379"), ("host", "db-1"), ("port", "6380")]

theorem perm : given.Perm other := by decide

end PortTwice

open PortTwice in
theorem attributes_perm_portTwice :
    given.Perm other ∧
      ∃ m m', make "S" (given.map ofTexts) = .ok m ∧ make "S" (other.map ofTexts) = .ok m' ∧
        Identifies "S" given m.metrics ∧ m.metrics = m'.metrics ∧
        (∀ name, ∃ key, m.storeKey name = .ok key ∧ m'.storeKey name = .ok key) ∧
        ∀ store calls, m.trace store calls = m'.trace store calls :=
  ⟨perm, attributes_perm perm "S"⟩

end Baseline
