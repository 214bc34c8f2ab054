import Baseline.Proofs.Settings.Entries
import Baseline.Yaml.Content

/-!
# Maps from YAML texts

* `Yaml.Node.scalarValue?_ne_map` : a scalar is never a map.
* `Yaml.load_of_node` : the value of a text, from its tokens and its node.
* `Yaml.distinct_of_load` : **a map that is read has distinct keys.**
-/

set_option autoImplicit false

namespace Baseline

namespace Yaml

variable {text : String} {es : Entries}

/-! ## Scalars -/

namespace Scalar

theorem bool_ne_map : Scalar.bool text ≠ .ok (.map es) := by
  intro h
  unfold Scalar.bool at h
  dsimp only at h
  split at h
  · cases h
  · split at h <;> cases h

theorem int_ne_map : Scalar.int text ≠ .ok (.map es) := by
  intro h
  unfold Scalar.int at h
  dsimp only at h
  split at h
  · cases h
  · obtain ⟨n, -, hn⟩ := bind_eq_ok h
    cases hn

theorem float_ne_map : Scalar.float text ≠ .ok (.map es) := by
  intro h
  unfold Scalar.float at h
  dsimp only at h
  split at h
  · cases h
  · obtain ⟨x, -, hx⟩ := bind_eq_ok h
    cases hx

theorem binary_ne_map : Scalar.binary text ≠ .ok (.map es) := by
  intro h
  unfold Scalar.binary at h
  split at h
  · split at h <;> cases h
  · cases h

theorem toValue_ne_map {t : Timestamp} : t.toValue ≠ .ok (.map es) := by
  intro h
  unfold Timestamp.toValue at h
  dsimp only at h
  split at h
  · obtain ⟨_, -, hdate⟩ := bind_eq_ok h
    cases hdate
  · obtain ⟨_, -, h⟩ := bind_eq_ok h
    obtain ⟨_, -, h⟩ := bind_eq_ok h
    obtain ⟨_, -, hmoment⟩ := bind_eq_ok h
    cases hmoment

theorem timestamp_ne_map : Scalar.timestamp text ≠ .ok (.map es) := by
  intro h
  unfold Scalar.timestamp at h
  split at h
  · exact toValue_ne_map h
  · cases h

end Scalar

namespace Node

/-- **A scalar is never a map.** -/
theorem scalarValue?_ne_map (n : Node) : n.scalarValue? ≠ some (.ok (.map es)) := by
  have hbind : ∀ {f : String → Except Fault Value}, (∀ text, f text ≠ .ok (.map es)) →
      n.scalarText.bind f ≠ .ok (.map es) := by
    intro f hf h
    obtain ⟨text, -, htext⟩ := bind_eq_ok h
    exact hf text htext
  have hmap : ∀ {f : String → Value}, (∀ text, f text ≠ .map es) →
      n.scalarText.map f ≠ .ok (.map es) := by
    intro f hf h
    cases htext : n.scalarText with
    | error e =>
      rw [htext] at h
      cases h
    | ok text =>
      rw [htext] at h
      exact hf text (Except.ok.inj h)
  intro h
  unfold scalarValue? at h
  split at h
  · exact hmap (fun _ hno => by cases hno) (Option.some.inj h)
  · exact hbind (fun _ => Scalar.bool_ne_map) (Option.some.inj h)
  · exact hbind (fun _ => Scalar.int_ne_map) (Option.some.inj h)
  · exact hbind (fun _ => Scalar.float_ne_map) (Option.some.inj h)
  · exact hbind (fun _ => Scalar.binary_ne_map) (Option.some.inj h)
  · have htime : n.timestamp = .ok (.map es) := Option.some.inj h
    obtain ⟨text, -, htime⟩ := bind_eq_ok htime
    split at htime
    · exact Scalar.timestamp_ne_map htime
    · cases htime
  · exact hmap (fun _ hno => by cases hno) (Option.some.inj h)
  all_goals cases h

/-! ## Mappings -/

/-- A mapping is written entry by entry. -/
theorem distinct_of_build {fuel depth : Nat} {n : Node} (h : n.build fuel depth = .ok (.map es)) :
    es.Distinct := by
  have hlist : ∀ {α : Type} {r : Built α} {f : α → Value},
      (∀ a, f a = .map es → es.Distinct) → r.map f = .ok (.map es) → es.Distinct := by
    intro α r f hf h
    cases r with
    | error e => cases h
    | ok a => exact hf a (Except.ok.inj h)
  cases fuel with
  | zero => cases h
  | succ fuel =>
    unfold build at h
    dsimp only at h
    split at h
    · rename_i found hfound
      cases found with
      | error f => cases h
      | ok v =>
        cases h
        exact absurd hfound (scalarValue?_ne_map _)
    · exact hlist (fun _ hno => by cases hno) h
    · exact hlist (fun _ hno => by cases hno) h
    · exact hlist (fun _ hno => by cases hno) h
    · refine hlist (fun rows hrows => ?_) h
      cases hrows
      exact Entries.distinct_ofList rows
    · exact hlist (fun _ hno => by cases hno) h
    · cases h

end Node

/-- The value of a text is that of the node that its tokens describe. -/
theorem load_of_node {c : Cut} {n : Node} {v : Value}
    (htokens : (characters text).map tokens = .ok c) (hnode : document c = .ok (some n))
    (hvalue : n.content = .ok v) (htruthy : v.isTruthy = true) : load text = .ok v := by
  cases hcs : characters text with
  | error f =>
    rw [hcs] at htokens
    cases htokens
  | ok cs =>
    rw [hcs] at htokens
    cases htokens
    unfold load
    rw [bind_of_ok hcs, bind_of_ok hnode]
    dsimp only
    rw [bind_of_ok hvalue, if_pos htruthy]
    rfl

/-- **A map that is read has distinct keys.** -/
theorem distinct_of_load (h : load text = .ok (.map es)) : es.Distinct := by
  unfold load at h
  obtain ⟨characters, -, h⟩ := bind_eq_ok h
  obtain ⟨document, -, h⟩ := bind_eq_ok h
  split at h
  · cases h
    exact List.Pairwise.nil
  · rename_i n
    obtain ⟨v, hv, h⟩ := bind_eq_ok h
    by_cases htruthy : v.isTruthy = true
    · rw [if_pos htruthy] at h
      cases h
      unfold Node.content at hv
      cases hbuilt : n.build (n.height + 1) 0 with
      | error e =>
        rw [hbuilt] at hv
        cases hv
      | ok w =>
        rw [hbuilt] at hv
        cases hv
        exact Node.distinct_of_build hbuilt
    · rw [if_neg htruthy] at h
      cases h
      exact List.Pairwise.nil

end Yaml

end Baseline
