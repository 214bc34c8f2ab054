import Baseline.MetricSet.Attribute
import Mathlib.Data.List.Induction
import Mathlib.Data.Prod.Lex
import Mathlib.Data.String.Basic

/-!
# Sorting attributes

Attributes with different keys are in order by their keys alone.  An attribute whose value is a text
is a pair of texts, and such pairs are in order by their keys and then by their values.

* `Attribute.sorted_of_nodup` : **attributes with different keys can be sorted.**
* `Attribute.ofTexts` : the attribute of a pair of texts.
* `Attribute.before_ofTexts` : one comes before another as the pairs do.
* `Attribute.sorted_ofTexts` : **such attributes can be sorted: none is lost and none is added.**
* `Attribute.sorted_eq_of_perm` : **the order in which they are given does not matter.**
-/

set_option autoImplicit false

namespace Baseline.Attribute

/-! ## Different keys -/

/-- An attribute with a new key can be put among others, whatever their values are. -/
theorem insert_of_fresh {a : Attribute} {others : List Attribute}
    (h : ∀ b ∈ others, a.key ≠ b.key) :
    ∃ more, insert a others = .ok more ∧ more.Perm (a :: others) := by
  induction others with
  | nil => exact ⟨[a], rfl, .refl _⟩
  | cons b rest ih =>
    obtain ⟨tail, htail, hperm⟩ := ih fun c hc => h c (List.mem_cons_of_mem _ hc)
    rw [insert, before, if_neg (h b List.mem_cons_self), htail]
    by_cases hkey : a.key < b.key
    · exact ⟨a :: b :: rest, by rw [decide_eq_true hkey]; rfl, .refl _⟩
    · exact ⟨b :: tail, by rw [decide_eq_false hkey]; rfl, (hperm.cons b).trans (.swap a b rest)⟩

/-- **Attributes with different keys can be sorted: none is lost and none is added.** -/
theorem sorted_of_nodup {attributes : List Attribute} (h : (attributes.map (·.key)).Nodup) :
    ∃ ordered, sorted attributes = .ok ordered ∧ ordered.Perm attributes := by
  induction attributes using List.reverseRecOn with
  | nil => exact ⟨[], rfl, .refl _⟩
  | append_singleton before a ih =>
    rw [List.map_append, List.nodup_append] at h
    obtain ⟨hbefore, _, hfresh⟩ := h
    obtain ⟨ordered, hsorted, hperm⟩ := ih hbefore
    have hnew : ∀ b ∈ ordered, a.key ≠ b.key := fun b hb heq =>
      hfresh b.key (List.mem_map_of_mem (hperm.mem_iff.mp hb)) a.key (by simp) heq.symm
    obtain ⟨more, hinsert, hmore⟩ := insert_of_fresh hnew
    refine ⟨more, ?_, hmore.trans ((hperm.cons a).trans (List.perm_append_singleton a before).symm)⟩
    rw [sorted] at hsorted ⊢
    rw [List.foldlM_append, hsorted]
    exact (bind_pure _).trans hinsert

/-! ## Texts -/

/-- The attribute of a pair of texts. -/
def ofTexts (p : String × String) : Attribute := ⟨p.1, .text p.2⟩

theorem ofTexts_injective : Function.Injective ofTexts := by
  rintro ⟨key, value⟩ ⟨key', value'⟩ h
  cases h
  rfl

/-- Pairs of texts by their first text, and then by their second. -/
abbrev AtMost (p q : String × String) : Prop := toLex p ≤ toLex q

theorem before_ofTexts (p q : String × String) :
    (ofTexts p).before (ofTexts q) = .ok (decide (toLex p < toLex q)) := by
  have hlex : toLex p < toLex q ↔ p.1 < q.1 ∨ p.1 = q.1 ∧ p.2 < q.2 := Prod.Lex.toLex_lt_toLex
  have hequal : (ofTexts p).value.equal (ofTexts q).value = decide (p.2 = q.2) := by
    simp only [ofTexts, Value.equal, Value.text?]
    rw [Bool.eq_iff_iff, beq_iff_eq, decide_eq_true_iff, Option.some.injEq, eq_comm]
  have hless : Value.relates .less (ofTexts p).value (ofTexts q).value =
      .ok (decide (p.2 < q.2)) := by
    simp only [ofTexts, Value.relates, Value.relates.byText, Value.text?, Comparison.onOrdering,
      Except.ok.injEq]
    rw [Bool.eq_iff_iff, beq_iff_eq, decide_eq_true_iff]
    exact compare_lt_iff_lt
  rw [before, hequal, hless]
  by_cases hkey : p.1 = q.1
  · by_cases hvalue : p.2 = q.2
    · simp [ofTexts, hlex, hkey, hvalue]
    · simp [ofTexts, hlex, hkey, hvalue]
  · simp [ofTexts, hlex, hkey]

/-- Putting a pair among others loses none and keeps them in order. -/
theorem insert_ofTexts (p : String × String) (ps : List (String × String)) :
    ∃ qs : List (String × String), insert (ofTexts p) (ps.map ofTexts) = .ok (qs.map ofTexts) ∧
      qs.Perm (p :: ps) ∧ (ps.Pairwise AtMost → qs.Pairwise AtMost) := by
  induction ps with
  | nil => exact ⟨[p], rfl, .refl _, fun _ => List.pairwise_singleton _ _⟩
  | cons q rest ih =>
    by_cases hbefore : toLex p < toLex q
    · refine ⟨p :: q :: rest, ?_, .refl _, fun hsorted => ?_⟩
      · rw [List.map_cons, insert, before_ofTexts, decide_eq_true hbefore]
        rfl
      · refine hsorted.cons fun r hr => ?_
        rcases List.mem_cons.mp hr with rfl | hr
        · exact hbefore.le
        · exact hbefore.le.trans ((List.pairwise_cons.mp hsorted).1 r hr)
    · obtain ⟨qs, hinsert, hperm, hqs⟩ := ih
      refine ⟨q :: qs, ?_, (hperm.cons q).trans (.swap p q rest), fun hsorted => ?_⟩
      · rw [List.map_cons, insert, before_ofTexts, decide_eq_false hbefore, hinsert]
        rfl
      · obtain ⟨hq, hrest⟩ := List.pairwise_cons.mp hsorted
        refine (hqs hrest).cons fun r hr => ?_
        rcases List.mem_cons.mp (hperm.mem_iff.mp hr) with rfl | hr
        · exact not_lt.mp hbefore
        · exact hq r hr

/-- **Attributes that are texts can be sorted: none is lost and none is added.** -/
theorem sorted_ofTexts (ps : List (String × String)) :
    ∃ qs : List (String × String), sorted (ps.map ofTexts) = .ok (qs.map ofTexts) ∧
      qs.Perm ps ∧ qs.Pairwise AtMost := by
  -- what was put in so far is in order
  have hfold : ∀ done : List (String × String), done.Pairwise AtMost →
      ∃ qs : List (String × String),
        (ps.map ofTexts).foldlM (fun done a => insert a done) (done.map ofTexts) =
          .ok (qs.map ofTexts) ∧
        qs.Perm (ps ++ done) ∧ qs.Pairwise AtMost := by
    induction ps with
    | nil => exact fun done hdone => ⟨done, rfl, .refl _, hdone⟩
    | cons p rest ih =>
      intro done hdone
      obtain ⟨more, hinsert, hperm, hmore⟩ := insert_ofTexts p done
      obtain ⟨qs, hrest, hperm', hqs⟩ := ih more (hmore hdone)
      refine ⟨qs, ?_, ?_, hqs⟩
      · rw [List.map_cons, List.foldlM_cons, hinsert]
        exact hrest
      · exact hperm'.trans ((hperm.append_left rest).trans List.perm_middle)
  obtain ⟨qs, hsorted, hperm, hqs⟩ := hfold [] .nil
  exact ⟨qs, hsorted, by rwa [List.append_nil] at hperm, hqs⟩

/-- **The order in which attributes are given does not matter.** -/
theorem sorted_eq_of_perm {ps qs : List (String × String)} (h : ps.Perm qs) :
    sorted (ps.map ofTexts) = sorted (qs.map ofTexts) := by
  obtain ⟨ps', hps, hperm, hordered⟩ := sorted_ofTexts ps
  obtain ⟨qs', hqs, hperm', hordered'⟩ := sorted_ofTexts qs
  have heq : ps' = qs' :=
    List.Perm.eq_of_pairwise (fun p q _ _ hpq hqp => toLex.injective (le_antisymm hpq hqp))
      hordered hordered' (hperm.trans (h.trans hperm'.symm))
  rw [hps, hqs, heq]

end Baseline.Attribute
