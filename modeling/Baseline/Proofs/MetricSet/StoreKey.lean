import Baseline.MetricSet.Basic
import Baseline.Proofs.MetricSet.Attribute

/-!
# What a store key tells about its metric set

A store key joins the attributes of a metric set and the name of a metric by two separators.
Nothing marks a separator that stands within a key, a value or a name, so that a store key can be
cut in several ways.  It can be cut in one way only where no part begins a separator.

* `Attribute.Separable` : the texts of an attribute begin no separator.
* `MetricSet.storeKey_ofTexts` : a set of attributes that are texts has a key for every metric.
* `storeKey_shared` : two sets with different attributes may have the same keys.
* `storeKey_eq_iff` : **but sets with separable attributes have the same key exactly when their
  attributes are the same up to order, and the metric is.**
-/

set_option autoImplicit false

namespace Baseline

/-! ## Cutting at a doubled character -/

/-- A doubled character stands in a text, or begins with its last character. -/
def BeginsDouble (c : Char) (cs : List Char) : Prop := [c, c] <:+: cs ++ [c]

instance (c : Char) (cs : List Char) : Decidable (BeginsDouble c cs) :=
  inferInstanceAs (Decidable ([c, c] <:+: cs ++ [c]))

/-- Where a text begins no doubled character, one that follows some end of it follows all of it. -/
theorem eq_nil_of_not_beginsDouble {c : Char} {x more rest rest' : List Char}
    (hx : ¬ BeginsDouble c (x ++ more)) (h : c :: c :: rest = more ++ c :: c :: rest') :
    more = [] := by
  cases more with
  | nil => rfl
  | cons d more =>
    exfalso
    rw [List.cons_append, List.cons.injEq] at h
    obtain ⟨rfl, h⟩ := h
    cases more with
    | nil => exact hx ⟨x, [], by simp⟩
    | cons e more =>
      rw [List.cons_append, List.cons.injEq] at h
      obtain ⟨rfl, _⟩ := h
      exact hx ⟨x, more ++ [c], by simp⟩

/-- **A text is cut in one way** at the doubled character after a part that begins none. -/
theorem eq_of_append_double {c : Char} {x y rest rest' : List Char} (hx : ¬ BeginsDouble c x)
    (hy : ¬ BeginsDouble c y) (h : x ++ c :: c :: rest = y ++ c :: c :: rest') :
    x = y ∧ rest = rest' := by
  rcases List.append_eq_append_iff.mp h with ⟨more, rfl, hrest⟩ | ⟨more, rfl, hrest⟩
  · obtain rfl := eq_nil_of_not_beginsDouble hy hrest
    simpa using h
  · obtain rfl := eq_nil_of_not_beginsDouble hx hrest
    simpa using h

/-! ## Parts of a store key -/

namespace Attribute

/-- The part of a store key that stands for a pair of texts. -/
def part (p : String × String) : String := p.1 ++ "==" ++ p.2

theorem namespaced_ofTexts (p : String × String) : (ofTexts p).namespaced = .ok (part p) := rfl

theorem toList_part (p : String × String) :
    (part p).toList = p.1.toList ++ '=' :: '=' :: p.2.toList := by
  simp [part]

/-- The key of an attribute begins no `==`, and both texts together begin no `::`. -/
structure Separable (p : String × String) : Prop where
  key : ¬ BeginsDouble '=' p.1.toList
  whole : ¬ BeginsDouble ':' (part p).toList

instance (p : String × String) : Decidable (Separable p) :=
  decidable_of_iff (¬ BeginsDouble '=' p.1.toList ∧ ¬ BeginsDouble ':' (part p).toList)
    ⟨fun h => ⟨h.1, h.2⟩, fun h => ⟨h.key, h.whole⟩⟩

/-- **The part tells the attribute.** -/
theorem Separable.eq_of_part {p q : String × String} (hp : Separable p) (hq : Separable q)
    (h : (part p).toList = (part q).toList) : p = q := by
  rw [toList_part, toList_part] at h
  obtain ⟨hkey, hvalue⟩ := eq_of_append_double hp.key hq.key h
  exact Prod.ext (String.toList_inj.mp hkey) (String.toList_inj.mp hvalue)

end Attribute

namespace MetricSet

open Attribute

/-- The store key of a metric, given the attributes in order. -/
def joined (ps : List (String × String)) (name : String) : String :=
  String.intercalate namespaceSeparator (ps.map part ++ [name])

theorem toList_joined_nil (name : String) : (joined [] name).toList = name.toList := by
  simp [joined]

theorem toList_joined_cons (p : String × String) (ps : List (String × String)) (name : String) :
    (joined (p :: ps) name).toList = (part p).toList ++ ':' :: ':' :: (joined ps name).toList := by
  unfold joined
  rw [String.toList_intercalate, String.toList_intercalate]
  cases ps <;> simp [namespaceSeparator, List.intercalate]

theorem namespaces_ofTexts (ps : List (String × String)) :
    (ps.map ofTexts).mapM namespaced = .ok (ps.map part) := by
  induction ps with
  | nil => rfl
  | cons p rest ih =>
    rw [List.map_cons, List.mapM_cons, ih, namespaced_ofTexts]
    rfl

/-- **A set of attributes that are texts can be made, and has a key for every metric**: its
attributes in order, and the name. -/
theorem storeKey_ofTexts (event : String) (ps : List (String × String)) :
    ∃ m, ∃ qs : List (String × String), sorted (ps.map ofTexts) = .ok (qs.map ofTexts) ∧
      qs.Perm ps ∧ make event (ps.map ofTexts) = .ok m ∧
      ∀ name, m.storeKey name = .ok (joined qs name) := by
  obtain ⟨qs, hsorted, hperm, _⟩ := sorted_ofTexts ps
  have hmake : ∃ m, make event (ps.map ofTexts) = .ok m ∧ m.attributes = qs.map ofTexts := by
    rw [make, hsorted]
    exact ⟨_, rfl, rfl⟩
  obtain ⟨m, hmake, hattributes⟩ := hmake
  refine ⟨m, qs, hsorted, hperm, hmake, fun name => ?_⟩
  rw [storeKey, hattributes, namespaces_ofTexts]
  rfl

theorem suffix_joined (ps : List (String × String)) (name : String) :
    name.toList <:+ (joined ps name).toList := by
  induction ps with
  | nil => simpa only [toList_joined_nil] using List.suffix_refl name.toList
  | cons p rest ih =>
    rw [toList_joined_cons]
    exact ((ih.trans (List.suffix_cons _ _)).trans (List.suffix_cons _ _)).trans
      (List.suffix_append _ _)

/-- A name alone is no store key with attributes that ends in the same name, nor any other in which
no separator stands. -/
theorem joined_cons_ne {p : String × String} {ps : List (String × String)} {name name' : String}
    (hname : name = name' ∨ ¬ [':', ':'] <:+: name.toList) :
    (joined (p :: ps) name').toList ≠ name.toList := by
  intro h
  rw [toList_joined_cons] at h
  rcases hname with rfl | hname
  · have hlength := congrArg List.length h
    have hsuffix := (suffix_joined ps name).length_le
    simp only [List.length_append, List.length_cons] at hlength
    omega
  · exact hname (h ▸ ⟨(part p).toList, (joined ps name').toList, by simp⟩)

/-- **A store key is cut in one way** into separable attributes and a name, if it is the same name
or if no separator stands in the names. -/
theorem eq_of_joined_eq {ps qs : List (String × String)} (hps : ∀ p ∈ ps, Separable p)
    (hqs : ∀ q ∈ qs, Separable q) {name name' : String}
    (hnames : name = name' ∨ ¬ [':', ':'] <:+: name.toList ∧ ¬ [':', ':'] <:+: name'.toList)
    (h : (joined ps name).toList = (joined qs name').toList) : ps = qs ∧ name = name' := by
  induction ps generalizing qs with
  | nil =>
    cases qs with
    | nil =>
      rw [toList_joined_nil, toList_joined_nil] at h
      exact ⟨rfl, String.toList_inj.mp h⟩
    | cons q qs =>
      rw [toList_joined_nil] at h
      exact absurd h.symm (joined_cons_ne (hnames.imp id And.left))
  | cons p ps ih =>
    cases qs with
    | nil =>
      rw [toList_joined_nil] at h
      exact absurd h (joined_cons_ne (hnames.imp Eq.symm And.right))
    | cons q qs =>
      rw [toList_joined_cons, toList_joined_cons] at h
      obtain ⟨hpart, hrest⟩ := eq_of_append_double (hps p List.mem_cons_self).whole
        (hqs q List.mem_cons_self).whole h
      obtain ⟨rfl, hname⟩ := ih (fun r hr => hps r (List.mem_cons_of_mem _ hr))
        (fun r hr => hqs r (List.mem_cons_of_mem _ hr)) hrest
      rw [(hps p List.mem_cons_self).eq_of_part (hqs q List.mem_cons_self) hpart]
      exact ⟨rfl, hname⟩

end MetricSet

open Attribute MetricSet

/-! ## Sets that share a key -/

/-- **Two sets with different attributes share a key**: the value `1::b==2` of one attribute reads
as the value `1` and a second attribute. -/
theorem storeKey_shared :
    ∃ m m' key, make "S" ([("a", "1::b==2")].map ofTexts) = .ok m ∧
      make "S" ([("a", "1"), ("b", "2")].map ofTexts) = .ok m' ∧
      m.storeKey "m" = .ok key ∧ m'.storeKey "m" = .ok key ∧
      ¬ [("a", "1::b==2")].Perm [("a", "1"), ("b", "2")] :=
  ⟨_, _, "a==1::b==2::m", rfl, rfl, by decide, by decide, by decide⟩

/-! ## Sets that share none -/

/-- **Sets with separable attributes have the same store key exactly when they have the same
attributes up to order, for the same metric.**  Both keys exist.  Where the names differ, no
separator may stand in them. -/
theorem storeKey_eq_iff {ps qs : List (String × String)} (hps : ∀ p ∈ ps, Separable p)
    (hqs : ∀ q ∈ qs, Separable q) {name name' : String}
    (hnames : name = name' ∨ ¬ [':', ':'] <:+: name.toList ∧ ¬ [':', ':'] <:+: name'.toList)
    (event event' : String) :
    ∃ m m' key key', make event (ps.map ofTexts) = .ok m ∧
      make event' (qs.map ofTexts) = .ok m' ∧
      m.storeKey name = .ok key ∧ m'.storeKey name' = .ok key' ∧
      (key = key' ↔ ps.Perm qs ∧ name = name') := by
  obtain ⟨m, ps', hsorted, hperm, hmake, hkey⟩ := storeKey_ofTexts event ps
  obtain ⟨m', qs', hsorted', hperm', hmake', hkey'⟩ := storeKey_ofTexts event' qs
  refine ⟨m, m', _, _, hmake, hmake', hkey name, hkey' name', ?_⟩
  constructor
  · intro h
    obtain ⟨rfl, hname⟩ := eq_of_joined_eq (fun p hp => hps p (hperm.mem_iff.mp hp))
      (fun q hq => hqs q (hperm'.mem_iff.mp hq)) hnames (congrArg String.toList h)
    exact ⟨hperm.symm.trans hperm', hname⟩
  · rintro ⟨h, rfl⟩
    have hsame : ps'.map ofTexts = qs'.map ofTexts := by
      rw [sorted_eq_of_perm h, hsorted', Except.ok.injEq] at hsorted
      exact hsorted.symm
    rw [List.map_injective_iff.mpr ofTexts_injective hsame]

/-! ### Two ports of one host -/

namespace TwoPorts

/-- The attributes of two instances on one host. -/
def first : List (String × String) := [("port", "6379"), ("host", "fe80:1")]
def second : List (String × String) := [("host", "fe80:1"), ("port", "6380")]

theorem separable : ∀ p ∈ first ++ second, Separable p := by decide +kernel

end TwoPorts

open TwoPorts in
theorem storeKey_eq_iff_twoPorts :
    (∀ p ∈ first, Separable p) ∧ (∀ q ∈ second, Separable q) ∧
      ("net.rx" = "net.tx" ∨
        ¬ [':', ':'] <:+: "net.rx".toList ∧ ¬ [':', ':'] <:+: "net.tx".toList) ∧
      ∃ m m' key key', make "S" (first.map ofTexts) = .ok m ∧
        make "T" (second.map ofTexts) = .ok m' ∧
        m.storeKey "net.rx" = .ok key ∧ m'.storeKey "net.tx" = .ok key' ∧
        (key = key' ↔ first.Perm second ∧ "net.rx" = "net.tx") := by
  have hfirst : ∀ p ∈ first, Separable p := fun p hp =>
    separable p (List.mem_append_left _ hp)
  have hsecond : ∀ q ∈ second, Separable q := fun q hq =>
    separable q (List.mem_append_right _ hq)
  have hnames : "net.rx" = "net.tx" ∨
      ¬ [':', ':'] <:+: "net.rx".toList ∧ ¬ [':', ':'] <:+: "net.tx".toList := by decide +kernel
  exact ⟨hfirst, hsecond, hnames, storeKey_eq_iff hfirst hsecond hnames "S" "T"⟩

end Baseline
