import Mathlib.Data.List.Basic
import Baseline.Proofs.Store.Cleaning

/-!
# When two store files are one

The name of a store file joins the name of an integration and that of an instance by a hyphen.
Nothing marks a hyphen that stands within a name, so that a file name can be cut in several ways.

* `Path.join_eq_join_iff` : a path continued by two plain texts is the same only if these are.
* `append_hyphen_eq_iff` : **in which ways a text is cut at a hyphen.**
* `filePath_eq_iff` : **when two instances have one file, and when an instance has the file of an
  integration without instances.**
* `filePath_eq_iff_of_noHyphen` : names without hyphens share no file.
-/

set_option autoImplicit false

namespace Baseline

/-! ## Plain texts -/

namespace Path

/-- A text whose pieces between slashes all leave a trace in a path. -/
def IsPlain (s : String) : Prop :=
  ∀ piece ∈ splitSlashes [] s.toList, piece ≠ [] ∧ piece ≠ ['.']

instance (s : String) : Decidable (IsPlain s) :=
  inferInstanceAs (Decidable (∀ piece ∈ splitSlashes [] s.toList, _))

theorem splitSlashes_ne_nil (piece cs : List Char) : splitSlashes piece cs ≠ [] := by
  induction cs generalizing piece with
  | nil => simp [splitSlashes]
  | cons c rest ih =>
    rw [splitSlashes]
    split
    · simp
    · exact ih (c :: piece)

/-- The pieces of a text with slashes between them are the text. -/
theorem intercalate_splitSlashes (piece cs : List Char) :
    List.intercalate ['/'] (splitSlashes piece cs) = piece.reverse ++ cs := by
  induction cs generalizing piece with
  | nil => simp [splitSlashes, List.intercalate]
  | cons c rest ih =>
    rw [splitSlashes]
    split
    · rename_i hslash
      have hrest := ih []
      obtain ⟨first, more, hpieces⟩ := List.exists_cons_of_ne_nil (splitSlashes_ne_nil [] rest)
      rw [hpieces] at hrest ⊢
      simp only [List.intercalate, List.intersperse_cons_cons, List.flatten_cons] at hrest ⊢
      simp [hrest, hslash]
    · rw [ih]
      simp

/-- The pieces tell the text. -/
theorem eq_of_splitSlashes_eq {s s' : String}
    (h : splitSlashes [] s.toList = splitSlashes [] s'.toList) : s = s' := by
  have hjoined := congrArg (List.intercalate ['/']) h
  rw [intercalate_splitSlashes, intercalate_splitSlashes] at hjoined
  exact String.toList_inj.mp hjoined

variable {s s' : String}

theorem components_of_isPlain (h : IsPlain s) :
    components s = (splitSlashes [] s.toList).map String.ofList := by
  have hall : ∀ piece ∈ splitSlashes [] s.toList,
      decide (piece ≠ [] ∧ piece ≠ ['.']) = true := by
    intro piece hpiece
    exact decide_eq_true (h piece hpiece)
  rw [components, List.filter_eq_self.mpr hall]

theorem rootOf_of_isPlain (h : IsPlain s) : rootOf s = .relative := by
  -- a text that begins with a slash has an empty piece in front of it
  have hfirst : ∀ rest, s.toList ≠ '/' :: rest := by
    intro rest heq
    have hempty : [] ∈ splitSlashes [] s.toList := by
      rw [heq, splitSlashes, if_pos rfl]
      exact List.mem_cons_self
    exact (h [] hempty).1 rfl
  unfold rootOf
  split
  · rename_i heq
    exact absurd heq (hfirst _)
  · rename_i heq
    exact absurd heq (hfirst _)
  · rename_i heq
    exact absurd heq (hfirst _)
  · rfl

/-- **A path continued by two plain texts is the same only if these are.** -/
theorem join_eq_join_iff (p : Path) (h : IsPlain s) (h' : IsPlain s') :
    p.join s = p.join s' ↔ s = s' := by
  constructor
  · intro hjoin
    simp only [join, ofText, rootOf_of_isPlain h, rootOf_of_isPlain h', if_true, mk.injEq,
      List.append_cancel_left_eq, true_and] at hjoin
    rw [components_of_isPlain h, components_of_isPlain h'] at hjoin
    have hinjective : Function.Injective String.ofList := by
      intro cs ds heq
      simpa using congrArg String.toList heq
    exact eq_of_splitSlashes_eq (List.map_injective_iff.mpr hinjective hjoin)
  · rintro rfl
    rfl

end Path

/-! ## Cutting at a hyphen -/

/-- **In which ways a list is cut at a separator.** -/
theorem append_separator_eq_iff {α : Type} {c : α} {a b a' b' : List α} :
    a ++ c :: b = a' ++ c :: b' ↔
      (a = a' ∧ b = b') ∨ (∃ mid, a' = a ++ c :: mid ∧ b = mid ++ c :: b') ∨
        ∃ mid, a = a' ++ c :: mid ∧ b' = mid ++ c :: b := by
  constructor
  · intro h
    -- the shorter part is followed by the separator, up to which the other part goes or beyond
    rcases List.append_eq_append_iff.mp h with ⟨more, hmore, hrest⟩ | ⟨more, hmore, hrest⟩
    · cases more with
      | nil => exact Or.inl (by simpa [eq_comm] using And.intro hmore hrest)
      | cons d mid =>
        rw [List.cons_append, List.cons.injEq] at hrest
        obtain ⟨rfl, hrest⟩ := hrest
        exact Or.inr (Or.inl ⟨mid, hmore, hrest⟩)
    · cases more with
      | nil => exact Or.inl (by simpa [eq_comm] using And.intro hmore hrest)
      | cons d mid =>
        rw [List.cons_append, List.cons.injEq] at hrest
        obtain ⟨rfl, hrest⟩ := hrest
        exact Or.inr (Or.inr ⟨mid, hmore, hrest⟩)
  · rintro (⟨rfl, rfl⟩ | ⟨mid, rfl, rfl⟩ | ⟨mid, rfl, rfl⟩)
    · rfl
    · simp
    · simp

/-- The name of an integration and of an instance are cut from one text, but for the second pair at
a later hyphen than for the first one. -/
def CutsLater (first second : String × String) : Prop :=
  ∃ mid, second.1 = first.1 ++ "-" ++ mid ∧ first.2 = mid ++ "-" ++ second.2

theorem cutsLater_iff {first second : String × String} :
    CutsLater first second ↔ ∃ mid, second.1.toList = first.1.toList ++ '-' :: mid ∧
      first.2.toList = mid ++ '-' :: second.2.toList := by
  unfold CutsLater
  constructor
  · rintro ⟨mid, hname, hid⟩
    refine ⟨mid.toList, ?_, ?_⟩
    · simpa using congrArg String.toList hname
    · simpa using congrArg String.toList hid
  · rintro ⟨mid, hname, hid⟩
    refine ⟨String.ofList mid, String.toList_inj.mp ?_, String.toList_inj.mp ?_⟩
    · simpa using hname
    · simpa using hid

theorem append_hyphen_eq_iff (first second : String × String) :
    first.1 ++ "-" ++ first.2 = second.1 ++ "-" ++ second.2 ↔
      first = second ∨ CutsLater first second ∨ CutsLater second first := by
  have hlist : first.1 ++ "-" ++ first.2 = second.1 ++ "-" ++ second.2 ↔
      first.1.toList ++ '-' :: first.2.toList = second.1.toList ++ '-' :: second.2.toList := by
    rw [← String.toList_inj]
    simp
  have hpair : first = second ↔
      first.1.toList = second.1.toList ∧ first.2.toList = second.2.toList := by
    rw [String.toList_inj, String.toList_inj, Prod.ext_iff]
  rw [hlist, hpair, cutsLater_iff, cutsLater_iff, append_separator_eq_iff]

/-- A pair that is cut later has a name with a hyphen, and leaves one to the other instance. -/
theorem CutsLater.hyphens {first second : String × String} (h : CutsLater first second) :
    '-' ∈ second.1.toList ∧ '-' ∈ first.2.toList := by
  obtain ⟨mid, hname, hid⟩ := cutsLater_iff.mp h
  rw [hname, hid]
  simp

/-! ## Store files -/

theorem append_extension_inj {s s' : String} : s ++ ".json" = s' ++ ".json" ↔ s = s' := by
  rw [← String.toList_inj, String.toList_append, String.toList_append, List.append_left_inj,
    String.toList_inj]

namespace StoreLocation

theorem fileName_eq_iff {n id n' id' : String} :
    fileName n id = fileName n' id' ↔
      (n, id) = (n', id') ∨ CutsLater (n, id) (n', id') ∨ CutsLater (n', id') (n, id) := by
  rw [fileName, fileName, append_extension_inj]
  exact append_hyphen_eq_iff (n, id) (n', id')

end StoreLocation

theorem Surroundings.defaultPath_eq_ok {w : Surroundings} {name : String} {explicit : Option String}
    {p : Path} (h : w.defaultPath name explicit = .ok p) :
    p = (w.baseDirectory explicit).join (name ++ ".json") := by
  unfold defaultPath at h
  split at h
  · cases h
  · cases h
    rfl

/-- Two instances, and an integration without instances, may have one file. -/
theorem filePath_shared :
    ∃ l l' : StoreLocation,
      StoreLocation.make ⟨[], ⟨.root, ["tmp"]⟩⟩ "a-b" "c" (some "/base") (.int 60) = .ok l ∧
      StoreLocation.make ⟨[], ⟨.root, ["tmp"]⟩⟩ "a" "b-c" (some "/base") (.int 60) = .ok l' ∧
      l.filePath = l'.filePath ∧
      Surroundings.defaultPath ⟨[], ⟨.root, ["tmp"]⟩⟩ "a-b-c" (some "/base") = .ok l.filePath :=
  ⟨⟨⟨.root, ["base"]⟩, "a-b", "c", .int 60⟩, ⟨⟨.root, ["base"]⟩, "a", "b-c", .int 60⟩,
    rfl, rfl, rfl, rfl⟩

section Shared

variable {w : Surroundings} {n id n' id' m : String} {dir : Option String} {ttl ttl' : Value}
  {l l' : StoreLocation} {p : Path}

open StoreLocation

theorem filePath_eq_filePath_iff (hmake : make w n id dir ttl = .ok l)
    (hmake' : make w n' id' dir ttl' = .ok l') (hplain : Path.IsPlain (fileName n id))
    (hplain' : Path.IsPlain (fileName n' id')) :
    l.filePath = l'.filePath ↔
      (n, id) = (n', id') ∨ CutsLater (n, id) (n', id') ∨ CutsLater (n', id') (n, id) := by
  obtain rfl := make_eq_ok hmake
  obtain rfl := make_eq_ok hmake'
  rw [filePath, filePath, Path.join_eq_join_iff _ hplain hplain', fileName_eq_iff]

theorem filePath_eq_defaultPath_iff (hmake : make w n id dir ttl = .ok l)
    (hdefault : w.defaultPath m dir = .ok p) (hplain : Path.IsPlain (fileName n id))
    (hplainDefault : Path.IsPlain (m ++ ".json")) : l.filePath = p ↔ m = n ++ "-" ++ id := by
  obtain rfl := make_eq_ok hmake
  obtain rfl := Surroundings.defaultPath_eq_ok hdefault
  rw [filePath, Path.join_eq_join_iff _ hplain hplainDefault, fileName, append_extension_inj,
    eq_comm]

/-- **When two store files are one.**  In one base directory, two instances have one file exactly
when they are the same, or when the name of one integration continues that of the other after a
hyphen by what the other's instance begins with, and its own instance is the rest of that after a
hyphen.  An instance has the file of an integration without instances exactly when the name of that
is made of its own name, a hyphen and its instance. -/
theorem filePath_eq_iff (hmake : make w n id dir ttl = .ok l)
    (hmake' : make w n' id' dir ttl' = .ok l') (hdefault : w.defaultPath m dir = .ok p)
    (hplain : Path.IsPlain (fileName n id)) (hplain' : Path.IsPlain (fileName n' id'))
    (hplainDefault : Path.IsPlain (m ++ ".json")) :
    (l.filePath = l'.filePath ↔
        (n, id) = (n', id') ∨ CutsLater (n, id) (n', id') ∨ CutsLater (n', id') (n, id)) ∧
      (l.filePath = p ↔ m = n ++ "-" ++ id) :=
  ⟨filePath_eq_filePath_iff hmake hmake' hplain hplain',
    filePath_eq_defaultPath_iff hmake hdefault hplain hplainDefault⟩

/-- **Integrations with names without hyphens share no file**: neither do two instances, nor an
instance and an integration without instances. -/
theorem filePath_eq_iff_of_noHyphen (hmake : make w n id dir ttl = .ok l)
    (hmake' : make w n' id' dir ttl' = .ok l') (hdefault : w.defaultPath m dir = .ok p)
    (hplain : Path.IsPlain (fileName n id)) (hplain' : Path.IsPlain (fileName n' id'))
    (hplainDefault : Path.IsPlain (m ++ ".json")) (hn : '-' ∉ n.toList) (hn' : '-' ∉ n'.toList)
    (hm : '-' ∉ m.toList) :
    (l.filePath = l'.filePath ↔ (n, id) = (n', id')) ∧ l.filePath ≠ p := by
  constructor
  · rw [filePath_eq_filePath_iff hmake hmake' hplain hplain']
    constructor
    · rintro (heq | hlater | hlater)
      · exact heq
      · exact absurd hlater.hyphens.1 hn'
      · exact absurd hlater.hyphens.1 hn
    · exact Or.inl
  · rw [Ne, filePath_eq_defaultPath_iff hmake hdefault hplain hplainDefault]
    rintro rfl
    apply hm
    simp

end Shared

open TwoIntegrations in
theorem filePath_eq_iff_cluster :
    StoreLocation.make surroundings "redis" "a" (some "/base") (.int 60) = .ok redis ∧
      StoreLocation.make surroundings "redis-cluster" "b" (some "/base") (.int 86400) =
        .ok cluster ∧
      surroundings.defaultPath "redis-cluster" (some "/base") = .ok clusterPath ∧
      Path.IsPlain (StoreLocation.fileName "redis" "a") ∧
      Path.IsPlain (StoreLocation.fileName "redis-cluster" "b") ∧
      Path.IsPlain ("redis-cluster" ++ ".json") ∧
      redis.filePath ≠ cluster.filePath ∧ redis.filePath ≠ clusterPath := by
  have hplain : Path.IsPlain (StoreLocation.fileName "redis" "a") := by decide
  have hplain' : Path.IsPlain (StoreLocation.fileName "redis-cluster" "b") := by decide
  have hplainDefault : Path.IsPlain ("redis-cluster" ++ ".json") := by decide
  obtain ⟨hinstances, hdefault⟩ := filePath_eq_iff make_redis make_cluster defaultPath_cluster
    hplain hplain' hplainDefault
  refine ⟨make_redis, make_cluster, defaultPath_cluster, hplain, hplain', hplainDefault, ?_, ?_⟩
  · rw [Ne, hinstances]
    rintro (heq | hlater | hlater)
    · exact absurd heq (by decide)
    · have hhyphen := hlater.hyphens.2
      exact absurd hhyphen (by decide)
    · have hhyphen := hlater.hyphens.1
      exact absurd hhyphen (by decide)
  · rw [Ne, hdefault]
    decide

end Baseline
