import Mathlib.Data.String.Basic
import Baseline.Proofs.FileTree.Entries

/-!
# Patterns for the entries of a directory

* `Path.join_of_noSlash` : a path continued by a name without slashes.
* `Glob.selectors_of_noSlash` : a pattern without slashes selects among the entries of a directory.
* `Glob.matchesPieces_star_iff` : **what a pattern with one star matches.**
* `FileTree.glob_entries` : **which paths are found, and in which order.**
-/

set_option autoImplicit false

namespace Baseline

/-- Lists that differ at their ends only are in the order of these. -/
theorem compare_concat (front : List String) (c d : String) :
    compare (front ++ [c]) (front ++ [d]) = compare c d := by
  induction front with
  | nil =>
    rw [List.nil_append, List.nil_append, List.compare_cons_cons]
    cases compare c d <;> rfl
  | cons first rest ih =>
    rw [List.cons_append, List.cons_append, List.compare_cons_cons, ih, Std.compare_self]
    rfl

/-! ## Names without slashes -/

namespace Path

theorem splitSlashes_of_noSlash {cs : List Char} (h : '/' ∉ cs) (piece : List Char) :
    splitSlashes piece cs = [piece.reverse ++ cs] := by
  induction cs generalizing piece with
  | nil => rw [splitSlashes, List.append_nil]
  | cons c rest ih =>
    rw [List.mem_cons, not_or] at h
    rw [splitSlashes, if_neg (Ne.symm h.1), ih h.2, List.reverse_cons, List.append_assoc]
    rfl

theorem components_of_noSlash {s : String} (h : '/' ∉ s.toList) (hempty : s ≠ "")
    (hdot : s ≠ ".") : components s = [s] := by
  have hne : s.toList ≠ [] := fun heq => hempty (String.toList_inj.mp heq)
  have hnotDot : s.toList ≠ ['.'] := fun heq => hdot (String.toList_inj.mp heq)
  rw [components, splitSlashes_of_noSlash h]
  simp [hne, hnotDot]

theorem rootOf_of_noSlash {s : String} (h : '/' ∉ s.toList) : rootOf s = .relative := by
  unfold rootOf
  split
  · rename_i heq
    exact absurd (heq ▸ List.mem_cons_self) h
  · rename_i heq
    exact absurd (heq ▸ List.mem_cons_self) h
  · rename_i heq
    exact absurd (heq ▸ List.mem_cons_self) h
  · rfl

/-- **A path continued by a name without slashes is the path of an entry.** -/
theorem join_of_noSlash (p : Path) {s : String} (h : '/' ∉ s.toList) (hempty : s ≠ "")
    (hdot : s ≠ ".") : p.join s = p.child s := by
  simp only [join, ofText, rootOf_of_noSlash h, components_of_noSlash h hempty hdot, if_true]
  rfl

end Path

namespace Glob

/-! ## Patterns of one component -/

/-- A pattern without slashes selects among the entries of a directory. -/
theorem selectors_of_noSlash {pattern : String} (h : '/' ∉ pattern.toList)
    (hempty : pattern ≠ "") (hdot : pattern ≠ ".") (hdeep : pattern ≠ "**")
    (hstars : hasDoubleStar pattern.toList = false) (hwild : isWild pattern = true) :
    selectors pattern = .ok [.matching (pieces pattern.toList)] := by
  have hselector : selector pattern = .ok (.matching (pieces pattern.toList)) := by
    rw [selector, if_neg hdeep, hstars, if_neg Bool.false_ne_true, if_pos hwild]
  rw [selectors, Path.rootOf_of_noSlash h, if_neg (by simp),
    Path.components_of_noSlash h hempty hdot, List.mapM_cons, hselector, List.mapM_nil]
  rfl

/-- A component with two stars in a row, and more than these, is refused. -/
theorem selectors_of_doubleStar {pattern : String} (h : '/' ∉ pattern.toList)
    (hempty : pattern ≠ "") (hdot : pattern ≠ ".") (hdeep : pattern ≠ "**")
    (hstars : hasDoubleStar pattern.toList = true) : ∃ f, selectors pattern = .error f := by
  rw [selectors, Path.rootOf_of_noSlash h, if_neg (by simp),
    Path.components_of_noSlash h hempty hdot, List.mapM_cons, selector, if_neg hdeep, if_pos hstars]
  exact ⟨_, rfl⟩

/-! ## What pieces match -/

/-- Whether a character stands for itself in a pattern. -/
def IsPlain (c : Char) : Prop := c ≠ '*' ∧ c ≠ '?' ∧ c ≠ '['

theorem isPlain_of_not_wild {s : String} (h : isWild s = false) : ∀ c ∈ s.toList, IsPlain c := by
  intro c hc
  rw [isWild, List.any_eq_false] at h
  have hplain := h c hc
  simp only [Bool.or_eq_true, decide_eq_true_eq, not_or] at hplain
  exact ⟨hplain.1.1, hplain.1.2, hplain.2⟩

theorem piecesWithin_plain {a : List Char} (h : ∀ c ∈ a, IsPlain c) (fuel : Nat)
    (rest : List Char) :
    piecesWithin (a.length + fuel) (a ++ rest) = a.map .literal ++ piecesWithin fuel rest := by
  induction a with
  | nil =>
    rw [List.length_nil, Nat.zero_add]
    rfl
  | cons c cs ih =>
    obtain ⟨hstar, hmark, hbracket⟩ := h c List.mem_cons_self
    have hlength : (c :: cs).length + fuel = cs.length + fuel + 1 := by
      rw [List.length_cons]
      omega
    rw [hlength, List.cons_append, piecesWithin, if_neg hstar, if_neg hmark, if_neg hbracket,
      ih fun d hd => h d (List.mem_cons_of_mem _ hd)]
    rfl

/-- The pieces of a pattern with one star. -/
theorem pieces_star {a b : List Char} (ha : ∀ c ∈ a, IsPlain c) (hb : ∀ c ∈ b, IsPlain c) :
    pieces (a ++ '*' :: b) = a.map .literal ++ .anyText :: b.map .literal := by
  have hrest := piecesWithin_plain hb 0 []
  rw [Nat.add_zero, List.append_nil] at hrest
  have hlength : (a ++ '*' :: b).length = a.length + (b.length + 1) := by
    rw [List.length_append, List.length_cons]
  rw [pieces, hlength, piecesWithin_plain ha, piecesWithin, if_pos rfl, hrest, piecesWithin,
    List.append_nil]

theorem matchesPieces_literals {a : List Char} {ps : List Piece} {cs : List Char} :
    matchesPieces (a.map .literal ++ ps) cs = true ↔
      ∃ rest, cs = a ++ rest ∧ matchesPieces ps rest = true := by
  induction a generalizing cs with
  | nil =>
    constructor
    · exact fun h => ⟨cs, rfl, h⟩
    · rintro ⟨rest, rfl, h⟩
      exact h
  | cons c as ih =>
    rw [List.map_cons, List.cons_append]
    cases cs with
    | nil =>
      constructor
      · intro h
        cases h
      · rintro ⟨rest, h, _⟩
        cases h
    | cons d ds =>
      rw [matchesPieces, Bool.and_eq_true, decide_eq_true_eq, ih]
      constructor
      · rintro ⟨rfl, rest, rfl, h⟩
        exact ⟨rest, rfl, h⟩
      · rintro ⟨rest, heq, h⟩
        obtain ⟨rfl, rfl⟩ := List.cons_eq_cons.mp heq
        exact ⟨rfl, rest, rfl, h⟩

theorem mem_suffixes {cs rest : List Char} : rest ∈ suffixes cs ↔ rest <:+ cs := by
  induction cs with
  | nil => rw [suffixes, List.mem_singleton, List.suffix_nil]
  | cons c cs ih => rw [suffixes, List.mem_cons, ih, List.suffix_cons_iff]

/-- **A pattern with one star matches what begins and ends as it does.** -/
theorem matchesPieces_star_iff {a b cs : List Char} (ha : ∀ c ∈ a, IsPlain c)
    (hb : ∀ c ∈ b, IsPlain c) :
    matchesPieces (pieces (a ++ '*' :: b)) cs = true ↔ ∃ mid, cs = a ++ (mid ++ b) := by
  have hend : ∀ rest, matchesPieces (b.map .literal) rest = true ↔ rest = b := by
    intro rest
    rw [← List.append_nil (b.map Piece.literal), matchesPieces_literals]
    constructor
    · rintro ⟨after, rfl, h⟩
      rw [matchesPieces, List.isEmpty_iff] at h
      rw [h, List.append_nil]
    · rintro rfl
      exact ⟨[], (List.append_nil _).symm, rfl⟩
  rw [pieces_star ha hb, matchesPieces_literals]
  constructor
  · rintro ⟨rest, rfl, h⟩
    rw [matchesPieces, List.any_eq_true] at h
    obtain ⟨last, hlast, h⟩ := h
    obtain ⟨mid, rfl⟩ := mem_suffixes.mp hlast
    exact ⟨mid, by rw [(hend last).mp h]⟩
  · rintro ⟨mid, rfl⟩
    refine ⟨mid ++ b, rfl, ?_⟩
    rw [matchesPieces, List.any_eq_true]
    exact ⟨b, mem_suffixes.mpr (List.suffix_append mid b), (hend b).mpr rfl⟩

theorem hasDoubleStar_cons {c : Char} (hc : c ≠ '*') (cs : List Char) :
    hasDoubleStar (c :: cs) = hasDoubleStar cs := by
  rw [hasDoubleStar]
  intro rest heq
  exact absurd heq hc

theorem hasDoubleStar_of_noStar {cs : List Char} (h : ∀ c ∈ cs, c ≠ '*') :
    hasDoubleStar cs = false := by
  induction cs with
  | nil => rfl
  | cons c rest ih =>
    rw [hasDoubleStar_cons (h c List.mem_cons_self)]
    exact ih fun d hd => h d (List.mem_cons_of_mem _ hd)

/-- One star has no other one beside it. -/
theorem hasDoubleStar_one {a b : List Char} (ha : ∀ c ∈ a, c ≠ '*') (hb : ∀ c ∈ b, c ≠ '*') :
    hasDoubleStar (a ++ '*' :: b) = false := by
  induction a with
  | cons c rest ih =>
    rw [List.cons_append, hasDoubleStar_cons (ha c List.mem_cons_self)]
    exact ih fun d hd => ha d (List.mem_cons_of_mem _ hd)
  | nil =>
    rw [List.nil_append]
    cases b with
    | nil => rfl
    | cons c rest =>
      have hstep : hasDoubleStar ('*' :: c :: rest) = hasDoubleStar (c :: rest) := by
        rw [hasDoubleStar]
        intro after _ heq
        exact absurd (List.cons_eq_cons.mp heq).1 (hb c List.mem_cons_self)
      rw [hstep]
      exact hasDoubleStar_of_noStar hb

end Glob

namespace FileTree

open Glob

variable {t : FileTree} {dir : Path} {D : NodeName}

theorem select_matching (h : t.LeadsTo dir D) (ps : List Piece) :
    t.select [.matching ps] dir =
      .ok ((t.childPaths dir).map fun q =>
        if matchesPieces ps (lastName q).toList then [q] else []).flatten := by
  have hstep : ∀ q, (do
      if !([] : List Selector).isEmpty then
        if !(← t.entryIsDirectory dir q) then return []
      if matchesPieces ps (lastName q).toList then select t [] q else return []) =
        (pure (if matchesPieces ps (lastName q).toList then [q] else []) :
          Except Fault (List Path)) := by
    intro q
    by_cases hq : matchesPieces ps (lastName q).toList = true
    · simp only [hq, if_true]
      rfl
    · simp only [hq]
      rfl
  rw [select, bind_of_ok h.listing]
  simp only [hstep, List.mapM_pure]
  rfl

/-- The order of paths is for the entries of a directory that of their names. -/
theorem precedes_child (p : Path) (c d : String) :
    (p.child c).precedes (p.child d) = decide (c ≤ d) := by
  have hkey : ∀ e, (p.child e).sortKey = p.sortKey ++ [e] := by
    intro e
    unfold Path.sortKey Path.child
    split
    · rfl
    · rfl
  have hle : (compare c d).isLE = true ↔ c ≤ d := Std.LawfulLECmp.isLE_iff_le
  rw [Path.precedes, hkey, hkey, compare_concat, Bool.eq_iff_iff, decide_eq_true_eq, ← hle]
  cases compare c d <;> decide

theorem glob_eq (h : t.LeadsTo dir D) {pattern : String} {ps : List Piece}
    (hpattern : selectors pattern = .ok [.matching ps]) :
    t.glob dir pattern =
      .ok ((((t.entries D).filter fun c => matchesPieces ps c.toList).mergeSort
        fun c d => decide (c ≤ d)).map dir.child) := by
  have hselect : t.select [.matching ps] dir =
      .ok (((t.entries D).filter fun c => matchesPieces ps c.toList).map dir.child) := by
    rw [select_matching h, h.childPaths, List.map_map]
    congr 1
    induction t.entries D with
    | nil => rfl
    | cons c rest ih =>
      rw [List.map_cons, List.flatten_cons, ih, List.filter_cons, Function.comp_apply,
        lastName_child]
      split
      · rfl
      · rfl
  unfold glob
  rw [hpattern, bind_of_ok rfl, bind_of_ok h.isDirectory, if_neg (by simp), hselect,
    bind_of_ok rfl, List.map_mergeSort fun c _ d _ => (precedes_child dir c d).symm]
  rfl

/-- **Which paths are found**: those of the entries that match, in the order of their names. -/
theorem glob_entries (h : t.LeadsTo dir D) {pattern : String} {ps : List Piece}
    (hpattern : selectors pattern = .ok [.matching ps]) :
    ∃ found : List String, t.glob dir pattern = .ok (found.map dir.child) ∧
      found.Pairwise (· ≤ ·) ∧
      ∀ c, c ∈ found ↔ c ∈ t.entries D ∧ matchesPieces ps c.toList = true := by
  refine ⟨_, glob_eq h hpattern, ?_, fun c => ?_⟩
  · have htrans : ∀ a b c : String, decide (a ≤ b) = true → decide (b ≤ c) = true →
        decide (a ≤ c) = true := by
      intro a b c hab hbc
      rw [decide_eq_true_eq] at hab hbc ⊢
      exact String.le_trans hab hbc
    have htotal : ∀ a b : String, (decide (a ≤ b) || decide (b ≤ a)) = true := by
      intro a b
      rw [Bool.or_eq_true, decide_eq_true_eq, decide_eq_true_eq]
      exact String.le_total a b
    simpa only [decide_eq_true_eq] using List.pairwise_mergeSort htrans htotal _
  · rw [List.mem_mergeSort, List.mem_filter]

end FileTree

end Baseline
