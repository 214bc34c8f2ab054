import Baseline.Proofs.FileTree.Clearing
import Baseline.Proofs.Steps

/-!
# When a search is refused

A search has the file system follow paths.  What is not there does not count; a path that is too
long is refused, and the search with it.

* `Glob.raises_selectors_iff` : which patterns cannot be read.
* `FileTree.TooLong` : the one refusal of a path that is no absence.
* `FileTree.Asked` : the paths that a search has the file system follow.
* `FileTree.raises_select_iff` : **a search is refused if and only if one of these is too long.**
* `FileTree.noNull_of_select` : no path that is found has a null character.
-/

set_option autoImplicit false

namespace Baseline

/-! ## Patterns -/

namespace Glob

theorem raises_selector_iff {s : String} :
    Raises (selector s) ↔ s ≠ "**" ∧ hasDoubleStar s.toList = true := by
  rw [selector]
  split_ifs with hdeep hstars hwild
  · exact iff_of_false (not_raises_ok _) fun h => h.1 hdeep
  · exact iff_of_true (raises_error _) ⟨hdeep, hstars⟩
  · exact iff_of_false (not_raises_ok _) fun h => hstars h.2
  · exact iff_of_false (not_raises_ok _) fun h => hstars h.2

/-- **Which patterns cannot be read**: absolute ones, and those with two stars in a row in a
component that is more than these. -/
theorem raises_selectors_iff {pattern : String} :
    Raises (selectors pattern) ↔ Path.rootOf pattern ≠ .relative ∨
      ∃ s ∈ Path.components pattern, s ≠ "**" ∧ hasDoubleStar s.toList = true := by
  rw [selectors]
  split_ifs with hroot
  · exact iff_of_true (raises_error _) (Or.inl hroot)
  · rw [raises_mapM]
    simp only [raises_selector_iff, hroot, false_or]

end Glob

namespace FileTree

open Glob

variable {t : FileTree} {p q x : Path}

/-! ## Why a path cannot be followed -/

theorem tooLong_or_absence_of_walk {followLast : Bool} {dir : NodeName} {cs : List String}
    {cause : FileErrorCause} (h : t.walk followLast dir cs = .failed cause) (p : Path) :
    cause = .nameTooLong ∨ isAbsence (failure cause p) = true := by
  induction cs generalizing dir with
  | nil => cases h
  | cons c rest ih =>
    by_cases hup : c = ".."
    · subst hup
      exact ih h
    · rw [walk_cons hup] at h
      split at h
      · cases h
        exact Or.inl rfl
      · split at h
        · split at h
          · cases h
          · cases h
            exact Or.inr rfl
        · exact ih h
        · split at h
          · cases h
          · cases h
            exact Or.inr rfl
        · split at h <;> cases h

/-- Where the end of a target is not heeded, the way failed before, or nothing or a file stands
there. -/
theorem cause_of_throughLink {target : String} {rest : List String}
    {found : Except FileErrorCause Place} {cause : FileErrorCause}
    (h : throughLink target rest found = .error cause) :
    found = .error cause ∨ cause = .noEntry ∨ cause = .notDirectory := by
  unfold throughLink at h
  split at h
  · cases found with
    | error other => exact Or.inl h
    | ok place =>
      by_cases hplace : place.IsDirectory
      · cases (place.asDirectory_of_isDirectory hplace).symm.trans h
      · cases (place.asDirectory_of_not hplace).symm.trans h
        cases place with
        | free directory last => exact Or.inr (Or.inl rfl)
        | root => exact Or.inr (Or.inr rfl)
        | node name n => exact Or.inr (Or.inr rfl)
  · exact Or.inl h

theorem tooLong_or_absence_of_walkLinks {followLast : Bool} {budget : Nat} {dir : NodeName}
    {cs : List String} {cause : FileErrorCause}
    (h : t.walkLinks followLast dir cs budget = .error cause) (p : Path) :
    cause = .nameTooLong ∨ isAbsence (failure cause p) = true := by
  induction budget generalizing dir cs with
  | zero =>
    rw [walkLinks] at h
    split at h
    · cases h
    · rename_i hwalk
      cases h
      exact tooLong_or_absence_of_walk hwalk p
    · cases h
      exact Or.inr rfl
  | succ budget ih =>
    rw [walkLinks] at h
    split at h
    · cases h
    · rename_i hwalk
      cases h
      exact tooLong_or_absence_of_walk hwalk p
    · rcases cause_of_throughLink h with h | rfl | rfl
      · exact ih h
      · exact Or.inr rfl
      · exact Or.inr rfl

/-- The file system refuses to follow a path for its length, or for that of a name on the way. -/
def TooLong (t : FileTree) (p : Path) : Prop := t.locate true p = .error (failure .nameTooLong p)

/-- **A path that cannot be followed leads to nothing or is too long.** -/
theorem absence_or_tooLong {f : Fault} (h : t.locate true p = .error f) :
    isAbsence f = true ∨ t.TooLong p := by
  unfold TooLong
  rw [h]
  unfold locate at h
  split at h
  · cases h
    exact Or.inl rfl
  · split at h
    · cases h
      exact Or.inr rfl
    · split at h
      · cases h
      · rename_i hwalk
        cases h
        rcases tooLong_or_absence_of_walkLinks hwalk p with rfl | habsence
        · exact Or.inr rfl
        · exact Or.inl habsence

theorem TooLong.ne_ok (h : t.TooLong p) (place : Place) : t.locate true p ≠ .ok place := by
  rw [show t.locate true p = _ from h]
  exact fun heq => by cases heq

theorem not_tooLong_of_absence {f : Fault} (h : t.locate true p = .error f)
    (habsence : isAbsence f = true) : ¬ t.TooLong p := by
  intro hlong
  rw [show t.locate true p = _ from hlong] at h
  cases h
  cases habsence

/-! ## Questions that are refused -/

/-- A question about what a path leads to, where absence counts as no. -/
theorem raises_question_iff (g : FileStat → Bool) :
    Raises (absenceIsFalse ((t.stat p).map g)) ↔ t.TooLong p := by
  rw [stat]
  cases hloc : t.locate true p with
  | ok place =>
    refine iff_of_false ?_ fun hlong => hlong.ne_ok place hloc
    rintro ⟨f, hf⟩
    rcases place with _ | ⟨name, _ | _ | _⟩ | _ <;> cases hf
  | error f =>
    change Raises (if isAbsence f then .ok false else .error f) ↔ _
    split_ifs with habsence
    · exact iff_of_false (not_raises_ok _) (not_tooLong_of_absence hloc habsence)
    · exact iff_of_true (raises_error _) ((absence_or_tooLong hloc).resolve_left habsence)

theorem raises_isDirectory_iff : Raises (t.isDirectory p) ↔ t.TooLong p := raises_question_iff _

theorem raises_pathExists_iff : Raises (t.pathExists p) ↔ t.TooLong p := raises_question_iff _

/-- A path about which the answer is yes has no null character. -/
theorem noNull_of_question {g : FileStat → Bool}
    (h : absenceIsFalse ((t.stat p).map g) = .ok true) : p.hasNull = false := by
  cases hnull : p.hasNull with
  | false => rfl
  | true =>
    rw [stat, locate, if_pos hnull] at h
    cases h

/-- A directory is listed unless its path is too long. -/
theorem listing_eq (h : ¬ t.TooLong p) : t.listing p = .ok (t.childPaths p) := by
  rw [listing]
  cases hloc : t.locate true p with
  | ok place => rfl
  | error f =>
    have habsence := (absence_or_tooLong hloc).resolve_right h
    dsimp only
    rw [if_pos habsence, childPaths, directoryName?, hloc]

theorem raises_listing_iff : Raises (t.listing p) ↔ t.TooLong p := by
  constructor
  · intro h
    by_contra hshort
    rw [listing_eq hshort] at h
    exact not_raises_ok _ h
  · intro h
    rw [listing, show t.locate true p = _ from h]
    exact raises_error _

/-- A link stands at the entry `q` of a directory. -/
def LinkEntry (t : FileTree) (p q : Path) : Prop :=
  ∃ target, ((t.directoryName? p).bind fun dir => t.node? (dir ++ [lastName q])) =
    some (.link target)

theorem raises_entryIsDirectory_iff :
    Raises (t.entryIsDirectory p q) ↔ t.LinkEntry p q ∧ t.TooLong q := by
  unfold entryIsDirectory LinkEntry
  split
  · rename_i hentry
    refine iff_of_false (not_raises_ok _) ?_
    rintro ⟨⟨target, hlink⟩, -⟩
    rw [hentry] at hlink
    cases hlink
  · rename_i target hentry
    rw [raises_isDirectory_iff]
    exact ⟨fun h => ⟨⟨target, hentry⟩, h⟩, fun h => h.2⟩
  · rename_i hlink
    exact iff_of_false (not_raises_ok _) fun h => h.1.elim fun target heq => hlink target heq

/-! ## Searches -/

/-- The paths that a search below `p` has the file system follow. -/
inductive Asked (t : FileTree) : List Selector → Path → Path → Prop where
  | named {name : String} {rest : List Selector} {p : Path} :
      Asked t (.exactly name :: rest) p (p.child name)
  | belowNamed {name : String} {rest : List Selector} {p x : Path}
      (hdir : t.isDirectory (p.child name) = .ok true) (hasked : Asked t rest (p.child name) x) :
      Asked t (.exactly name :: rest) p x
  | listed {ps : List Piece} {rest : List Selector} {p : Path} :
      Asked t (.matching ps :: rest) p p
  | link {ps : List Piece} {rest : List Selector} {p q : Path} (hrest : rest ≠ [])
      (hq : q ∈ t.childPaths p) (hlink : t.LinkEntry p q) : Asked t (.matching ps :: rest) p q
  | belowMatch {ps : List Piece} {rest : List Selector} {p q x : Path} (hq : q ∈ t.childPaths p)
      (hdir : t.entryIsDirectory p q = .ok true)
      (hmatch : matchesPieces ps (lastName q).toList = true) (hasked : Asked t rest q x) :
      Asked t (.matching ps :: rest) p x
  | deep {rest : List Selector} {p q x : Path} (hq : q ∈ t.directoriesUnder p)
      (hasked : Asked t rest q x) : Asked t (.anyDepth :: rest) p x

/-- One path that is asked about is too long. -/
def AsksTooMuch (t : FileTree) (chosen : List Selector) (p : Path) : Prop :=
  ∃ x, t.Asked chosen p x ∧ t.TooLong x

theorem not_asksTooMuch_nil : ¬ t.AsksTooMuch [] p := by
  rintro ⟨x, hasked, -⟩
  cases hasked

theorem asksTooMuch_exactly_iff {name : String} {rest : List Selector} :
    t.AsksTooMuch (.exactly name :: rest) p ↔ t.TooLong (p.child name) ∨
      t.isDirectory (p.child name) = .ok true ∧ t.AsksTooMuch rest (p.child name) := by
  constructor
  · rintro ⟨x, hasked, hlong⟩
    cases hasked with
    | named => exact Or.inl hlong
    | belowNamed hdir hbelow => exact Or.inr ⟨hdir, x, hbelow, hlong⟩
  · rintro (hlong | ⟨hdir, x, hbelow, hlong⟩)
    · exact ⟨_, .named, hlong⟩
    · exact ⟨x, .belowNamed hdir hbelow, hlong⟩

/-- What the entry `q` asks too much: where it leads, if a link stands there and more is to follow,
or what stands below. -/
def EntryAsksTooMuch (t : FileTree) (ps : List Piece) (rest : List Selector) (p q : Path) : Prop :=
  rest ≠ [] ∧ t.LinkEntry p q ∧ t.TooLong q ∨
    t.entryIsDirectory p q = .ok true ∧ matchesPieces ps (lastName q).toList = true ∧
      t.AsksTooMuch rest q

theorem not_entryAsksTooMuch_nil {ps : List Piece} : ¬ t.EntryAsksTooMuch ps [] p q := by
  rintro (⟨hne, -⟩ | ⟨-, -, hbelow⟩)
  · exact hne rfl
  · exact not_asksTooMuch_nil hbelow

theorem asksTooMuch_matching_iff {ps : List Piece} {rest : List Selector} :
    t.AsksTooMuch (.matching ps :: rest) p ↔
      t.TooLong p ∨ ∃ q ∈ t.childPaths p, t.EntryAsksTooMuch ps rest p q := by
  constructor
  · rintro ⟨x, hasked, hlong⟩
    cases hasked with
    | listed => exact Or.inl hlong
    | link hrest hq hlink => exact Or.inr ⟨x, hq, Or.inl ⟨hrest, hlink, hlong⟩⟩
    | belowMatch hq hdir hmatch hbelow =>
      exact Or.inr ⟨_, hq, Or.inr ⟨hdir, hmatch, x, hbelow, hlong⟩⟩
  · rintro (hlong | ⟨q, hq, ⟨hrest, hlink, hlong⟩ | ⟨hdir, hmatch, x, hbelow, hlong⟩⟩)
    · exact ⟨p, .listed, hlong⟩
    · exact ⟨q, .link hrest hq hlink, hlong⟩
    · exact ⟨x, .belowMatch hq hdir hmatch hbelow, hlong⟩

/-- A search among the entries of a directory follows nothing but the path of this. -/
theorem asksTooMuch_single_iff {ps : List Piece} :
    t.AsksTooMuch [.matching ps] p ↔ t.TooLong p := by
  rw [asksTooMuch_matching_iff]
  exact or_iff_left fun ⟨_, _, hentry⟩ => not_entryAsksTooMuch_nil hentry

theorem asksTooMuch_anyDepth_iff {rest : List Selector} :
    t.AsksTooMuch (.anyDepth :: rest) p ↔ ∃ q ∈ t.directoriesUnder p, t.AsksTooMuch rest q := by
  constructor
  · rintro ⟨x, hasked, hlong⟩
    cases hasked with
    | deep hq hbelow => exact ⟨_, hq, x, hbelow, hlong⟩
  · rintro ⟨q, hq, x, hbelow, hlong⟩
    exact ⟨x, .deep hq hbelow, hlong⟩

/-- What an entry of a directory adds to a search. -/
def selectEntry (t : FileTree) (ps : List Piece) (rest : List Selector) (p q : Path) :
    Except Fault (List Path) := do
  if !rest.isEmpty then
    if !(← t.entryIsDirectory p q) then return []
  if matchesPieces ps (lastName q).toList then select t rest q else return []

theorem select_matching_eq (ps : List Piece) (rest : List Selector) (p : Path) :
    t.select (.matching ps :: rest) p =
      (t.listing p >>= fun qs => qs.mapM (t.selectEntry ps rest p) >>= fun found =>
        pure found.flatten) := by
  rw [select]
  rfl

theorem selectEntry_nil (ps : List Piece) (p q : Path) :
    t.selectEntry ps [] p q =
      .ok (if matchesPieces ps (lastName q).toList then [q] else []) := by
  cases hmatch : matchesPieces ps (lastName q).toList with
  | false =>
    unfold selectEntry
    simp [hmatch, pure, Except.pure]
  | true =>
    unfold selectEntry
    simp [hmatch, select]

theorem selectEntry_cons (ps : List Piece) (s : Selector) (more : List Selector) (p q : Path) :
    t.selectEntry ps (s :: more) p q = (t.entryIsDirectory p q >>= fun there =>
      if there = true ∧ matchesPieces ps (lastName q).toList = true then t.select (s :: more) q
      else pure []) := by
  unfold selectEntry
  cases t.entryIsDirectory p q with
  | error f => rfl
  | ok there =>
    cases there with
    | false => rfl
    | true =>
      cases hmatch : matchesPieces ps (lastName q).toList <;> simp [bind, Except.bind]

/-- What has to be followed for one component, and where the search goes on. -/
theorem select_exactly_eq (name : String) (rest : List Selector) (p : Path) :
    t.select (.exactly name :: rest) p =
      ((if rest.isEmpty then t.pathExists (p.child name) else t.isDirectory (p.child name)) >>=
        fun there => if there then t.select rest (p.child name) else pure []) := by
  rw [select]

theorem raises_ifEntry_iff {c : Prop} [Decidable c] {s : Except Fault (List Path)} :
    Raises (if c then s else pure []) ↔ c ∧ Raises s := by
  split_ifs with h
  · exact (and_iff_right h).symm
  · exact iff_of_false (not_raises_pure _) fun hc => h hc.1

theorem raises_selectEntry_iff {ps : List Piece} {rest : List Selector}
    (hrest : ∀ q, Raises (t.select rest q) ↔ t.AsksTooMuch rest q) :
    Raises (t.selectEntry ps rest p q) ↔ t.EntryAsksTooMuch ps rest p q := by
  cases rest with
  | nil =>
    rw [selectEntry_nil]
    exact iff_of_false (not_raises_ok _) not_entryAsksTooMuch_nil
  | cons s more =>
    unfold EntryAsksTooMuch
    rw [selectEntry_cons, raises_bind, raises_entryIsDirectory_iff]
    simp only [raises_ifEntry_iff, hrest]
    constructor
    · rintro (hlink | ⟨there, hdir, ⟨rfl, hmatch⟩, hbelow⟩)
      · exact Or.inl ⟨List.cons_ne_nil _ _, hlink⟩
      · exact Or.inr ⟨hdir, hmatch, hbelow⟩
    · rintro (⟨-, hlink⟩ | ⟨hdir, hmatch, hbelow⟩)
      · exact Or.inl hlink
      · exact Or.inr ⟨true, hdir, ⟨rfl, hmatch⟩, hbelow⟩

/-- **A search is refused if and only if a path that it asks about is too long.** -/
theorem raises_select_iff {chosen : List Selector} :
    Raises (t.select chosen p) ↔ t.AsksTooMuch chosen p := by
  induction chosen generalizing p with
  | nil =>
    rw [select]
    exact iff_of_false (not_raises_ok _) not_asksTooMuch_nil
  | cons s rest ih =>
    cases s with
    | exactly name =>
      rw [asksTooMuch_exactly_iff, select_exactly_eq, raises_bind]
      simp only [raises_ifEntry_iff, ih]
      cases rest with
      | nil =>
        rw [List.isEmpty_nil, if_pos rfl, raises_pathExists_iff]
        simp only [not_asksTooMuch_nil, and_false, exists_false]
      | cons s more =>
        rw [List.isEmpty_cons, if_neg Bool.false_ne_true, raises_isDirectory_iff]
        refine or_congr_right ⟨?_, fun h => ⟨true, h.1, rfl, h.2⟩⟩
        rintro ⟨_, hdir, rfl, hbelow⟩
        exact ⟨hdir, hbelow⟩
    | matching ps =>
      rw [asksTooMuch_matching_iff, select_matching_eq, raises_bind, raises_listing_iff]
      refine or_congr_right' fun hshort => ?_
      rw [listing_eq hshort]
      simp only [raises_bind, raises_mapM, not_raises_pure, and_false, exists_false, or_false]
      constructor
      · rintro ⟨_, ⟨⟩, q, hq, hentry⟩
        exact ⟨q, hq, (raises_selectEntry_iff fun _ => ih).mp hentry⟩
      · rintro ⟨q, hq, hentry⟩
        exact ⟨_, rfl, q, hq, (raises_selectEntry_iff fun _ => ih).mpr hentry⟩
    | anyDepth =>
      rw [asksTooMuch_anyDepth_iff, select]
      simp only [raises_bind, raises_mapM, not_raises_pure, and_false, exists_false, or_false, ih]

/-- What a whole search is refused for. -/
theorem raises_glob_iff {dir : Path} {pattern : String} :
    Raises (t.glob dir pattern) ↔ Raises (selectors pattern) ∨
      ∃ chosen, selectors pattern = .ok chosen ∧
        (t.TooLong dir ∨ t.isDirectory dir = .ok true ∧ t.AsksTooMuch chosen dir) := by
  have hform : t.glob dir pattern = (selectors pattern >>= fun chosen =>
      t.isDirectory dir >>= fun there =>
        if there = true then t.select chosen dir >>= fun found =>
          pure (found.mergeSort Path.precedes)
        else pure []) := by
    unfold glob
    congr 1
    funext chosen
    congr 1
    funext there
    cases there <;> rfl
  rw [hform]
  simp only [raises_bind, raises_isDirectory_iff, raises_ifEntry_iff, raises_select_iff,
    not_raises_pure, and_false, exists_false, or_false]
  refine or_congr_right (exists_congr fun chosen => and_congr_right fun _ => ?_)
  refine or_congr_right ⟨?_, fun h => ⟨true, h.1, rfl, h.2⟩⟩
  rintro ⟨_, hdir, rfl, hbelow⟩
  exact ⟨hdir, hbelow⟩

/-! ## What is found -/

/-- No name in the tree has a null character. -/
def NoNulls (t : FileTree) : Prop := ∀ n ∈ t.nodes, ∀ c ∈ n.1, '\x00' ∉ c.toList

theorem mem_childPaths_of_listing {qs : List Path} (h : t.listing p = .ok qs) (hq : q ∈ qs) :
    q ∈ t.childPaths p := by
  rw [listing_eq fun hlong => ?_] at h
  · cases h
    exact hq
  · obtain ⟨f, hf⟩ := raises_listing_iff.mpr hlong
    rw [hf] at h
    cases h

/-- What an entry adds is found below it. -/
theorem select_of_selectEntry {ps : List Piece} {rest : List Selector} {e : Path}
    {part : List Path} (h : t.selectEntry ps rest p e = .ok part) (hq : q ∈ part) :
    ∃ below, t.select rest e = .ok below ∧ q ∈ below := by
  cases rest with
  | nil =>
    rw [selectEntry_nil] at h
    split at h
    · cases h
      exact ⟨[e], by rw [select], hq⟩
    · cases h
      cases hq
  | cons s more =>
    rw [selectEntry_cons] at h
    obtain ⟨there, -, h⟩ := bind_eq_ok h
    split at h
    · exact ⟨part, h, hq⟩
    · cases h
      cases hq

theorem noNull_of_childPaths (hnulls : t.NoNulls) (hp : p.hasNull = false)
    (hq : q ∈ t.childPaths p) : q.hasNull = false := by
  unfold childPaths at hq
  split at hq
  · cases hq
  · rename_i dir _
    obtain ⟨c, hc, rfl⟩ := List.mem_map.mp hq
    obtain ⟨n, hn⟩ := mem_entries.mp hc
    exact hasNull_child hp (hnulls _ (mem_of_node? hn) c (List.mem_append_right dir
      List.mem_cons_self))

theorem noNull_of_directoriesUnder (hnulls : t.NoNulls) (hp : p.hasNull = false)
    (hq : q ∈ t.directoriesUnder p) : q.hasNull = false := by
  unfold directoriesUnder at hq
  split at hq
  · cases hq
  · rename_i dir _
    rcases List.mem_cons.mp hq with rfl | hq
    · exact hp
    obtain ⟨n, hn, hbelow⟩ := List.mem_filterMap.mp hq
    split at hbelow
    · split at hbelow
      · cases hbelow
        rw [Path.hasNull, List.any_append, Bool.or_eq_false_iff]
        refine ⟨hp, List.any_eq_false.mpr fun c hc => ?_⟩
        simpa using hnulls n hn c (List.mem_of_mem_drop hc)
      · cases hbelow
    · cases hbelow

/-- **No path that is found has a null character.** -/
theorem noNull_of_select (hnulls : t.NoNulls) {chosen : List Selector} {found : List Path}
    (hp : p.hasNull = false) (hselect : t.select chosen p = .ok found) (hq : q ∈ found) :
    q.hasNull = false := by
  induction chosen generalizing p found with
  | nil =>
    rw [select] at hselect
    cases hselect
    rw [List.mem_singleton.mp hq]
    exact hp
  | cons s rest ih =>
    cases s with
    | exactly name =>
      rw [select_exactly_eq] at hselect
      obtain ⟨there, hthere, hselect⟩ := bind_eq_ok hselect
      cases there with
      | false =>
        cases hselect
        cases hq
      | true =>
        have hnull : (p.child name).hasNull = false := by
          split at hthere
          · exact noNull_of_question hthere
          · exact noNull_of_question hthere
        exact ih hnull hselect hq
    | matching ps =>
      rw [select_matching_eq] at hselect
      obtain ⟨qs, hlisting, hselect⟩ := bind_eq_ok hselect
      obtain ⟨parts, hparts, hselect⟩ := bind_eq_ok hselect
      cases hselect
      obtain ⟨part, hpart, hq⟩ := List.mem_flatten.mp hq
      obtain ⟨entry, hentry, hpart⟩ := exists_of_mapM hparts hpart
      obtain ⟨below, hbelow, hq⟩ := select_of_selectEntry hpart hq
      have hchild := mem_childPaths_of_listing hlisting hentry
      exact ih (noNull_of_childPaths hnulls hp hchild) hbelow hq
    | anyDepth =>
      rw [select] at hselect
      obtain ⟨parts, hparts, hselect⟩ := bind_eq_ok hselect
      cases hselect
      obtain ⟨part, hpart, hq⟩ := List.mem_flatten.mp (List.mem_eraseDups.mp hq)
      obtain ⟨below, hbelow, hpart⟩ := exists_of_mapM hparts hpart
      exact ih (noNull_of_directoriesUnder hnulls hp hbelow) hpart hq

end FileTree

end Baseline
