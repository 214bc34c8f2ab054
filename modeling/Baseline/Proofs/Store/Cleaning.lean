import Baseline.Store.Location
import Baseline.Proofs.Steps
import Baseline.Proofs.FileTree.Clearing
import Baseline.Proofs.Store.Opening

/-!
# What cleaning removes

A location removes the stale files that its pattern covers, and tells which.

* `StoreLocation.Covers`, `StoreLocation.Disposable` : which files are meant, and which of them go.
* `StoreLocation.Progress` : how far the removal has come, and what cuts it short.
* `StoreLocation.removeOld_step`, `StoreLocation.removeOld_foldl` : one file after the other is
  removed.
* `StoreLocation.cleanOld_spec` : **what cleaning removes, and that everything else is there.**
* `StoreLocation.covers_iff_named`, `StoreLocation.covers_iff` : what the pattern of a plain name
  covers.
* `cleanOld_other` : **which files of another integration are removed.**
-/

set_option autoImplicit false

namespace Baseline

/-- Two texts are not the same when only one of them has a character. -/
theorem ne_of_mem_toList {c : Char} {s u : String} (hs : c ∈ s.toList) (hu : c ∉ u.toList) :
    s ≠ u :=
  fun h => hu (h ▸ hs)

namespace FileTree

/-- A file or a link stands at a path, which is what can be removed. -/
def Removable (t : FileTree) (p : Path) : Prop :=
  ∃ name n, t.locate false p = .ok (.node name n) ∧ ∀ a, n ≠ .directory a

/-- The entries of a directory have proper names. -/
def ProperlyNamed (t : FileTree) (D : NodeName) : Prop :=
  ∀ c ∈ t.entries D, c ≠ ".." ∧ '\x00' ∉ c.toList

end FileTree

namespace StoreLocation

open FileTree

variable {l : StoreLocation} {t : FileTree} {D : NodeName}

/-! ## Which files go -/

/-- The pattern of a location matches a name. -/
def Covers (l : StoreLocation) (c : String) : Prop :=
  Glob.matchesPieces (Glob.pieces l.pattern.toList) c.toList = true

/-- A file is not the location's own, and too old for the time to live of the location. -/
def Old (l : StoreLocation) (t : FileTree) (now : Double) (p : Path) : Prop :=
  p ≠ l.filePath ∧
    ∃ found, t.stat p = .ok found ∧ StoreFile.Stale ⟨p, l.ttl⟩ now found.time

/-- A file goes once it is found: it is old, and no directory. -/
structure Disposable (l : StoreLocation) (t : FileTree) (now : Double) (p : Path) : Prop where
  old : l.Old t now p
  removable : t.Removable p

theorem isOld_of_hasNull (httl : l.ttl.IsNumber) (t : FileTree) (now : Double) {q : Path}
    (hnull : q.hasNull = false) : ∃ old, l.isOld t now q = .ok old := by
  unfold isOld
  split
  · exact ⟨false, rfl⟩
  · cases hstat : t.stat q with
    | ok found =>
      rcases StoreFile.stale_or_trusted (f := ⟨q, l.ttl⟩) httl now found.time with hold | hold
      · exact ⟨true, hold⟩
      · exact ⟨false, hold⟩
    | error g =>
      obtain ⟨e, rfl⟩ := stat_fault hnull hstat
      exact ⟨false, rfl⟩

/-- Whether a candidate is old has an answer where its path has no null character. -/
theorem isOld_eq_decide (httl : l.ttl.IsNumber) (t : FileTree) (now : Double) {q : Path}
    (hnull : q.hasNull = false) :
    l.isOld t now q = .ok (decide (l.isOld t now q = .ok true)) := by
  obtain ⟨old, hold⟩ := isOld_of_hasNull httl t now hnull
  rw [hold]
  cases old <;> rfl

theorem isOld_eq_true {now : Double} {q : Path} :
    l.isOld t now q = .ok true ↔ l.Old t now q := by
  unfold isOld Old
  by_cases hown : q = l.filePath
  · rw [if_pos hown]
    constructor
    · intro h
      cases h
    · exact fun h => absurd hown h.1
  · rw [if_neg hown]
    cases hstat : t.stat q with
    | ok found =>
      constructor
      · exact fun h => ⟨hown, found, rfl, h⟩
      · rintro ⟨_, _, ⟨⟩, h⟩
        exact h
    | error g =>
      constructor
      · intro h
        cases g <;> cases h
      · rintro ⟨_, _, ⟨⟩, _⟩

theorem pattern_toList (l : StoreLocation) :
    l.pattern.toList = (l.name ++ "-").toList ++ '*' :: ".json".toList := by
  simp [pattern, fileName]

/-- The pattern of a location is one component with a wildcard. -/
theorem pattern_component (hslash : '/' ∉ l.name.toList) :
    '/' ∉ l.pattern.toList ∧ l.pattern ≠ "" ∧ l.pattern ≠ "." ∧ l.pattern ≠ "**" ∧
      Glob.isWild l.pattern = true := by
  have hyphen : '-' ∈ l.pattern.toList := by
    rw [pattern_toList, String.toList_append]
    simp
  refine ⟨?_, ne_of_mem_toList hyphen (by decide), ne_of_mem_toList hyphen (by decide),
    ne_of_mem_toList hyphen (by decide), ?_⟩
  · rw [pattern_toList, String.toList_append]
    simpa using hslash
  · rw [Glob.isWild, List.any_eq_true, pattern_toList]
    exact ⟨'*', List.mem_append_right _ List.mem_cons_self, rfl⟩

/-- The pattern of a location selects among the entries of its directory. -/
theorem selectors_pattern (hslash : '/' ∉ l.name.toList)
    (hstars : Glob.hasDoubleStar l.pattern.toList = false) :
    Glob.selectors l.pattern = .ok [.matching (Glob.pieces l.pattern.toList)] := by
  obtain ⟨hnoSlash, hempty, hdot, hdeep, hwild⟩ := pattern_component hslash
  exact Glob.selectors_of_noSlash hnoSlash hempty hdot hdeep hstars hwild

/-- **Which files are found**: the old ones among those that the pattern covers, in the order of
their names. -/
theorem findOld_spec (hdir : t.LeadsTo l.directory D) (hnames : t.ProperlyNamed D)
    (hslash : '/' ∉ l.name.toList) (hstars : Glob.hasDoubleStar l.pattern.toList = false)
    (httl : l.ttl.IsNumber) (now : Double) :
    ∃ old : List String, l.findOld t now = .ok (old.map l.directory.child) ∧
      old.Pairwise (· ≤ ·) ∧
      ∀ c, c ∈ old ↔ c ∈ t.entries D ∧ l.Covers c ∧ l.Old t now (l.directory.child c) := by
  obtain ⟨found, hfound, hsorted, hmem⟩ := glob_entries hdir (selectors_pattern hslash hstars)
  -- no question about an entry raises, since its name has no null and the time to live is a number
  have hanswers : ∀ q ∈ found.map l.directory.child,
      l.isOld t now q = .ok (decide (l.isOld t now q = .ok true)) := by
    intro q hq
    obtain ⟨c, hc, rfl⟩ := List.mem_map.mp hq
    exact isOld_eq_decide httl t now (hasNull_child hdir.noNull (hnames c ((hmem c).mp hc).1).2)
  refine ⟨found.filter fun c => decide (l.isOld t now (l.directory.child c) = .ok true), ?_,
    hsorted.filter _, fun c => ?_⟩
  · rw [findOld, bind_of_ok hfound, filterM_of_ok hanswers, List.filter_map]
    rfl
  · rw [List.mem_filter, hmem, decide_eq_true_eq, isOld_eq_true, and_assoc]
    exact Iff.rfl

/-! ## Removing what was found -/

/-- A link through which the path of the directory led is gone, and nothing is removed that was
found after that link, since the path leads nowhere. -/
def CutShort (l : StoreLocation) (t : FileTree) (D : NodeName) (found removed : List Path)
    (left : FileTree) : Prop :=
  ∃ early last late target, found = early ++ l.directory.child last :: late ∧
    t.node? (D ++ [last]) = some (.link target) ∧ l.directory.child last ∈ removed ∧
    Missing (left.walkLinks true [] l.directory.parts maxLinks) ∧
    ∀ q, q ∈ removed ↔ q ∈ early ++ [l.directory.child last] ∧ t.Removable q

/-- How far the removal of what was found has come: all of it is gone that is no directory, and the
path of the directory leads there still, or the removal is cut short. -/
structure Progress (l : StoreLocation) (t : FileTree) (D : NodeName) (time : Double)
    (found removed : List Path) (left : FileTree) : Prop where
  ordered : removed.Sublist found
  once : removed.Nodup
  cleared : Cleared D (fun c => l.directory.child c ∈ removed) t left
  stamped : ∀ b, left.node? D = some (.directory b) →
    t.node? D = some (.directory b) ∨ b = time ∧ removed ≠ []
  course : left.LeadsTo l.directory D ∧ (∀ q, q ∈ removed ↔ q ∈ found ∧ t.Removable q) ∨
    l.CutShort t D found removed left

variable {time : Double} {found removed : List Path} {left : FileTree}

theorem Progress.start (hdir : t.LeadsTo l.directory D) (time : Double) :
    l.Progress t D time [] [] t where
  ordered := .slnil
  once := .nil
  cleared := by simpa using Cleared.start t
  stamped := fun _ => Or.inl
  course := Or.inl ⟨hdir, by simp⟩

/-- Nothing more is removed: there is nothing to remove, or the removal is cut short. -/
theorem Progress.skip (h : l.Progress t D time found removed left) {q : Path}
    (hskip : left.LeadsTo l.directory D → t.Removable q → q ∈ removed) :
    l.Progress t D time (found ++ [q]) removed left where
  ordered := h.ordered.trans (List.sublist_append_left found [q])
  once := h.once
  cleared := h.cleared
  stamped := h.stamped
  course := by
    rcases h.course with ⟨hleads, hall⟩ | ⟨early, last, late, target, rfl, hcut⟩
    · refine Or.inl ⟨hleads, fun r => ?_⟩
      rw [hall, List.mem_append, List.mem_singleton, or_and_right]
      refine ⟨Or.inl, ?_⟩
      rintro (hr | ⟨rfl, hr⟩)
      · exact hr
      · exact (hall r).mp (hskip hleads hr)
    · refine Or.inr ⟨early, last, late ++ [q], target, ?_, hcut⟩
      rw [List.append_assoc, List.cons_append]

/-- A file or a link more is removed, which cuts the removal short if the path of the directory led
through it. -/
theorem Progress.take (h : l.Progress t D time found removed left) (hroot : t.Rooted)
    (hleads : left.LeadsTo l.directory D)
    (hall : ∀ q, q ∈ removed ↔ q ∈ found ∧ t.Removable q) {c : String} {n : FileNode}
    (hloc : t.locate false (l.directory.child c) = .ok (.node (D ++ [c]) n))
    (hfile : ∀ a, n ≠ .directory a) (hthere : l.directory.child c ∉ removed) :
    l.Progress t D time (found ++ [l.directory.child c]) (removed ++ [l.directory.child c])
      ((left.erase (D ++ [c])).touch D time) := by
  have hnode : t.node? (D ++ [c]) = some n := stands_of_locate hloc
  have hno : ∀ a, t.node? (D ++ [c]) ≠ some (.directory a) := by
    intro a ha
    rw [hnode] at ha
    exact hfile a (Option.some.inj ha)
  have hsame : left.node? (D ++ [c]) = t.node? (D ++ [c]) := h.cleared.entry hthere
  have hremovable : t.Removable (l.directory.child c) := ⟨_, n, hloc, hfile⟩
  have hmore : ∀ q, q ∈ removed ++ [l.directory.child c] ↔
      q ∈ found ++ [l.directory.child c] ∧ t.Removable q := by
    intro q
    rw [List.mem_append, List.mem_append, hall, List.mem_singleton, or_and_right]
    refine or_congr_right ⟨?_, And.left⟩
    rintro rfl
    exact ⟨rfl, hremovable⟩
  have hgone : (fun d => l.directory.child d ∈ removed ++ [l.directory.child c]) =
      fun d => l.directory.child d ∈ removed ∨ d = c := by
    funext d
    rw [List.mem_append, List.mem_singleton]
    exact propext (or_congr_right ⟨child_injective, fun h => h ▸ rfl⟩)
  refine ⟨h.ordered.append (.refl _), ?_, ?_, fun b hb => ?_, ?_⟩
  · refine List.nodup_append.mpr ⟨h.once, by simp, ?_⟩
    intro q hq r hr heq
    rw [List.mem_singleton] at hr
    exact hthere (hr ▸ heq ▸ hq)
  · rw [hgone]
    exact h.cleared.erase_touch hno time
  · have hD : (left.erase (D ++ [c])).node? D = left.node? D := by
      rw [node?_erase, if_neg (by simp)]
    rcases node?_touch (t := left.erase (D ++ [c])) D D time with htouch | ⟨_, _, htouch⟩
    · rw [htouch, hD] at hb
      exact (h.stamped b hb).imp_right fun hb => ⟨hb.1, by simp⟩
    · rw [htouch] at hb
      cases hb
      exact Or.inr ⟨rfl, by simp⟩
  · have hstep := (Cleared.start left).erase_touch (fun a => hsame ▸ hno a) time
    rcases hstep.leadsTo_or_missing (h.cleared.rooted hroot) hleads with
      hleads' | ⟨hmissing, d, target, hd, hlink⟩
    · exact Or.inl ⟨hleads', hmore⟩
    · obtain rfl : d = c := hd.resolve_left not_false
      refine Or.inr ⟨found, d, [], target, rfl, hsame ▸ hlink, ?_, hmissing, hmore⟩
      exact List.mem_append_right _ (List.mem_singleton_self _)

/-- **One step removes the file that was found**, if it is there still and no directory, and the
path of the directory leads there. -/
theorem removeOld_step (hroot : t.Rooted) (hdir : t.LeadsTo l.directory D)
    {done : DiskStep (List Path)} (hresult : done.result = .ok removed)
    (h : l.Progress t D time found removed done.tree) {c : String} {n : FileNode} (hup : c ≠ "..")
    (hloc : t.locate false (l.directory.child c) = .ok (.node (D ++ [c]) n)) :
    ∃ more, (removeOld time done (l.directory.child c)).result = .ok more ∧
      l.Progress t D time (found ++ [l.directory.child c]) more
        (removeOld time done (l.directory.child c)).tree := by
  have hnull := (locate_eq_ok.mp hloc).1
  have hlocation : done.tree.LeadsTo l.directory D →
      done.tree.locate false (l.directory.child c) = .ok (done.tree.entryPlace D c) :=
    fun hleads => h.cleared.locate_child hroot hdir hleads hup hloc
  unfold removeOld
  rw [hresult]
  dsimp only
  by_cases hgoes : done.tree.LeadsTo l.directory D ∧ l.directory.child c ∉ removed ∧
      ∀ a, n ≠ .directory a
  · obtain ⟨hleads, hthere, hfile⟩ := hgoes
    have hnode : done.tree.node? (D ++ [c]) = some n :=
      (h.cleared.entry hthere).trans (stands_of_locate hloc)
    have hloc' := hlocation hleads
    rw [entryPlace, hnode] at hloc'
    rw [remove_of_locate hloc' hfile time]
    rcases h.course with ⟨_, hall⟩ | ⟨_, _, _, _, _, _, _, hmissing, _⟩
    · exact ⟨_, rfl, h.take hroot hleads hall hloc hfile hthere⟩
    · exact absurd hmissing (not_missing_of_leadsTo hleads)
  · -- the path leads nowhere, or the file was found twice, or it is a directory
    have hskip : done.tree.LeadsTo l.directory D → t.Removable (l.directory.child c) →
        l.directory.child c ∈ removed := by
      rintro hleads ⟨_, m, hm, hfile⟩
      by_contra hthere
      rw [hloc] at hm
      cases hm
      exact hgoes ⟨hleads, hthere, hfile⟩
    obtain ⟨e, he⟩ : ∃ e, done.tree.remove time (l.directory.child c) = .error (.file e) := by
      refine remove_refused hnull (fun name m hm => ?_) time
      rcases h.course with ⟨hleads, _⟩ | ⟨_, _, _, _, _, _, _, hmissing, _⟩
      · rw [hlocation hleads, entryPlace] at hm
        by_cases hremoved : l.directory.child c ∈ removed
        · rw [h.cleared.absent hremoved] at hm
          cases hm
        · rw [h.cleared.entry hremoved, show t.node? (D ++ [c]) = some n from
            stands_of_locate hloc] at hm
          cases hm
          by_contra hnot
          exact hgoes ⟨hleads, hremoved, fun a ha => hnot ⟨a, ha⟩⟩
      · exact absurd hm (locate_child_of_missing (h.cleared.rooted hroot) hmissing false c _)
    rw [he]
    exact ⟨removed, rfl, h.skip hskip⟩

/-- **One found file after the other is removed**, unless it is a directory, and as long as the path
of the directory leads there. -/
theorem removeOld_foldl (hroot : t.Rooted) (hdir : t.LeadsTo l.directory D) (time : Double)
    (log : List LogRecord) (old : List Path)
    (hold : ∀ q ∈ old, ∃ c n, c ≠ ".." ∧ q = l.directory.child c ∧
      t.locate false q = .ok (.node (D ++ [c]) n)) :
    ∃ removed, (old.foldl (removeOld time) ⟨.ok [], t, log⟩).result = .ok removed ∧
      l.Progress t D time old removed (old.foldl (removeOld time) ⟨.ok [], t, log⟩).tree := by
  induction old using List.reverseRecOn with
  | nil => exact ⟨[], rfl, .start hdir time⟩
  | append_singleton before q ih =>
    obtain ⟨removed, hresult, hprogress⟩ := ih fun r hr => hold r (List.mem_append_left _ hr)
    obtain ⟨c, n, hup, rfl, hloc⟩ := hold q (List.mem_append_right _ (List.mem_singleton_self q))
    rw [List.foldl_append, List.foldl_cons, List.foldl_nil]
    exact removeOld_step hroot hdir hresult hprogress hup hloc

/-- Where no link on the way stands in the directory, nothing cuts the removal short. -/
theorem Progress.all (h : l.Progress t D time found removed left) (hroot : t.Rooted)
    (hdir : t.LeadsInto l.directory D) (q : Path) : q ∈ removed ↔ q ∈ found ∧ t.Removable q := by
  rcases h.course with ⟨_, hall⟩ | ⟨_, _, _, _, _, _, _, hmissing, _⟩
  · exact hall q
  · exact absurd hmissing (not_missing_of_leadsTo (h.cleared.leadsInto hroot hdir).leadsTo)

/-- **How cleaning goes**: what was found is removed in the order of names. -/
theorem cleanOld_progress (hroot : t.Rooted) (hdir : t.LeadsTo l.directory D)
    (hnames : t.ProperlyNamed D) (hslash : '/' ∉ l.name.toList)
    (hstars : Glob.hasDoubleStar l.pattern.toList = false) (httl : l.ttl.IsNumber)
    (time now : Double) :
    ∃ (old : List String) (removed : List Path), old.Pairwise (· ≤ ·) ∧
      (∀ c, c ∈ old ↔ c ∈ t.entries D ∧ l.Covers c ∧ l.Old t now (l.directory.child c)) ∧
      (l.cleanOld t time now).result = .ok removed ∧
      l.Progress t D time (old.map l.directory.child) removed (l.cleanOld t time now).tree := by
  obtain ⟨old, hfind, hsorted, hmem⟩ := findOld_spec hdir hnames hslash hstars httl now
  have hold : ∀ q ∈ old.map l.directory.child, ∃ c n, c ≠ ".." ∧ q = l.directory.child c ∧
      t.locate false q = .ok (.node (D ++ [c]) n) := by
    intro q hq
    obtain ⟨c, hc, rfl⟩ := List.mem_map.mp hq
    obtain ⟨hentry, _, _, found, hstat, _⟩ := (hmem c).mp hc
    have hup := (hnames c hentry).1
    obtain ⟨n, _, hloc⟩ := hdir.of_stat_child hroot hup hstat
    exact ⟨c, n, hup, rfl, hloc⟩
  obtain ⟨removed, hresult, hprogress⟩ := removeOld_foldl hroot hdir time
    (l.oldLog (old.map l.directory.child)) (old.map l.directory.child) hold
  have hclean : l.cleanOld t time now = (old.map l.directory.child).foldl (removeOld time)
      ⟨.ok [], t, l.oldLog (old.map l.directory.child)⟩ := by
    unfold cleanOld
    rw [hfind]
  rw [hclean]
  exact ⟨old, removed, hsorted, hmem, hresult, hprogress⟩

/-- **What cleaning removes**: the disposable files that the pattern covers, which it tells, and
nothing else. -/
theorem cleanOld_spec (hroot : t.Rooted) (hdir : t.LeadsInto l.directory D)
    (hnames : t.ProperlyNamed D) (hslash : '/' ∉ l.name.toList)
    (hstars : Glob.hasDoubleStar l.pattern.toList = false) (httl : l.ttl.IsNumber)
    (time now : Double) :
    ∃ removed, (l.cleanOld t time now).result = .ok removed ∧
      (∀ q, q ∈ removed ↔
        ∃ c ∈ t.entries D, l.Covers c ∧ q = l.directory.child c ∧ l.Disposable t now q) ∧
      Cleared D (fun c => l.directory.child c ∈ removed) t (l.cleanOld t time now).tree := by
  obtain ⟨old, removed, _, hmem, hresult, hprogress⟩ :=
    cleanOld_progress hroot hdir.leadsTo hnames hslash hstars httl time now
  refine ⟨removed, hresult, fun q => ?_, hprogress.cleared⟩
  rw [hprogress.all hroot hdir, List.mem_map]
  constructor
  · rintro ⟨⟨c, hc, rfl⟩, hremovable⟩
    obtain ⟨hentry, hcovers, hold⟩ := (hmem c).mp hc
    exact ⟨c, hentry, hcovers, rfl, hold, hremovable⟩
  · rintro ⟨c, hentry, hcovers, rfl, hold, hremovable⟩
    exact ⟨⟨c, (hmem c).mpr ⟨hentry, hcovers, hold⟩, rfl⟩, hremovable⟩

/-! ## What becomes of one file -/

/-- Cleaning removes what stands at a path, and tells so. -/
structure Removes (l : StoreLocation) (t : FileTree) (time now : Double) (p : Path) : Prop where
  told : ∃ removed, (l.cleanOld t time now).result = .ok removed ∧ p ∈ removed
  stood : t.Removable p
  gone : ∀ name n, (l.cleanOld t time now).tree.locate false p ≠ .ok (.node name n)

/-- Cleaning keeps what stands at a path: only a directory may have another time. -/
structure Keeps (l : StoreLocation) (t : FileTree) (time now : Double) (p : Path) : Prop where
  untold : ∃ removed, (l.cleanOld t time now).result = .ok removed ∧ p ∉ removed
  stands : ∀ {name n}, t.locate false p = .ok (.node name n) →
    (l.cleanOld t time now).tree.locate false p = .ok (.node name n) ∨
      ∃ a b, n = .directory a ∧
        (l.cleanOld t time now).tree.locate false p = .ok (.node name (.directory b))

/-- Cleaning removes what stands at a path if a condition holds, and keeps it otherwise. -/
def RemovesIff (l : StoreLocation) (t : FileTree) (time now : Double) (p : Path)
    (condition : Prop) : Prop :=
  condition ∧ l.Removes t time now p ∨ ¬ condition ∧ l.Keeps t time now p

/-- **What becomes of one file**: it is removed if the pattern covers it and it is disposable. -/
theorem removesIff_child (hroot : t.Rooted) (hdir : t.LeadsInto l.directory D)
    (hnames : t.ProperlyNamed D) (hslash : '/' ∉ l.name.toList)
    (hstars : Glob.hasDoubleStar l.pattern.toList = false) (httl : l.ttl.IsNumber)
    (time now : Double) {c : String} (hup : c ≠ "..") :
    l.RemovesIff t time now (l.directory.child c)
      (l.Covers c ∧ l.Disposable t now (l.directory.child c)) := by
  obtain ⟨removed, hresult, hmem, hcleared⟩ :=
    cleanOld_spec hroot hdir hnames hslash hstars httl time now
  by_cases hgoes : l.Covers c ∧ l.Disposable t now (l.directory.child c)
  · obtain ⟨_, found, hstat, _⟩ := hgoes.2.old
    obtain ⟨n, hnode, hloc⟩ := hdir.leadsTo.of_stat_child hroot hup hstat
    have hremoved : l.directory.child c ∈ removed :=
      (hmem _).mpr ⟨c, mem_entries.mpr ⟨n, hnode⟩, hgoes.1, rfl, hgoes.2⟩
    refine Or.inl ⟨hgoes, ⟨removed, hresult, hremoved⟩, hgoes.2.removable, fun name m hm => ?_⟩
    have hdir' := (hcleared.leadsInto hroot hdir).leadsTo
    rw [hcleared.locate_child hroot hdir.leadsTo hdir' hup hloc, entryPlace,
      hcleared.absent hremoved] at hm
    cases hm
  · have hkept : l.directory.child c ∉ removed := by
      intro hremoved
      obtain ⟨d, _, hcovers, heq, hdisposable⟩ := (hmem _).mp hremoved
      exact hgoes ⟨child_injective heq ▸ hcovers, hdisposable⟩
    refine Or.inr ⟨hgoes, ⟨removed, hresult, hkept⟩, fun hloc => ?_⟩
    exact Or.inl (hcleared.locate_kept hroot hdir hup hloc hkept)

/-! ## What a plain name covers -/

theorem isPlain_hyphen (hplain : Glob.isWild l.name = false) :
    ∀ c ∈ (l.name ++ "-").toList, Glob.IsPlain c := by
  intro c hc
  rw [String.toList_append, List.mem_append] at hc
  rcases hc with hc | hc
  · exact Glob.isPlain_of_not_wild hplain c hc
  · rw [List.mem_singleton.mp hc]
    exact ⟨by decide, by decide, by decide⟩

theorem isPlain_extension : ∀ c ∈ ".json".toList, Glob.IsPlain c :=
  Glob.isPlain_of_not_wild (by decide)

theorem hasDoubleStar_pattern (hplain : Glob.isWild l.name = false) :
    Glob.hasDoubleStar l.pattern.toList = false := by
  rw [pattern_toList]
  exact Glob.hasDoubleStar_one (fun c hc => (isPlain_hyphen hplain c hc).1)
    fun c hc => (isPlain_extension c hc).1

/-- **What a plain name covers**: the files named for it and for an instance. -/
theorem covers_iff_named (hplain : Glob.isWild l.name = false) {c : String} :
    l.Covers c ↔ ∃ mid, c = l.name ++ "-" ++ mid ++ ".json" := by
  unfold Covers
  rw [pattern_toList, Glob.matchesPieces_star_iff (isPlain_hyphen hplain) isPlain_extension]
  constructor
  · rintro ⟨mid, h⟩
    refine ⟨String.ofList mid, String.toList_inj.mp ?_⟩
    rw [h]
    simp
  · rintro ⟨mid, rfl⟩
    exact ⟨mid.toList, by simp⟩

/-- These are the files whose names continue the name after a hyphen, whether or not what precedes
their last hyphen is that name. -/
theorem covers_iff (hplain : Glob.isWild l.name = false) {stem : String} :
    l.Covers (stem ++ ".json") ↔ (l.name ++ "-").toList <+: stem.toList := by
  rw [covers_iff_named hplain]
  constructor
  · rintro ⟨mid, h⟩
    have hstem := congrArg String.toList h
    rw [String.toList_append, String.toList_append, List.append_left_inj] at hstem
    exact ⟨mid.toList, (hstem.trans String.toList_append).symm⟩
  · rintro ⟨mid, h⟩
    refine ⟨String.ofList mid, String.toList_inj.mp ?_⟩
    rw [String.toList_append, ← h]
    simp

/-! ## Files of other integrations -/

theorem make_eq_ok {w : Surroundings} {name id : String} {explicit : Option String} {ttl : Value}
    (h : make w name id explicit ttl = .ok l) : l = ⟨w.baseDirectory explicit, name, id, ttl⟩ := by
  unfold make at h
  split at h
  · cases h
  split at h
  · cases h
  split at h
  · cases h
  · split at h <;> cases h
  · cases h
    rfl

/-- The path of a file with the extension of store files. -/
theorem join_extension (p : Path) {stem : String} (hstem : '/' ∉ stem.toList) :
    p.join (stem ++ ".json") = p.child (stem ++ ".json") := by
  have hletter : 'j' ∈ (stem ++ ".json").toList := by simp
  refine p.join_of_noSlash ?_ (ne_of_mem_toList hletter (by decide))
    (ne_of_mem_toList hletter (by decide))
  rw [String.toList_append]
  simpa using hstem

/-- What becomes of a file that is named like a store file. -/
theorem removesIff_stem (hplain : Glob.isWild l.name = false) (hslash : '/' ∉ l.name.toList)
    (httl : l.ttl.IsNumber) (hroot : t.Rooted) (hdir : t.LeadsInto l.directory D)
    (hnames : t.ProperlyNamed D) (time now : Double) {stem : String} (hstem : '/' ∉ stem.toList) :
    l.RemovesIff t time now (l.directory.join (stem ++ ".json"))
      ((l.name ++ "-").toList <+: stem.toList ∧
        l.Disposable t now (l.directory.join (stem ++ ".json"))) := by
  have hletter : 'j' ∈ (stem ++ ".json").toList := by simp
  rw [join_extension l.directory hstem, ← covers_iff hplain]
  exact removesIff_child hroot hdir hnames hslash (hasDoubleStar_pattern hplain) httl time now
    (ne_of_mem_toList hletter (by decide))

end StoreLocation

open StoreLocation in
/-- **Which files of another integration are removed.**  Cleaning the location of an instance
removes a disposable file of any integration if its name, or its name and the instance, continue
the name of the location's integration after a hyphen, and keeps it otherwise.  Disposable depends
on the time to live of the location only, whatever that of the other integration is. -/
theorem cleanOld_other {w : Surroundings} {n₁ id₁ n₂ id₂ : String} {dir : Option String}
    {ttl₁ ttl₂ : Value} {l other : StoreLocation} {p : Path} {t : FileTree} {D : NodeName}
    (hmake : make w n₁ id₁ dir ttl₁ = .ok l) (hother : make w n₂ id₂ dir ttl₂ = .ok other)
    (hdefault : w.defaultPath n₂ dir = .ok p)
    (hplain : Glob.isWild n₁ = false) (hslash₁ : '/' ∉ n₁.toList) (hslash₂ : '/' ∉ n₂.toList)
    (hslash : '/' ∉ id₂.toList) (httl : ttl₁.IsNumber)
    (hroot : t.Rooted) (hdir : t.LeadsInto (w.baseDirectory dir) D) (hnames : t.ProperlyNamed D)
    (time now : Double) :
    l.RemovesIff t time now p
        ((n₁ ++ "-").toList <+: n₂.toList ∧ l.Disposable t now p) ∧
      l.RemovesIff t time now other.filePath
        ((n₁ ++ "-").toList <+: (n₂ ++ "-" ++ id₂).toList ∧
          l.Disposable t now other.filePath) := by
  obtain rfl := make_eq_ok hmake
  obtain rfl := make_eq_ok hother
  have hp : p = (w.baseDirectory dir).join (n₂ ++ ".json") := by
    unfold Surroundings.defaultPath at hdefault
    split at hdefault
    · cases hdefault
    · cases hdefault
      rfl
  have hstem : '/' ∉ (n₂ ++ "-" ++ id₂).toList := by
    simp [hslash₂, hslash]
  rw [hp]
  exact ⟨removesIff_stem hplain hslash₁ httl hroot hdir hnames time now hslash₂,
    removesIff_stem hplain hslash₁ httl hroot hdir hnames time now hstem⟩

/-! ### Two integrations of which one continues the name of the other -/

namespace TwoIntegrations

def surroundings : Surroundings := ⟨[], ⟨.root, ["tmp"]⟩⟩

/-- The location of an instance with a minute to live, and that of an instance of the other
integration with a day. -/
def redis : StoreLocation := ⟨⟨.root, ["base"]⟩, "redis", "a", .int 60⟩

def cluster : StoreLocation := ⟨⟨.root, ["base"]⟩, "redis-cluster", "b", .int 86400⟩

/-- The file of the other integration without instances. -/
def clusterPath : Path := ⟨.root, ["base", "redis-cluster.json"]⟩

def now : Double := .ofWhole 1000

/-- That file, written a thousand seconds ago, beside one that was written right now. -/
def tree : FileTree :=
  ⟨[(["base"], .directory (.ofWhole 1000)),
    (["base", "redis-cluster.json"], .file [] (.ofWhole 0)),
    (["base", "redis-cluster-b.json"], .file [] (.ofWhole 1000))]⟩

/-- What was written a thousand seconds ago is too old for a minute. -/
theorem stale_later (p : Path) : StoreFile.Stale ⟨p, .int 60⟩ now (.ofWhole 0) := by
  unfold StoreFile.Stale
  dsimp only
  decide +kernel

theorem rooted : tree.Rooted := rfl

theorem leadsInto : tree.LeadsInto redis.directory ["base"] where
  noNull := by decide
  short := by decide
  reaches := .arrived rfl rfl

theorem properlyNamed : tree.ProperlyNamed ["base"] := by
  have hentries : tree.entries ["base"] = ["redis-cluster.json", "redis-cluster-b.json"] := by
    decide +kernel
  unfold FileTree.ProperlyNamed
  rw [hentries]
  decide

theorem make_redis : StoreLocation.make surroundings "redis" "a" (some "/base") (.int 60) =
    .ok redis := by
  rfl

theorem make_cluster :
    StoreLocation.make surroundings "redis-cluster" "b" (some "/base") (.int 86400) =
      .ok cluster := by
  rfl

theorem defaultPath_cluster :
    surroundings.defaultPath "redis-cluster" (some "/base") = .ok clusterPath := by
  rfl

theorem disposable : redis.Disposable tree now clusterPath where
  old := by
    refine ⟨by decide +kernel, ⟨false, .ofWhole 0⟩, by decide +kernel, ?_⟩
    dsimp only [redis]
    exact stale_later clusterPath
  removable := by
    refine ⟨["base", "redis-cluster.json"], .file [] (.ofWhole 0), by decide +kernel, ?_⟩
    intro a h
    cases h

end TwoIntegrations

open TwoIntegrations in
theorem cleanOld_other_cluster :
    StoreLocation.make surroundings "redis" "a" (some "/base") (.int 60) = .ok redis ∧
      StoreLocation.make surroundings "redis-cluster" "b" (some "/base") (.int 86400) =
        .ok cluster ∧
      surroundings.defaultPath "redis-cluster" (some "/base") = .ok clusterPath ∧
      tree.Rooted ∧ tree.LeadsInto redis.directory ["base"] ∧ tree.ProperlyNamed ["base"] ∧
      redis.Removes tree now now clusterPath ∧ redis.Keeps tree now now cluster.filePath := by
  obtain ⟨hdefault, hinstance⟩ := cleanOld_other make_redis make_cluster defaultPath_cluster
    (by decide) (by decide) (by decide) (by decide) trivial rooted leadsInto properlyNamed
    now now
  refine ⟨make_redis, make_cluster, defaultPath_cluster, rooted, leadsInto, properlyNamed, ?_, ?_⟩
  · rcases hdefault with ⟨_, hremoves⟩ | ⟨hnot, _⟩
    · exact hremoves
    · exact absurd ⟨by decide, disposable⟩ hnot
  · rcases hinstance with ⟨⟨_, hdisposable⟩, _⟩ | ⟨_, hkeeps⟩
    · obtain ⟨_, found, hstat, hstale⟩ := hdisposable.old
      have hfound : tree.stat cluster.filePath = .ok ⟨false, .ofWhole 1000⟩ := by decide +kernel
      rw [hfound] at hstat
      cases hstat
      exact absurd hstale (by decide +kernel)
    · exact hkeeps

open TwoIntegrations in
/-- Cleaning for one integration removes the file of another one, which that would still trust. -/
theorem cleanOld_removes_trusted :
    StoreLocation.make surroundings "redis" "a" (some "/base") (.int 60) = .ok redis ∧
      StoreLocation.make surroundings "redis-cluster" "b" (some "/base") (.int 86400) =
        .ok cluster ∧
      surroundings.defaultPath "redis-cluster" (some "/base") = .ok clusterPath ∧
      StoreFile.Trusted ⟨clusterPath, cluster.ttl⟩ now (.ofWhole 0) ∧
      redis.Removes tree now now clusterPath := by
  have hstem : redis.directory.join ("redis-cluster" ++ ".json") = clusterPath := by
    decide +kernel
  have hslash : '/' ∉ "redis-cluster".toList := by decide
  have hcleaned := StoreLocation.removesIff_stem (l := redis) (by decide) (by decide) trivial rooted
    leadsInto properlyNamed now now hslash
  rw [hstem] at hcleaned
  refine ⟨make_redis, make_cluster, defaultPath_cluster, ?_, ?_⟩
  · unfold StoreFile.Trusted
    decide +kernel
  · rcases hcleaned with ⟨_, hremoves⟩ | ⟨hnot, _⟩
    · exact hremoves
    · exact absurd ⟨by decide, disposable⟩ hnot

end Baseline
