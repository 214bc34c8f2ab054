import Baseline.Proofs.FileTree.Search
import Baseline.Proofs.Store.Opening
import Baseline.Proofs.Store.Sibling
import Baseline.Store.Opening

/-!
# When cleaning is refused

Cleaning skips, file by file, what the file system refuses.  The search for the files is outside of
this: where it is refused cleaning fails with it, and the store of the instance does not open.

* `StoreLocation.Refused` : what the search for the stale files of a location is refused for.
* `StoreLocation.cleanOld_ok_iff` : **cleaning tells what it has removed unless this is so**, and
  `StoreLocation.refused_iff` what that means for a name without slashes.
* `Failure.IsAnnounced` : the failures that opening a store announces.
* `OpensRaising` : what makes the opening of the store of an instance fail with another one.
* `cleanOld_answers_iff` : **cleaning answers, and opening fails as announced, exactly where neither
  is so.**
* `cleanOld_stars` : the name `a**` lets both fail.
-/

set_option autoImplicit false

namespace Baseline

namespace FileTree

variable {t : FileTree} {p : Path}

/-- What cannot be removed at a path without a null character is refused by the file system. -/
theorem remove_fault (hnull : p.hasNull = false) {time : Double} {f : Fault}
    (h : t.remove time p = .error f) : ∃ e, f = .file e := by
  refine fault_of_locate hnull (fun place g hg => ?_) h
  split at hg <;> cases hg <;> exact ⟨_, rfl⟩

theorem stat_of_hasNull (h : p.hasNull = true) : t.stat p = .error .embeddedNull := by
  rw [stat, locate, if_pos h]
  rfl

end FileTree

/-! ## Cleaning -/

namespace StoreLocation

open FileTree Glob

variable {l : StoreLocation} {t : FileTree}

/-- What the search for the stale files of a location is refused for: its pattern is absolute, or
has two stars in a row in a component that is more than these, or a path that it has the file system
follow is too long. -/
inductive Refused (l : StoreLocation) (t : FileTree) : Prop where
  | absolute (h : Path.rootOf l.pattern ≠ .relative)
  | stars {s : String} (hs : s ∈ Path.components l.pattern) (hmore : s ≠ "**")
      (h : hasDoubleStar s.toList = true)
  | directory (h : t.TooLong l.directory)
  | below {chosen : List Selector} (hchosen : selectors l.pattern = .ok chosen)
      (hdir : t.isDirectory l.directory = .ok true) (h : t.AsksTooMuch chosen l.directory)

theorem raises_glob_iff_refused : Raises (t.glob l.directory l.pattern) ↔ l.Refused t := by
  rw [raises_glob_iff]
  constructor
  · rintro (hpattern | ⟨chosen, hchosen, hlong | ⟨hdir, hbelow⟩⟩)
    · rcases raises_selectors_iff.mp hpattern with hroot | ⟨s, hs, hmore, hstars⟩
      · exact .absolute hroot
      · exact .stars hs hmore hstars
    · exact .directory hlong
    · exact .below hchosen hdir hbelow
  · intro h
    cases h with
    | absolute h => exact Or.inl (raises_selectors_iff.mpr (Or.inl h))
    | stars hs hmore h => exact Or.inl (raises_selectors_iff.mpr (Or.inr ⟨_, hs, hmore, h⟩))
    | directory h =>
      by_cases hpattern : Raises (selectors l.pattern)
      · exact Or.inl hpattern
      · obtain ⟨chosen, hchosen⟩ := not_raises_iff.mp hpattern
        exact Or.inr ⟨chosen, hchosen, Or.inl h⟩
    | below hchosen hdir h => exact Or.inr ⟨_, hchosen, Or.inr ⟨hdir, h⟩⟩

/-- What is found below a directory has no null character in its path. -/
theorem noNull_of_glob (hnulls : t.NoNulls) {found : List Path}
    (h : t.glob l.directory l.pattern = .ok found) : ∀ q ∈ found, q.hasNull = false := by
  intro q hq
  obtain ⟨chosen, -, h⟩ := bind_eq_ok h
  obtain ⟨there, hthere, h⟩ := bind_eq_ok h
  cases there with
  | false =>
    cases h
    cases hq
  | true =>
    obtain ⟨below, hbelow, h⟩ := bind_eq_ok h
    cases h
    rw [List.mem_mergeSort] at hq
    exact noNull_of_select hnulls (noNull_of_question hthere) hbelow hq

/-- Where the search is not refused the stale files are told. -/
theorem findOld_of_not_refused (h : ¬ l.Refused t) (hnulls : t.NoNulls) (httl : l.ttl.IsNumber)
    (now : Double) : ∃ old, l.findOld t now = .ok old ∧ ∀ q ∈ old, q.hasNull = false := by
  rw [← raises_glob_iff_refused, not_raises_iff] at h
  obtain ⟨found, hfound⟩ := h
  have hnull := noNull_of_glob hnulls hfound
  have hanswers : ∀ q ∈ found, l.isOld t now q = .ok (decide (l.isOld t now q = .ok true)) :=
    fun q hq => isOld_eq_decide httl t now (hnull q hq)
  refine ⟨found.filter fun q => decide (l.isOld t now q = .ok true), ?_,
    fun q hq => hnull q (List.mem_of_mem_filter hq)⟩
  rw [findOld, bind_of_ok hfound, filterM_of_ok hanswers]

theorem findOld_of_refused (h : l.Refused t) (now : Double) : ∃ f, l.findOld t now = .error f := by
  obtain ⟨f, hf⟩ := raises_glob_iff_refused.mpr h
  rw [findOld, hf]
  exact ⟨f, rfl⟩

/-- Removing a file skips what the file system refuses. -/
theorem removeOld_ok {done : DiskStep (List Path)} {removed : List Path}
    (hdone : done.result = .ok removed) {q : Path} (hnull : q.hasNull = false) (time : Double) :
    ∃ removed, (removeOld time done q).result = .ok removed := by
  rw [removeOld, hdone]
  dsimp only
  cases hremove : done.tree.remove time q with
  | ok left => exact ⟨_, rfl⟩
  | error f =>
    obtain ⟨e, rfl⟩ := remove_fault hnull hremove
    exact ⟨removed, rfl⟩

theorem foldl_removeOld_ok {old : List Path} (hnull : ∀ q ∈ old, q.hasNull = false)
    (time : Double) {done : DiskStep (List Path)} {removed : List Path}
    (hdone : done.result = .ok removed) :
    ∃ removed, (old.foldl (removeOld time) done).result = .ok removed := by
  induction old generalizing done removed with
  | nil => exact ⟨removed, hdone⟩
  | cons q rest ih =>
    obtain ⟨more, hmore⟩ := removeOld_ok hdone (hnull q List.mem_cons_self) time
    exact ih (fun r hr => hnull r (List.mem_cons_of_mem q hr)) hmore

theorem cleanOld_of_refused (h : l.Refused t) (time now : Double) :
    ∃ f, l.cleanOld t time now = ⟨.error (.fault f), t, []⟩ := by
  obtain ⟨f, hf⟩ := findOld_of_refused h now
  rw [cleanOld, hf]
  exact ⟨f, rfl⟩

/-- **Cleaning tells what it has removed unless the search is refused.** -/
theorem cleanOld_ok_iff (hnulls : t.NoNulls) (httl : l.ttl.IsNumber) (time now : Double) :
    (∃ removed, (l.cleanOld t time now).result = .ok removed) ↔ ¬ l.Refused t := by
  constructor
  · rintro ⟨removed, hremoved⟩ hrefused
    obtain ⟨f, hf⟩ := cleanOld_of_refused hrefused time now
    rw [hf] at hremoved
    cases hremoved
  · intro hsearched
    obtain ⟨old, hold, hnull⟩ := findOld_of_not_refused hsearched hnulls httl now
    rw [cleanOld, hold]
    exact foldl_removeOld_ok hnull time rfl

/-- **Where the name has no slash**, the search is refused for two stars in a row in it, or for the
length of the directory. -/
theorem refused_iff (hslash : '/' ∉ l.name.toList) :
    l.Refused t ↔ hasDoubleStar l.name.toList = true ∨ t.TooLong l.directory := by
  obtain ⟨hnoSlash, hempty, hdot, hdeep, -⟩ := pattern_component hslash
  have hcomponents := Path.components_of_noSlash hnoSlash hempty hdot
  constructor
  · intro h
    cases h with
    | absolute h => exact absurd (Path.rootOf_of_noSlash hnoSlash) h
    | stars hs hmore h =>
      rw [hcomponents] at hs
      rw [List.mem_singleton.mp hs, hasDoubleStar_pattern_eq] at h
      exact Or.inl h
    | directory h => exact Or.inr h
    | below hchosen hdir h =>
      cases hstars : hasDoubleStar l.name.toList with
      | true => exact Or.inl rfl
      | false =>
        rw [selectors_pattern hslash ((hasDoubleStar_pattern_eq l).trans hstars)] at hchosen
        cases hchosen
        exact Or.inr (asksTooMuch_single_iff.mp h)
  · rintro (hstars | hlong)
    · rw [← hasDoubleStar_pattern_eq] at hstars
      exact .stars (by rw [hcomponents]; exact List.mem_singleton.mpr rfl) hdeep hstars
    · exact .directory hlong

/-- A name, an id and a positive whole time to live make a location. -/
theorem make_of_pos {w : Surroundings} {name id : String} {dir : Option String} {seconds : Int}
    (hname : name ≠ "") (hid : id ≠ "") (hpos : 0 < seconds) :
    make w name id dir (.int seconds) = .ok ⟨w.baseDirectory dir, name, id, .int seconds⟩ := by
  have hrelates : Value.relates .lessEqual (.int seconds) (.int 0) = .ok false := by
    have hless : ¬ seconds * 1 < 0 * 1 := by omega
    have hsame : ¬ seconds * 1 = 0 * 1 := by omega
    change Except.ok (decide (seconds * 1 < 0 * 1) || decide (seconds * 1 = 0 * 1)) = .ok false
    rw [decide_eq_false hless, decide_eq_false hsame]
    rfl
  rw [make, if_neg hname, if_neg hid, hrelates]

end StoreLocation

/-! ## Opening -/

/-- The failures that opening a store announces: the integration has no name, or an error about the
files of stores. -/
def Failure.IsAnnounced : Failure → Prop
  | .reported e => e = .nameMissing ∨ e.errorClass = .persistence
  | _ => False

namespace DiskStep

variable {α : Type} {step : DiskStep α}

/-- A step fails as announced, if it fails. -/
def Announces (step : DiskStep α) : Prop := ∀ e, step.result = .error e → e.IsAnnounced

theorem announces_of_ok {a : α} (h : step.result = .ok a) : step.Announces := by
  intro e he
  rw [h] at he
  cases he

theorem announces_iff_of_error {e : Failure} (h : step.result = .error e) :
    step.Announces ↔ e.IsAnnounced := by
  constructor
  · exact fun hstep => hstep e h
  · intro he e' h'
    rw [h] at h'
    cases h'
    exact he

end DiskStep

namespace StoreFile

open FileTree

/-- The path of a store file has a null character, and the file system does not refuse to make its
directory before this is seen. -/
def Unfit (f : StoreFile) (t : FileTree) (time : Double) : Prop :=
  f.path.hasNull = true ∧ ∀ e, (t.makeDirectories time f.path.parent).1 ≠ .error (.file e)

theorem find_of_hasNull {f : StoreFile} (hnull : f.path.hasNull = true) (t : FileTree)
    (now : Double) : f.find t now = .error (.fault .embeddedNull) := by
  rw [find_eq, stat_of_hasNull hnull]

/-- The failure to make the directory of a store file is announced if the file system refuses. -/
theorem isAnnounced_directoryFailure_iff (f : StoreFile) (g : Fault) :
    (f.directoryFailure g).IsAnnounced ↔ ∃ e, g = .file e := by
  unfold directoryFailure
  split
  · exact iff_of_true (Or.inr rfl) ⟨_, rfl⟩
  · rename_i hother
    exact iff_of_false (fun h => h) fun ⟨e, he⟩ => hother e he

/-- **The store of a file opens or fails as announced unless its path is unfit.** -/
theorem openStore_announces_iff {f : StoreFile} (httl : f.ttl.IsNumber) (t : FileTree)
    (time now : Double) : (f.openStore t time now).Announces ↔ ¬ f.Unfit t time := by
  unfold Unfit
  cases hnull : f.path.hasNull with
  | false =>
    refine iff_of_true ?_ fun h => by cases h.1
    rcases f.openStoreBy_spec keepsKeysApart_ofBytes hnull httl t time now with
      ⟨-, e, he, hclass⟩ | ⟨-, s, hs, -⟩
    · exact (DiskStep.announces_iff_of_error he).mpr (Or.inr hclass)
    · exact DiskStep.announces_of_ok hs
  | true =>
    cases hmake : t.makeDirectories time f.path.parent with
    | mk result made =>
      cases result with
      | ok =>
        have hopen : (f.openStore t time now).result = .error (.fault .embeddedNull) := by
          rw [openStore_eq, hmake]
          dsimp only
          rw [find_of_hasNull hnull]
        rw [DiskStep.announces_iff_of_error hopen]
        exact iff_of_false (fun h => h) fun h => h ⟨rfl, fun e he => by cases he⟩
      | error g =>
        have hopen : (f.openStore t time now).result = .error (f.directoryFailure g) := by
          rw [openStore_eq, hmake]
        rw [DiskStep.announces_iff_of_error hopen, isAnnounced_directoryFailure_iff]
        simp

end StoreFile

namespace Backing

theorem openFile_announces_iff {f : StoreFile} (httl : f.ttl.IsNumber) (t : FileTree)
    (time now : Double) : (openFile t time now f).Announces ↔ ¬ f.Unfit t time := by
  rw [← StoreFile.openStore_announces_iff httl t time now]
  have hresult : (openFile t time now f).result =
      (f.openStore t time now).result.map fun s => (.file f, s) := rfl
  cases hopen : (f.openStore t time now).result with
  | ok s =>
    rw [hopen] at hresult
    exact iff_of_true (DiskStep.announces_of_ok hresult) (DiskStep.announces_of_ok hopen)
  | error e =>
    rw [hopen] at hresult
    rw [DiskStep.announces_iff_of_error hresult, DiskStep.announces_iff_of_error hopen]

end Backing

namespace StoreLocation

variable {l : StoreLocation} {t : FileTree}

/-- The file behind the store of a location. -/
def file (l : StoreLocation) : StoreFile := ⟨l.filePath, l.ttl⟩

/-- After cleaning the store of the instance is opened. -/
theorem openCleaned_result {time now : Double} {removed : List Path}
    (h : (l.cleanOld t time now).result = .ok removed) :
    (l.openCleaned t time now).result =
      (Backing.openFile (l.cleanOld t time now).tree time now l.file).result := by
  unfold openCleaned
  dsimp only
  rw [h, file]

/-- **The store of an instance opens or fails as announced** unless the search is refused or the
path is unfit once the stale files are gone. -/
theorem openCleaned_announces_iff (hnulls : t.NoNulls) (httl : l.ttl.IsNumber)
    (time now : Double) :
    (l.openCleaned t time now).Announces ↔
      ¬ l.Refused t ∧ ¬ l.file.Unfit (l.cleanOld t time now).tree time := by
  by_cases hrefused : l.Refused t
  · obtain ⟨f, hf⟩ := cleanOld_of_refused hrefused time now
    have hopen : (l.openCleaned t time now).result = .error (.fault f) := by
      rw [openCleaned, hf]
    rw [DiskStep.announces_iff_of_error hopen]
    exact iff_of_false (fun h => h) fun h => h.1 hrefused
  · obtain ⟨removed, hremoved⟩ := (cleanOld_ok_iff hnulls httl time now).mpr hrefused
    rw [and_iff_right hrefused,
      ← Backing.openFile_announces_iff (f := l.file) httl (l.cleanOld t time now).tree time now,
      DiskStep.Announces, DiskStep.Announces, openCleaned_result hremoved]

end StoreLocation

namespace StoreSettings

/-- The location of an instance under settings. -/
def location (settings : StoreSettings) (w : Surroundings) (name id : String) : StoreLocation :=
  ⟨w.baseDirectory settings.baseDir, name, id, .int settings.ttlSeconds⟩

end StoreSettings

/-- What lets the opening of the store of an instance fail otherwise than announced: an explicit
path that is unfit; or, where there is none and the integration has a name, a search that is
refused or an unfit path of the instance's own file. -/
inductive OpensRaising (w : Surroundings) (t : FileTree) (time now : Double) (name id : String)
    (settings : StoreSettings) : Prop where
  | explicit {path : String} (hpersist : settings.persist = true)
      (hpath : present? settings.path = some path)
      (h : StoreFile.Unfit ⟨Path.ofText path, .int settings.ttlSeconds⟩ t time)
  | search (hpersist : settings.persist = true) (hpath : present? settings.path = none)
      (hname : name ≠ "") (h : (settings.location w name id).Refused t)
  | file (hpersist : settings.persist = true) (hpath : present? settings.path = none)
      (hname : name ≠ "")
      (h : (settings.location w name id).file.Unfit
        ((settings.location w name id).cleanOld t time now).tree time)

section OpenFor

variable {w : Surroundings} {t : FileTree} {time now : Double} {name id : String}
  {settings : StoreSettings}

theorem openFor_of_memory (hpersist : settings.persist = false) (w : Surroundings) (t : FileTree)
    (time now : Double) (name : String) (id : Option String) :
    openFor w t time now name id settings = ⟨.ok (.memory, .empty), t, []⟩ := by
  rw [openFor, hpersist]
  rfl

theorem openFor_of_path (hpersist : settings.persist = true) {path : String}
    (hpath : present? settings.path = some path) (w : Surroundings) (t : FileTree)
    (time now : Double) (name : String) (id : Option String) :
    openFor w t time now name id settings =
      Backing.openFile t time now ⟨Path.ofText path, .int settings.ttlSeconds⟩ := by
  rw [openFor, hpersist, hpath]
  rfl

theorem openFor_of_instance (hpersist : settings.persist = true)
    (hpath : present? settings.path = none) (hid : id ≠ "") (hpos : 0 < settings.ttlSeconds)
    (w : Surroundings) (t : FileTree) (time now : Double) (name : String) :
    openFor w t time now name (some id) settings =
      if name = "" then ⟨.error (.reported .nameMissing), t, []⟩
      else (settings.location w name id).openCleaned t time now := by
  have hpresent : present? (some id) = some id := by simp [present?, hid]
  rw [openFor, hpersist, hpath, hpresent]
  by_cases hname : name = ""
  · rw [if_pos hname, hname]
    rfl
  · rw [if_neg hname, Bool.not_true, if_neg Bool.false_ne_true]
    dsimp only
    rw [StoreLocation.make_of_pos hname hid hpos]
    rfl

/-- **Opening the store of an instance fails as announced, if at all, but for these causes.** -/
theorem openFor_announces_iff (hnulls : t.NoNulls) (hid : id ≠ "")
    (hpos : 0 < settings.ttlSeconds) :
    (openFor w t time now name (some id) settings).Announces ↔
      ¬ OpensRaising w t time now name id settings := by
  cases hpersist : settings.persist with
  | false =>
    rw [openFor_of_memory hpersist]
    refine iff_of_true (DiskStep.announces_of_ok rfl) fun h => ?_
    cases h <;> simp_all
  | true =>
    cases hpath : present? settings.path with
    | some path =>
      rw [openFor_of_path hpersist hpath, Backing.openFile_announces_iff (f := ⟨_, .int _⟩) trivial]
      refine not_congr ⟨.explicit hpersist hpath, fun h => ?_⟩
      cases h <;> simp_all
    | none =>
      rw [openFor_of_instance hpersist hpath hid hpos]
      by_cases hname : name = ""
      · rw [if_pos hname, DiskStep.announces_iff_of_error rfl]
        refine iff_of_true (Or.inl rfl) fun h => ?_
        cases h <;> simp_all
      · rw [if_neg hname, StoreLocation.openCleaned_announces_iff
          (l := settings.location w name id) hnulls trivial, ← not_or]
        refine not_congr ⟨?_, fun h => ?_⟩
        · rintro (hsearch | hfile)
          · exact .search hpersist hpath hname hsearch
          · exact .file hpersist hpath hname hfile
        · cases h <;> simp_all

end OpenFor

/-- **Where cleaning answers, and where opening fails as announced.**  Cleaning tells what it has
removed unless the search is refused; for a name without slashes this is due to two stars in a row
in it, or to the length of the directory's path.  The store of an instance opens or fails as
announced but for the causes of `OpensRaising`. -/
theorem cleanOld_answers_iff {t : FileTree} (hnulls : t.NoNulls) (w : Surroundings)
    (time now : Double) (name id : String) :
    (∀ dir ttl l, StoreLocation.make w name id dir ttl = .ok l → ttl.IsNumber →
      ((∃ removed, (l.cleanOld t time now).result = .ok removed) ↔ ¬ l.Refused t) ∧
        ('/' ∉ name.toList →
          (l.Refused t ↔ Glob.hasDoubleStar name.toList = true ∨ t.TooLong l.directory))) ∧
      ∀ settings : StoreSettings, id ≠ "" → 0 < settings.ttlSeconds →
        ((openFor w t time now name (some id) settings).Announces ↔
          ¬ OpensRaising w t time now name id settings) := by
  refine ⟨fun dir ttl l hmake httl => ?_, fun _ hid hpos => openFor_announces_iff hnulls hid hpos⟩
  obtain rfl := StoreLocation.make_eq_ok hmake
  refine ⟨StoreLocation.cleanOld_ok_iff hnulls httl time now, fun hslash => ?_⟩
  exact StoreLocation.refused_iff (l := ⟨w.baseDirectory dir, name, id, ttl⟩) hslash

/-! ### A name with stars -/

namespace Starred

/-- What the process is told. -/
def surroundings : Surroundings := ⟨[], ⟨.root, ["tmp"]⟩⟩

/-- A location of an integration with two stars in a row in its name, and one without. -/
def location : StoreLocation := ⟨⟨.root, ["base"]⟩, "a**", "x", .int 60⟩

def plain : StoreLocation := ⟨⟨.root, ["base"]⟩, "a", "x", .int 60⟩

/-- The settings with their directory. -/
def settings : StoreSettings := ⟨true, none, some "/base", 60⟩

/-- An empty directory. -/
def tree : FileTree := ⟨[(["base"], .directory (.ofWhole 1000))]⟩

def now : Double := .ofWhole 1000

theorem make_location :
    StoreLocation.make surroundings "a**" "x" (some "/base") (.int 60) = .ok location := by
  rfl

theorem make_plain :
    StoreLocation.make surroundings "a" "x" (some "/base") (.int 60) = .ok plain := by
  rfl

theorem noNulls : tree.NoNulls := by
  change ∀ n ∈ [(["base"], FileNode.directory (.ofWhole 1000))], _
  simp

theorem not_tooLong : ¬ tree.TooLong ⟨.root, ["base"]⟩ := by
  intro h
  exact h.ne_ok (.node ["base"] (.directory (.ofWhole 1000))) rfl

theorem not_refused : ¬ plain.Refused tree := by
  rw [StoreLocation.refused_iff (by decide)]
  rintro (hstars | hlong)
  · exact absurd hstars (by decide)
  · exact not_tooLong hlong

/-- The fault of a pattern with a component that has two stars in a row and more. -/
def badPattern : Failure :=
  .fault (.badPattern "Invalid pattern: '**' can only be an entire path component")

theorem cleanOld_location :
    (location.cleanOld tree now now).result = .error badPattern := by
  rfl

end Starred

open Starred in
theorem cleanOld_answers_iff_stars :
    tree.NoNulls ∧
      (StoreLocation.make surroundings "a**" "x" (some "/base") (.int 60) = .ok location ∧
        ¬ ∃ removed, (location.cleanOld tree now now).result = .ok removed) ∧
      (StoreLocation.make surroundings "a" "x" (some "/base") (.int 60) = .ok plain ∧
        ∃ removed, (plain.cleanOld tree now now).result = .ok removed) ∧
      "x" ≠ "" ∧ 0 < settings.ttlSeconds ∧
      (openFor surroundings tree now now "a" (some "x") settings).Announces ∧
      ¬ (openFor surroundings tree now now "a**" (some "x") settings).Announces := by
  obtain ⟨hclean, hopen⟩ := cleanOld_answers_iff noNulls surroundings now now "a" "x"
  obtain ⟨hclean', hopen'⟩ := cleanOld_answers_iff noNulls surroundings now now "a**" "x"
  have hrefused : location.Refused tree :=
    ((hclean' _ _ _ make_location trivial).2 (by decide)).mpr (Or.inl (by decide))
  refine ⟨noNulls, ⟨make_location, fun h => ?_⟩, ⟨make_plain, ?_⟩, by decide, by decide, ?_, ?_⟩
  · exact (hclean' _ _ _ make_location trivial).1.mp h hrefused
  · exact (hclean _ _ _ make_plain trivial).1.mpr not_refused
  · rw [hopen settings (by decide) (by decide)]
    intro h
    cases h with
    | explicit _ hpath => cases hpath
    | search _ _ _ h => exact not_refused h
    | file _ _ _ h => exact absurd h.1 (by decide)
  · rw [hopen' settings (by decide) (by decide)]
    exact fun h => h (.search rfl rfl (by decide) hrefused)

open Starred in
/-- **Cleaning raises**, and with it opening, though nothing is missing or refused on the disk: two
stars in a row in the name make no pattern. -/
theorem cleanOld_stars :
    StoreLocation.make surroundings "a**" "x" (some "/base") (.int 60) = .ok location ∧
      (location.cleanOld tree now now).result = .error badPattern ∧
      (openFor surroundings tree now now "a**" (some "x") settings).result = .error badPattern ∧
      ¬ badPattern.IsAnnounced := by
  refine ⟨make_location, cleanOld_location, ?_, fun h => h⟩
  rw [openFor_of_instance rfl rfl (by decide) (by decide), if_neg (by decide),
    StoreLocation.openCleaned]
  rw [show settings.location surroundings "a**" "x" = location from rfl, cleanOld_location]

end Baseline
