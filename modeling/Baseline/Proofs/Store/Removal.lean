import Baseline.Proofs.Store.Agreement

/-!
# What a cleaning does, exactly

Cleaning removes what is due in the base directory, in the order of names, and leaves everything
else alone.  It goes by paths, one after the other, and so there are two things that a directory
listing does not show.  The path of the base directory may run through a link that stands in that
directory: once that link is gone, the path leads nowhere, and what is due later is kept.  And every
removal gives the base directory a new time, which a link to that directory has as well.

* `StoreLocation.Due` : which entries of the base directory are due.
* `StoreLocation.CutBy` : the removal of what is due is cut short by a link.
* `StoreLocation.Removal`, `StoreLocation.cleanOld_removal` : **what is removed, and that everything
  else is there.**
* `StoreLocation.link_of_due_again` : what a second cleaning can find.
* `cleanOld_exact` : **the outcome of a cleaning and of a second one.**
* `cleanOld_own_links` : what is kept though it is due, and what only the second cleaning removes.
-/

set_option autoImplicit false

namespace Baseline

namespace FileTree

variable {t t' : FileTree} {p : Path} {D : NodeName}

/-- The entries that are left have proper names. -/
theorem Cleared.properlyNamed {gone : String → Prop} (h : Cleared D gone t t')
    (hnames : t.ProperlyNamed D) : t'.ProperlyNamed D := by
  intro c hc
  obtain ⟨n, hnode⟩ := mem_entries.mp hc
  have hthere : ¬ gone c := by
    intro hgone
    rw [h.absent hgone] at hnode
    cases hnode
  rw [h.entry hthere] at hnode
  exact hnames c (mem_entries.mpr ⟨n, hnode⟩)

theorem stat_of_directory {name : NodeName} {a : Double}
    (h : t.locate true p = .ok (.node name (.directory a))) : t.stat p = .ok ⟨true, a⟩ := by
  rw [stat, h]
  rfl

theorem leadsTo_of_isDirectory (h : t.isDirectory p = .ok true) :
    ∃ D, t.LeadsTo p D := by
  obtain ⟨place, hloc, hplace⟩ := locate_of_isDirectory h
  cases place with
  | root => exact ⟨[], .root, hloc, rfl⟩
  | free directory last => exact hplace.elim
  | node name n =>
    cases n with
    | directory a => exact ⟨name, _, hloc, rfl⟩
    | file content time => exact hplace.elim
    | link target => exact hplace.elim

/-- An entry that leads to a directory, and is none itself, is a link. -/
theorem link_of_child (hroot : t.Rooted) (hdir : t.LeadsTo p D) {c : String} (hup : c ≠ "..")
    (hfile : ∀ a, t.node? (D ++ [c]) ≠ some (.directory a)) {place : Place}
    (hloc : t.locate true (p.child c) = .ok place) (hplace : place.IsDirectory) :
    ∃ target, t.node? (D ++ [c]) = some (.link target) := by
  obtain ⟨E, left, habove, hlisted, hrest⟩ :=
    walkLinks_append hroot (List.cons_ne_nil c []) listed_root (locate_eq_ok.mp hloc).2.2
  obtain ⟨above, hbase, hnamed⟩ := hdir
  rw [(locate_eq_ok.mp hbase).2.2] at habove
  cases habove
  obtain rfl := hnamed.unique (isDirectoryNamed_directoryPlace hroot hlisted)
  exact link_of_walkLinks hup hfile hrest hplace

end FileTree

namespace StoreLocation

open FileTree

variable {l : StoreLocation} {t left : FileTree} {D : NodeName} {time now : Double}

/-! ## What is due -/

/-- An entry of the base directory is due: it is named like the store file of an instance, but not
of the location's own, it is a file or a link, and what it leads to is too old. -/
structure Due (l : StoreLocation) (t : FileTree) (D : NodeName) (now : Double) (c : String) :
    Prop where
  named : ∃ mid, c = l.name ++ "-" ++ mid ++ ".json"
  other : c ≠ fileName l.name l.id
  stands : ∃ n, t.node? (D ++ [c]) = some n ∧ ∀ a, n ≠ .directory a
  stale : ∃ found, t.stat (l.directory.child c) = .ok found ∧
    StoreFile.Stale ⟨l.directory.child c, l.ttl⟩ now found.time

/-- What is named like a store file is not the directory above. -/
theorem ne_up_of_named {c : String} (h : ∃ mid, c = l.name ++ "-" ++ mid ++ ".json") :
    c ≠ ".." := by
  obtain ⟨mid, rfl⟩ := h
  have hletter : 'j' ∈ (l.name ++ "-" ++ mid ++ ".json").toList := by simp
  exact ne_of_mem_toList hletter (by decide)

theorem filePath_eq_child (hslash : '/' ∉ l.name.toList) (hid : '/' ∉ l.id.toList) :
    l.filePath = l.directory.child (fileName l.name l.id) := by
  have hstem : '/' ∉ (l.name ++ "-" ++ l.id).toList := by
    simp [hslash, hid]
  exact join_extension l.directory hstem

/-- **What is due is what is found and can be removed.** -/
theorem due_iff (hroot : t.Rooted) (hdir : t.LeadsTo l.directory D)
    (hplain : Glob.isWild l.name = false) (hslash : '/' ∉ l.name.toList)
    (hid : '/' ∉ l.id.toList) {c : String} :
    l.Due t D now c ↔ (c ∈ t.entries D ∧ l.Covers c ∧ l.Old t now (l.directory.child c)) ∧
      t.Removable (l.directory.child c) := by
  have hother : l.directory.child c ≠ l.filePath ↔ c ≠ fileName l.name l.id := by
    rw [filePath_eq_child hslash hid]
    exact not_congr ⟨child_injective, fun h => h ▸ rfl⟩
  constructor
  · rintro ⟨hnamed, hne, ⟨n, hnode, hfile⟩, found, hstat, hstale⟩
    obtain ⟨m, hm, hloc⟩ := hdir.of_stat_child hroot (ne_up_of_named hnamed) hstat
    rw [hnode] at hm
    cases hm
    exact ⟨⟨mem_entries.mpr ⟨n, hnode⟩, (covers_iff_named hplain).mpr hnamed, hother.mpr hne,
      found, hstat, hstale⟩, _, n, hloc, hfile⟩
  · rintro ⟨⟨_, hcovers, hne, hstale⟩, name, n, hloc, hfile⟩
    have hnamed := (covers_iff_named hplain).mp hcovers
    obtain rfl := hdir.name_of_locate hroot (ne_up_of_named hnamed) hloc
    exact ⟨hnamed, hother.mp hne, ⟨n, stands_of_locate hloc, hfile⟩, hstale⟩

/-! ## One cleaning -/

/-- The removal of what is due is cut short by a link in the base directory: the path of that
directory ran through it and leads nowhere without it, so nothing is removed that comes later. -/
structure CutBy (l : StoreLocation) (t : FileTree) (D : NodeName) (now : Double)
    (removed : List String) (left : FileTree) (last : String) : Prop where
  link : ∃ target, t.node? (D ++ [last]) = some (.link target)
  gone : last ∈ removed
  runsThrough : ¬ t.LeadsInto l.directory D
  leadsNowhere : left.isDirectory l.directory = .ok false
  due : ∀ c, c ∈ removed ↔ l.Due t D now c ∧ c ≤ last

/-- **What one cleaning removes**: what is due, in the order of names and nothing twice, unless a
link cuts that short.  Everything else is there. -/
structure Removal (l : StoreLocation) (t : FileTree) (D : NodeName) (now : Double)
    (removed : List String) (left : FileTree) : Prop where
  sorted : removed.Pairwise (· < ·)
  due : (∀ c, c ∈ removed ↔ l.Due t D now c) ∨ ∃ last, l.CutBy t D now removed left last
  others : Cleared D (· ∈ removed) t left

theorem Removal.due_of_mem {removed : List String} (h : l.Removal t D now removed left)
    {c : String} (hc : c ∈ removed) : l.Due t D now c := by
  rcases h.due with hall | ⟨last, hcut⟩
  · exact (hall c).mp hc
  · exact ((hcut.due c).mp hc).1

theorem mem_map_child {p : Path} {names : List String} {c : String} :
    p.child c ∈ names.map p.child ↔ c ∈ names := by
  rw [List.mem_map]
  constructor
  · rintro ⟨d, hd, heq⟩
    exact child_injective heq ▸ hd
  · exact fun hc => ⟨c, hc, rfl⟩

/-- Of names in their order, those up to one of them are no greater. -/
theorem mem_early_iff {early late : List String} {last c : String}
    (hsorted : (early ++ last :: late).Pairwise (· ≤ ·)) :
    c ∈ early ++ [last] ↔ c ∈ early ++ last :: late ∧ c ≤ last := by
  obtain ⟨_, hrest, hbefore⟩ := List.pairwise_append.mp hsorted
  have hlate : ∀ d ∈ late, last ≤ d := (List.pairwise_cons.mp hrest).1
  rw [List.mem_append, List.mem_append, List.mem_singleton, List.mem_cons]
  constructor
  · rintro (hc | rfl)
    · exact ⟨Or.inl hc, hbefore c hc last List.mem_cons_self⟩
    · exact ⟨Or.inr (Or.inl rfl), String.le_refl c⟩
  · rintro ⟨hc | rfl | hc, hle⟩
    · exact Or.inl hc
    · exact Or.inr rfl
    · exact Or.inr (String.le_antisymm hle (hlate c hc))

/-- What has come of the removal of what was found, told by names. -/
theorem Progress.removal {old : List String} {removed : List Path}
    (h : l.Progress t D time (old.map l.directory.child) removed left) (hroot : t.Rooted)
    (hsorted : old.Pairwise (· ≤ ·)) (hdir : t.LeadsTo l.directory D)
    (hdue : ∀ c, l.Due t D now c ↔ c ∈ old ∧ t.Removable (l.directory.child c)) :
    ∃ names : List String, removed = names.map l.directory.child ∧
      l.Removal t D now names left := by
  obtain ⟨names, hnames, rfl⟩ := List.sublist_map_iff.mp h.ordered
  have hgone : (fun c => l.directory.child c ∈ names.map l.directory.child) = (· ∈ names) := by
    funext c
    exact propext mem_map_child
  refine ⟨names, rfl, ?_, ?_, hgone ▸ h.cleared⟩
  · have honce : names.Nodup :=
      List.Pairwise.of_map l.directory.child (fun c d hne heq => hne (heq ▸ rfl)) h.once
    refine ((hsorted.sublist hnames).and honce).imp fun {c d} hboth => ?_
    exact lt_of_le_of_ne hboth.1 hboth.2
  · rcases h.course with ⟨_, hall⟩ | ⟨early, last, late, target, hold, hlink, hlast, hmissing, hall⟩
    · left
      intro c
      rw [← mem_map_child, hall, mem_map_child, hdue]
    · right
      obtain ⟨before, rest, rfl, rfl, hrest⟩ := List.map_eq_append_iff.mp hold
      obtain ⟨d, after, rfl, hd, rfl⟩ := List.map_eq_cons_iff.mp hrest
      obtain rfl := child_injective hd
      refine ⟨d, ⟨target, hlink⟩, mem_map_child.mp hlast, fun hinto => ?_,
        isDirectory_of_missing hdir.noNull hdir.short hmissing, fun c => ?_⟩
      · exact not_missing_of_leadsTo (h.cleared.leadsInto hroot hinto).leadsTo hmissing
      · have hearly : before.map l.directory.child ++ [l.directory.child d] =
            (before ++ [d]).map l.directory.child := by
          rw [List.map_append]
          rfl
        rw [← mem_map_child, hall, hearly, mem_map_child, mem_early_iff hsorted, hdue]
        exact and_right_comm

/-- **What a cleaning removes.** -/
theorem cleanOld_removal (hroot : t.Rooted) (hdir : t.LeadsTo l.directory D)
    (hnames : t.ProperlyNamed D) (hplain : Glob.isWild l.name = false)
    (hslash : '/' ∉ l.name.toList) (hid : '/' ∉ l.id.toList) (httl : l.ttl.IsNumber)
    (time now : Double) :
    ∃ removed : List String,
      (l.cleanOld t time now).result = .ok (removed.map l.directory.child) ∧
      l.Removal t D now removed (l.cleanOld t time now).tree ∧
      ∀ b, (l.cleanOld t time now).tree.node? D = some (.directory b) →
        t.node? D = some (.directory b) ∨ b = time ∧ removed ≠ [] := by
  obtain ⟨old, paths, hsorted, hmem, hresult, hprogress⟩ :=
    cleanOld_progress hroot hdir hnames hslash (hasDoubleStar_pattern hplain) httl time now
  have hdue : ∀ c, l.Due t D now c ↔ c ∈ old ∧ t.Removable (l.directory.child c) := by
    intro c
    rw [due_iff hroot hdir hplain hslash hid, hmem]
  obtain ⟨removed, rfl, hremoval⟩ := hprogress.removal hroot hsorted hdir hdue
  refine ⟨removed, hresult, hremoval, fun b hb => (hprogress.stamped b hb).imp_right fun h => ?_⟩
  exact ⟨h.1, fun hnil => h.2 (by rw [hnil, List.map_nil])⟩

/-- Where there is no directory, cleaning does nothing. -/
theorem cleanOld_of_no_directory (hplain : Glob.isWild l.name = false)
    (hslash : '/' ∉ l.name.toList) (h : t.isDirectory l.directory = .ok false)
    (time now : Double) : l.cleanOld t time now = ⟨.ok [], t, []⟩ := by
  have hglob : t.glob l.directory l.pattern = .ok [] := by
    rw [glob, selectors_pattern hslash (hasDoubleStar_pattern hplain), bind_of_ok rfl,
      bind_of_ok h]
    rfl
  have hfind : l.findOld t now = .ok [] := by
    rw [findOld, bind_of_ok hglob]
    rfl
  rw [cleanOld, hfind]
  rfl

/-! ## A second cleaning -/

/-- **What a second cleaning can find**: a link to the base directory, which has the time of the
removals now. -/
theorem link_of_due_again (hroot : t.Rooted) (hdir : t.LeadsTo l.directory D)
    {removed : List String} (hcleared : Cleared D (· ∈ removed) t left)
    (hstamped : ∀ b, left.node? D = some (.directory b) →
      t.node? D = some (.directory b) ∨ b = time ∧ removed ≠ [])
    {c : String} (hagain : l.Due left D now c) (hnot : ¬ l.Due t D now c) :
    t.LeadsTo (l.directory.child c) D ∧ (∃ target, t.node? (D ++ [c]) = some (.link target)) ∧
      removed ≠ [] ∧ StoreFile.Stale ⟨l.directory.child c, l.ttl⟩ now time := by
  obtain ⟨hnamed, hother, ⟨n, hnode, hfile⟩, found, hstat, hstale⟩ := hagain
  have hthere : c ∉ removed := by
    intro hc
    rw [hcleared.absent hc] at hnode
    cases hnode
  rw [hcleared.entry hthere] at hnode
  -- the entry is as it was, so it is due now since another time is found
  have hdiffers : left.stat (l.directory.child c) ≠ t.stat (l.directory.child c) :=
    fun h => hnot ⟨hnamed, hother, ⟨n, hnode, hfile⟩, found, h ▸ hstat, hstale⟩
  obtain ⟨place, hloc, _⟩ := bind_eq_ok hstat
  obtain ⟨hnull, hshort, hwalk⟩ := locate_eq_ok.mp hloc
  have hgoes := hcleared.walkLinks hroot (Nat.le_refl maxLinks) listed_root
    (l.directory.child c).parts
  generalize hbefore : t.walkLinks true [] (l.directory.child c).parts maxLinks = r at hgoes
  generalize hafter : left.walkLinks true [] (l.directory.child c).parts maxLinks = r' at hgoes
  cases hgoes with
  | same => exact absurd (stat_congr (locate_congr (hafter.trans hbefore.symm))) hdiffers
  | gone _ _ _ _ _ hmissing =>
    rw [stat_of_missing hnull hshort (hafter ▸ hmissing)] at hstat
    cases hstat
  | directory a b =>
    have hold := locate_eq_ok.mpr ⟨hnull, hshort, hbefore⟩
    have hnew := locate_eq_ok.mpr ⟨hnull, hshort, hafter⟩
    have holdNode : t.node? D = some (.directory a) := stands_of_locate hold
    have hne : a ≠ b := by
      rintro rfl
      exact hdiffers ((stat_of_directory hnew).trans (stat_of_directory hold).symm)
    have hlink := link_of_child hroot hdir (ne_up_of_named hnamed)
      (fun a' ha => hfile a' (Option.some.inj (hnode.symm.trans ha))) hold trivial
    rw [stat_of_directory hnew] at hstat
    cases hstat
    rcases hstamped b (stands_of_locate hnew) with hb | ⟨rfl, hsome⟩
    · rw [holdNode] at hb
      cases hb
      exact absurd rfl hne
    · exact ⟨⟨_, hold, rfl⟩, hlink, hsome, hstale⟩

/-- **What a second cleaning removes**: nothing but links to the base directory, and those only if
the time of the first removals is too old. -/
theorem Removal.again {removed : List String} (h : l.Removal t D now removed left)
    (hroot : t.Rooted) (hdir : t.LeadsTo l.directory D) (hnames : t.ProperlyNamed D)
    (hplain : Glob.isWild l.name = false) (hslash : '/' ∉ l.name.toList)
    (hid : '/' ∉ l.id.toList) (httl : l.ttl.IsNumber)
    (hstamped : ∀ b, left.node? D = some (.directory b) →
      t.node? D = some (.directory b) ∨ b = time ∧ removed ≠ []) (time' : Double) :
    ∃ again : List String,
      (l.cleanOld left time' now).result = .ok (again.map l.directory.child) ∧
      ∀ c ∈ again, t.LeadsTo (l.directory.child c) D ∧
        (∃ target, t.node? (D ++ [c]) = some (.link target)) ∧
        removed ≠ [] ∧ StoreFile.Stale ⟨l.directory.child c, l.ttl⟩ now time := by
  rcases h.others.leadsTo_or_missing hroot hdir with hdir' | ⟨hmissing, _⟩
  · obtain ⟨again, hagain, hremoval, _⟩ := cleanOld_removal (h.others.rooted hroot) hdir'
      (h.others.properlyNamed hnames) hplain hslash hid httl time' now
    refine ⟨again, hagain, fun c hc => ?_⟩
    have hdue := hremoval.due_of_mem hc
    refine link_of_due_again hroot hdir h.others hstamped hdue fun hbefore => ?_
    rcases h.due with hall | ⟨last, hcut⟩
    · -- what was due before is gone
      obtain ⟨n, hnode, _⟩ := hdue.stands
      rw [h.others.absent ((hall c).mpr hbefore)] at hnode
      cases hnode
    · have hnowhere := hcut.leadsNowhere
      rw [hdir'.isDirectory] at hnowhere
      cases hnowhere
  · refine ⟨[], ?_, by simp⟩
    rw [cleanOld_of_no_directory hplain hslash
      (isDirectory_of_missing hdir.noNull hdir.short hmissing)]
    rfl

end StoreLocation

open StoreLocation in
/-- **The outcome of a cleaning and of a second one.**  Where the base directory is missing, cleaning
does nothing.  Where it is there, what is due goes in the order of names, and everything else stays,
unless a link through which the path of the base directory runs is due itself: what is due later is
kept then.  A second cleaning at the same time removes nothing but links to the base directory, and
those only if the time that the removals gave to that directory is too old. -/
theorem cleanOld_exact {w : Surroundings} {name id : String} {dir : Option String} {ttl : Value}
    {l : StoreLocation} {t : FileTree} (hmake : make w name id dir ttl = .ok l)
    (hname : '/' ∉ name.toList) (hplain : Glob.isWild name = false) (hid : '/' ∉ id.toList)
    (httl : ttl.IsNumber) (hroot : t.Rooted) (hnames : ∀ D, t.ProperlyNamed D)
    (time time' now : Double) :
    (t.isDirectory l.directory = .ok false → l.cleanOld t time now = ⟨.ok [], t, []⟩) ∧
      (t.isDirectory l.directory = .ok true → ∃ (D : NodeName) (removed again : List String),
        t.directoryName? l.directory = some D ∧
        (l.cleanOld t time now).result = .ok (removed.map l.directory.child) ∧
        l.Removal t D now removed (l.cleanOld t time now).tree ∧
        (l.cleanOld (l.cleanOld t time now).tree time' now).result =
          .ok (again.map l.directory.child) ∧
        ∀ c ∈ again, t.LeadsTo (l.directory.child c) D ∧
          (∃ target, t.node? (D ++ [c]) = some (.link target)) ∧
          removed ≠ [] ∧ StoreFile.Stale ⟨l.directory.child c, ttl⟩ now time) := by
  obtain rfl := make_eq_ok hmake
  refine ⟨fun hno => cleanOld_of_no_directory hplain hname hno time now, fun hthere => ?_⟩
  obtain ⟨D, hdir⟩ := FileTree.leadsTo_of_isDirectory hthere
  obtain ⟨removed, hresult, hremoval, hstamped⟩ :=
    cleanOld_removal hroot hdir (hnames D) hplain hname hid httl time now
  obtain ⟨again, hagain, hlinks⟩ :=
    hremoval.again hroot hdir (hnames D) hplain hname hid httl hstamped time'
  exact ⟨D, removed, again, hdir.directoryName?, hresult, hremoval, hagain, hlinks⟩

/-! ### Instances side by side -/

namespace Siblings

open StaleSibling (surroundings first now)

/-- A directory in which the location's own file is too old, and of the other instances one file,
one directory, one link to that file and one that leads nowhere; one file is fresh. -/
def tree : FileTree :=
  ⟨[(["base"], .directory (.ofWhole 1000)),
    (["base", "redis-a.json"], .file [] (.ofWhole 0)),
    (["base", "redis-link.json"], .link "redis-old.json"),
    (["base", "redis-old.json"], .file [] (.ofWhole 0)),
    (["base", "redis-gone.json"], .link "nowhere"),
    (["base", "redis-folder.json"], .directory (.ofWhole 0)),
    (["base", "redis-new.json"], .file [] (.ofWhole 990))]⟩

theorem rooted : tree.Rooted := rfl

theorem properlyNamed (D : NodeName) : tree.ProperlyNamed D := by
  refine FileTree.properlyNamed_of_nodes ?_ D
  change ∀ name ∈ [["base"], ["base", "redis-a.json"], ["base", "redis-link.json"],
    ["base", "redis-old.json"], ["base", "redis-gone.json"], ["base", "redis-folder.json"],
    ["base", "redis-new.json"]], _
  decide

theorem isDirectory : tree.isDirectory first.directory = .ok true := by
  rfl

theorem leadsInto : tree.LeadsInto first.directory ["base"] where
  noNull := by decide
  short := by decide
  reaches := .arrived rfl rfl

/-- What is due: the old file, and the link to it. -/
theorem due_iff {c : String} :
    first.Due tree ["base"] now c ↔ c = "redis-link.json" ∨ c = "redis-old.json" := by
  have hentries : tree.entries ["base"] = ["redis-a.json", "redis-link.json", "redis-old.json",
      "redis-gone.json", "redis-folder.json", "redis-new.json"] := by
    decide +kernel
  constructor
  · rintro ⟨_, hother, ⟨n, hnode, hfile⟩, found, hstat, hstale⟩
    have hc : c ∈ tree.entries ["base"] := FileTree.mem_entries.mpr ⟨n, hnode⟩
    simp only [hentries, List.mem_cons, List.not_mem_nil, or_false] at hc
    rcases hc with rfl | rfl | rfl | rfl | rfl | rfl
    · exact absurd rfl hother
    · exact Or.inl rfl
    · exact Or.inr rfl
    · have hgone : (tree.stat (first.directory.child "redis-gone.json")).toOption = none := by
        decide +kernel
      rw [hstat] at hgone
      cases hgone
    · cases hnode
      exact absurd rfl (hfile _)
    · have hnew : tree.stat (first.directory.child "redis-new.json") =
          .ok ⟨false, .ofWhole 990⟩ := by
        rfl
      rw [hnew] at hstat
      cases hstat
      exact absurd hstale (by decide +kernel)
  · rintro (rfl | rfl)
    · refine ⟨⟨"link", by decide⟩, by decide, ⟨.link "redis-old.json", rfl, by simp⟩,
        ⟨false, .ofWhole 0⟩, rfl, ?_⟩
      dsimp only [first]
      exact TwoIntegrations.stale_later _
    · refine ⟨⟨"old", by decide⟩, by decide, ⟨.file [] (.ofWhole 0), rfl, by simp⟩,
        ⟨false, .ofWhole 0⟩, rfl, ?_⟩
      dsimp only [first]
      exact TwoIntegrations.stale_later _

theorem not_stale_now (p : Path) : ¬ StoreFile.Stale ⟨p, .int 60⟩ now now := by
  unfold StoreFile.Stale
  dsimp only
  decide +kernel

end Siblings

open Siblings StaleSibling in
theorem cleanOld_exact_siblings :
    StoreLocation.make surroundings "redis" "a" (some "/base") (.int 60) = .ok first ∧
      Siblings.tree.Rooted ∧ (∀ D, Siblings.tree.ProperlyNamed D) ∧
      Siblings.tree.isDirectory first.directory = .ok true ∧
      ∃ removed : List String,
        (first.cleanOld Siblings.tree now now).result = .ok (removed.map first.directory.child) ∧
        removed.Pairwise (· < ·) ∧
        (∀ c, c ∈ removed ↔ c = "redis-link.json" ∨ c = "redis-old.json") ∧
        (first.cleanOld (first.cleanOld Siblings.tree now now).tree now now).result = .ok [] := by
  refine ⟨make_first, Siblings.rooted, Siblings.properlyNamed, isDirectory, ?_⟩
  obtain ⟨D, removed, again, hD, hresult, hremoval, hagain, hlinks⟩ :=
    (cleanOld_exact make_first (by decide) (by decide) (by decide) trivial Siblings.rooted
      Siblings.properlyNamed now now now).2 isDirectory
  have hbase : Siblings.tree.directoryName? first.directory = some ["base"] :=
    leadsInto.leadsTo.directoryName?
  rw [hbase] at hD
  cases hD
  refine ⟨removed, hresult, hremoval.sorted, fun c => ?_, ?_⟩
  · rcases hremoval.due with hall | ⟨last, hcut⟩
    · rw [hall, Siblings.due_iff]
    · exact absurd leadsInto hcut.runsThrough
  · have hnil : again = [] :=
      List.eq_nil_iff_forall_not_mem.mpr fun c hc => not_stale_now _ (hlinks c hc).2.2.2
    rw [hagain, hnil]
    rfl

/-! ### Links to the base directory in that directory -/

namespace OwnLink

open StaleSibling (surroundings first now)

/-- A location whose base directory is reached through a link that stands in it. -/
def through : StoreLocation := ⟨⟨.root, ["base", "redis-here.json"]⟩, "redis", "a", .int 60⟩

/-- A directory that was written at a time, with a link to itself and an old file. -/
def tree (written : Double) : FileTree :=
  ⟨[(["base"], .directory written),
    (["base", "redis-here.json"], .link "."),
    (["base", "redis-old.json"], .file [] (.ofWhole 0))]⟩

theorem make_through :
    StoreLocation.make surroundings "redis" "a" (some "/base/redis-here.json") (.int 60) =
      .ok through := by
  rfl

/-- Only the link is removed, since nothing is found through it any more. -/
theorem cleanOld_through : (through.cleanOld (tree (.ofWhole 0)) now now).result.toOption =
    some [through.directory.child "redis-here.json"] ∧
      (through.cleanOld (tree (.ofWhole 0)) now now).tree =
        ⟨[(["base"], .directory now), (["base", "redis-old.json"], .file [] (.ofWhole 0))]⟩ := by
  have hselect : (tree (.ofWhole 0)).select [.matching (Glob.pieces through.pattern.toList)]
      through.directory = .ok [through.directory.child "redis-here.json",
        through.directory.child "redis-old.json"] := by
    rfl
  rw [StoreLocation.cleanOld, StoreLocation.findOld_of_sorted (by decide) (by decide +kernel)
    (by decide +kernel) hselect (by decide +kernel)]
  decide +kernel

/-- Only the file is removed, at a time that makes the directory old. -/
theorem cleanOld_first : (first.cleanOld (tree now) (.ofWhole 0) now).result.toOption =
    some [first.directory.child "redis-old.json"] ∧
      (first.cleanOld (tree now) (.ofWhole 0) now).tree =
        ⟨[(["base"], .directory (.ofWhole 0)), (["base", "redis-here.json"], .link ".")]⟩ := by
  have hselect : (tree now).select [.matching (Glob.pieces first.pattern.toList)]
      first.directory = .ok [first.directory.child "redis-here.json",
        first.directory.child "redis-old.json"] := by
    rfl
  rw [StoreLocation.cleanOld, StoreLocation.findOld_of_sorted (by decide) (by decide +kernel)
    (by decide +kernel) hselect (by decide +kernel)]
  decide +kernel

/-- So the link is removed the second time. -/
theorem cleanOld_second :
    (first.cleanOld ⟨[(["base"], .directory (.ofWhole 0)), (["base", "redis-here.json"], .link ".")]⟩
      now now).result.toOption = some [first.directory.child "redis-here.json"] := by
  have hselect : (FileTree.mk [(["base"], .directory (.ofWhole 0)),
      (["base", "redis-here.json"], .link ".")]).select
        [.matching (Glob.pieces first.pattern.toList)] first.directory =
      .ok [first.directory.child "redis-here.json"] := by
    rfl
  rw [StoreLocation.cleanOld, StoreLocation.findOld_of_sorted (by decide) (by decide +kernel)
    (by decide +kernel) hselect (by decide +kernel)]
  decide +kernel

end OwnLink

open OwnLink StaleSibling in
/-- **What is due is not always removed, and a second cleaning may remove something.**  Where the
path of the base directory runs through a link that is due, what is due after it is kept.  Where the
removals make the base directory itself old, a link to it goes the second time. -/
theorem cleanOld_own_links :
    StoreLocation.make surroundings "redis" "a" (some "/base/redis-here.json") (.int 60) =
        .ok through ∧
      (OwnLink.tree (.ofWhole 0)).directoryName? through.directory = some ["base"] ∧
      through.Due (OwnLink.tree (.ofWhole 0)) ["base"] now "redis-here.json" ∧
      through.Due (OwnLink.tree (.ofWhole 0)) ["base"] now "redis-old.json" ∧
      (through.cleanOld (OwnLink.tree (.ofWhole 0)) now now).result =
        .ok [through.directory.child "redis-here.json"] ∧
      (through.cleanOld (OwnLink.tree (.ofWhole 0)) now now).tree.node? ["base", "redis-old.json"] =
        some (.file [] (.ofWhole 0)) ∧
      (first.cleanOld (OwnLink.tree now) (.ofWhole 0) now).result =
        .ok [first.directory.child "redis-old.json"] ∧
      (first.cleanOld (first.cleanOld (OwnLink.tree now) (.ofWhole 0) now).tree now now).result =
        .ok [first.directory.child "redis-here.json"] := by
  refine ⟨make_through, rfl, ?_, ?_, Snapshot.eq_ok_of_toOption cleanOld_through.1, ?_,
    Snapshot.eq_ok_of_toOption cleanOld_first.1, ?_⟩
  · refine ⟨⟨"here", by decide⟩, by decide, ⟨.link ".", rfl, by simp⟩, ⟨true, .ofWhole 0⟩, rfl, ?_⟩
    dsimp only [through]
    exact TwoIntegrations.stale_later _
  · refine ⟨⟨"old", by decide⟩, by decide, ⟨.file [] (.ofWhole 0), rfl, by simp⟩,
      ⟨false, .ofWhole 0⟩, rfl, ?_⟩
    dsimp only [through]
    exact TwoIntegrations.stale_later _
  · rw [cleanOld_through.2]
    rfl
  · rw [cleanOld_first.2]
    exact Snapshot.eq_ok_of_toOption cleanOld_second

end Baseline
