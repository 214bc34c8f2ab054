import Baseline.Proofs.FileTree.Clearing
import Baseline.Proofs.Store.Cleaning

/-!
# What cleaning leaves to be loaded

Cleaning and loading ask the same question of a file, whether it is older than the time to live.  So
what cleaning removes would not have been loaded, and neither would what is reached through it.

* `StoreLocation.cleanOld_outcome` : cleaning leaves the tree alone, or takes stale entries away.
* `StoreFile.OpensAlike` : a store opens with what it would have held without the cleaning, or empty
  where it could not have been opened.
* `StoreFile.opensAlike_of_outlived` : so it does where its path leads as far as it did.
* `openStore_after_cleanOld` : **what would have been loaded is loaded after a cleaning too.**
* `opens_after_cleanOld` : a store that could not be opened before.
-/

set_option autoImplicit false

namespace Baseline

namespace FileTree

variable {t : FileTree}

/-- Where the names of all nodes are proper, those of the entries of any directory are. -/
theorem properlyNamed_of_nodes
    (h : ∀ name ∈ t.nodes.map (·.1), ∀ c ∈ name, c ≠ ".." ∧ '\x00' ∉ c.toList) (D : NodeName) :
    t.ProperlyNamed D := by
  intro c hc
  obtain ⟨n, hn⟩ := mem_entries.mp hc
  exact h (D ++ [c]) (List.mem_map_of_mem (mem_of_node? hn)) c
    (List.mem_append_right D List.mem_cons_self)

end FileTree

/-! ## What cleaning leaves -/

namespace StoreLocation

open FileTree

variable {l : StoreLocation} {t : FileTree} {D : NodeName}

/-- Where there is no directory nothing is old. -/
theorem eq_nil_of_findOld {now : Double} {old : List Path} (h : l.findOld t now = .ok old)
    (hdir : t.isDirectory l.directory ≠ .ok true) : old = [] := by
  obtain ⟨found, hfound, hold⟩ := bind_eq_ok h
  obtain ⟨chosen, _, hfound⟩ := bind_eq_ok hfound
  obtain ⟨there, hthere, hfound⟩ := bind_eq_ok hfound
  cases there with
  | true => exact absurd hthere hdir
  | false =>
    cases hfound
    cases hold
    rfl

/-- Which files are old among those that are found in their order. -/
theorem findOld_of_sorted (hslash : '/' ∉ l.name.toList)
    (hstars : Glob.hasDoubleStar l.pattern.toList = false)
    (hthere : t.isDirectory l.directory = .ok true) {found : List Path}
    (hselect : t.select [.matching (Glob.pieces l.pattern.toList)] l.directory = .ok found)
    (hsorted : found.Pairwise fun p q => p.precedes q = true) (now : Double) :
    l.findOld t now = found.filterM (l.isOld t now) := by
  have hglob : t.glob l.directory l.pattern = .ok found := by
    rw [glob, selectors_pattern hslash hstars, bind_of_ok rfl, bind_of_ok hthere, if_neg (by simp),
      hselect, bind_of_ok rfl, List.mergeSort_of_pairwise hsorted]
    rfl
  rw [findOld, hglob, bind_of_ok rfl]

/-- What is old stands in the directory. -/
theorem mem_of_findOld (hslash : '/' ∉ l.name.toList) (hdir : t.LeadsTo l.directory D)
    {now : Double} {old : List Path} (h : l.findOld t now = .ok old) {q : Path} (hq : q ∈ old) :
    ∃ c ∈ t.entries D, q = l.directory.child c ∧ l.Old t now q := by
  obtain ⟨found, hfound, hold⟩ := bind_eq_ok h
  obtain ⟨hmem, hanswer⟩ := mem_of_filterM hold hq
  cases hstars : Glob.hasDoubleStar l.pattern.toList with
  | true =>
    obtain ⟨hnoSlash, hempty, hdot, hdeep, _⟩ := pattern_component hslash
    obtain ⟨f, hf⟩ := Glob.selectors_of_doubleStar hnoSlash hempty hdot hdeep hstars
    rw [glob, hf] at hfound
    cases hfound
  | false =>
    obtain ⟨matching, hmatching, _, hiff⟩ := glob_entries hdir (selectors_pattern hslash hstars)
    rw [hfound] at hmatching
    cases hmatching
    obtain ⟨c, hc, rfl⟩ := List.mem_map.mp hmem
    exact ⟨c, ((hiff c).mp hc).1, rfl, isOld_eq_true.mp hanswer⟩

/-- An entry that is old, and no directory, leads to a stale file. -/
theorem stale_of_old (hroot : t.Rooted) (hlinks : t.LinksToFiles)
    (hdir : t.LeadsStraight l.directory D) {now : Double} {c : String} (hup : c ≠ "..")
    (hold : l.Old t now (l.directory.child c))
    (hfile : ∀ a, t.node? (D ++ [c]) ≠ some (.directory a)) :
    t.LeadsToStale D (StoreFile.Stale ⟨l.filePath, l.ttl⟩ now) c := by
  obtain ⟨_, found, hstat, hstale⟩ := hold
  obtain ⟨place, hloc, hfound⟩ := bind_eq_ok hstat
  have hwalk := (locate_eq_ok.mp hloc).2.2
  rw [hdir.walkLinks_child hroot] at hwalk
  have hno : ¬ place.IsDirectory := by
    intro hplace
    obtain ⟨a, _, hnode⟩ := hlinks.entry hroot (hdir.listed hroot) hup hwalk hplace
    exact hfile a hnode
  cases place with
  | root => exact absurd trivial hno
  | free directory last => cases hfound
  | node name n =>
    cases n with
    | directory a => exact absurd trivial hno
    | link target => cases hfound
    | file content written =>
      cases hfound
      exact ⟨name, content, written, hwalk, hstale⟩

/-- **Cleaning leaves the tree alone, or takes entries away that lead to stale files.** -/
theorem cleanOld_outcome (hslash : '/' ∉ l.name.toList) (hroot : t.Rooted)
    (hnames : ∀ D, t.ProperlyNamed D) (hlinks : t.LinksToFiles) (time now : Double) :
    (l.cleanOld t time now).tree = t ∨
      ∃ D gone, t.LeadsStraight l.directory D ∧ Cleared D gone t (l.cleanOld t time now).tree ∧
        ∀ c, gone c → t.LeadsToStale D (StoreFile.Stale ⟨l.filePath, l.ttl⟩ now) c := by
  unfold cleanOld
  cases hfind : l.findOld t now with
  | error f => exact Or.inl rfl
  | ok old =>
    by_cases hthere : t.isDirectory l.directory = .ok true
    · right
      obtain ⟨D, hdir⟩ := hlinks.leadsStraight hroot hthere
      have hmem : ∀ q ∈ old, ∃ c ∈ t.entries D, q = l.directory.child c ∧ l.Old t now q :=
        fun q hq => mem_of_findOld hslash hdir.leadsInto.leadsTo hfind hq
      have hold : ∀ q ∈ old, ∃ c n, c ≠ ".." ∧ q = l.directory.child c ∧
          t.locate false q = .ok (.node (D ++ [c]) n) := by
        intro q hq
        obtain ⟨c, hc, rfl, _, found, hstat, _⟩ := hmem q hq
        have hup := (hnames D c hc).1
        obtain ⟨n, _, hloc⟩ := hdir.leadsInto.leadsTo.of_stat_child hroot hup hstat
        exact ⟨c, n, hup, rfl, hloc⟩
      obtain ⟨removed, _, hprogress⟩ :=
        removeOld_foldl hroot hdir.leadsInto.leadsTo time (l.oldLog old) old hold
      refine ⟨D, _, hdir, hprogress.cleared, fun c hgone => ?_⟩
      obtain ⟨d, hd, hchild, hisOld⟩ := hmem _ (hprogress.ordered.subset hgone)
      have hcd := child_injective hchild
      exact stale_of_old hroot hlinks hdir (hcd ▸ (hnames D d hd).1) hisOld
        (hprogress.cleared.noDirectory hgone)
    · left
      rw [eq_nil_of_findOld hfind hthere]
      rfl

end StoreLocation

/-! ## Opening after that -/

namespace StoreFile

open FileTree

variable {f : StoreFile} {t t' : FileTree} {D : NodeName}

/-- How a store opens, compared with how it would have opened before: with the same content, or
with the same failure.  Only one whose file could not be inspected, since its path ran into
something that is no directory or into too many links, may open empty. -/
structure OpensAlike (f : StoreFile) (before after : Except Failure Store) : Prop where
  kept : ∀ {s}, before = .ok s → after = .ok s
  refused : ∀ {g}, before = .error g → after = .error g ∨ after = .ok .empty ∧
    ∃ e, g = .reported (.fileNotInspected f.path.text e) ∧
      (e.cause = .notDirectory ∨ e.cause = .linkLoop)

theorem OpensAlike.refl (f : StoreFile) (r : Except Failure Store) : OpensAlike f r r :=
  ⟨id, Or.inl⟩

/-- What is found depends on where the path leads. -/
theorem find_congr (h : t'.locate true f.path = t.locate true f.path) (now : Double) :
    f.find t' now = f.find t now := by
  have hstat : t'.stat f.path = t.stat f.path := stat_congr h
  have hread : t'.read f.path = t.read f.path := by rw [FileTree.read, FileTree.read, h]
  rw [find_eq, find_eq, findContent_eq, findContent_eq]
  rw [hstat, hread]

/-- Nothing is found where something on the way is missing. -/
theorem find_missing (hnull : f.path.hasNull = false) (hshort : f.path.text.utf8ByteSize ≤ maxPath)
    (h : Missing (t.walkLinks true [] f.path.parts maxLinks)) (now : Double) :
    f.find t now = .ok .nothing := by
  rw [find_eq, stat_of_missing hnull hshort h, FileTree.failure]
  rfl

/-- **A store opens alike where its path leads as far as it did.** -/
theorem opensAlike_of_outlived (hself : ∀ a, t.walkLinks true [] f.path.parts maxLinks ≠
      .ok (.node D (.directory a))) {now : Double}
    (h : Outlived D (f.Stale now) (t.walkLinks true [] f.path.parts maxLinks)
      (t'.walkLinks true [] f.path.parts maxLinks)) :
    OpensAlike f ((f.find t now).map Finding.store) ((f.find t' now).map Finding.store) := by
  by_cases hnull : f.path.hasNull = true
  · have hsame : t'.locate true f.path = t.locate true f.path := by
      rw [locate, locate, if_pos hnull, if_pos hnull]
    rw [find_congr hsame]
    exact .refl f _
  rw [Bool.not_eq_true] at hnull
  by_cases hlong : maxPath < f.path.text.utf8ByteSize
  · have hsame : t'.locate true f.path = t.locate true f.path := by
      rw [locate, locate, if_pos hlong, if_pos hlong]
    rw [find_congr hsame]
    exact .refl f _
  have hshort : f.path.text.utf8ByteSize ≤ maxPath := Nat.not_lt.mp hlong
  generalize hbefore : t.walkLinks true [] f.path.parts maxLinks = r at h hself
  generalize hafter : t'.walkLinks true [] f.path.parts maxLinks = r' at h
  cases h with
  | same =>
    rw [find_congr (locate_congr (hafter.trans hbefore.symm))]
    exact .refl f _
  | directory a b => exact absurd rfl (hself a)
  | @stale name content written _ hstale hmissing =>
    have hloc := locate_eq_ok.mpr ⟨hnull, hshort, hbefore⟩
    rw [find_stale (stat_of_locate hloc) hstale,
      find_missing hnull hshort (hafter ▸ hmissing)]
    exact .refl f _
  | @inVain cause _ hcause hmissing =>
    have hstat : t.stat f.path = .error (FileTree.failure cause f.path) := by
      rw [FileTree.stat, locate_of_walkLinks_error hnull hshort hbefore]
      rfl
    have hne : cause ≠ .noEntry := by
      rcases hcause with rfl | rfl <;> exact fun h => by cases h
    have hfind : f.find t now =
        .error (.reported (.fileNotInspected f.path.text ⟨cause, f.path.text, none⟩)) := by
      rw [find_eq, hstat, FileTree.failure]
      exact if_neg hne
    rw [hfind, find_missing hnull hshort (hafter ▸ hmissing)]
    refine ⟨fun h => ?_, fun h => ?_⟩
    · cases h
    · cases h
      exact Or.inr ⟨rfl, _, rfl, hcause⟩

end StoreFile

open StoreFile in
/-- The store of any instance opens alike after the cleaning for one of them. -/
theorem StoreLocation.openStore_alike {l : StoreLocation} {t : FileTree}
    (hslash : '/' ∉ l.name.toList) (hroot : t.Rooted) (hnames : ∀ D, t.ProperlyNamed D)
    (hlinks : t.LinksToFiles) {id : String} (hid : '/' ∉ id.toList) (time made now : Double) :
    OpensAlike ⟨l.directory.join (fileName l.name id), l.ttl⟩
      (openStore t made now ⟨l.directory.join (fileName l.name id), l.ttl⟩).result
      (openStore (l.cleanOld t time now).tree made now
        ⟨l.directory.join (fileName l.name id), l.ttl⟩).result := by
  have hstem : '/' ∉ (l.name ++ "-" ++ id).toList := by
    simp [hslash, hid]
  have hletter : 'j' ∈ (fileName l.name id).toList := by simp [fileName]
  have hup : fileName l.name id ≠ ".." := ne_of_mem_toList hletter (by decide)
  rw [show l.directory.join (fileName l.name id) = l.directory.child (fileName l.name id) from
    join_extension l.directory hstem]
  generalize hf : (⟨l.directory.child (fileName l.name id), l.ttl⟩ : StoreFile) = f
  have hpath : f.path = l.directory.child (fileName l.name id) := by rw [← hf]
  have hparent : f.path.parent = l.directory := by
    simp [hpath, Path.parent, Path.child]
  rcases l.cleanOld_outcome hslash hroot hnames hlinks time now with
    hsame | ⟨D, gone, hdir, hcleared, hstale⟩
  · rw [hsame]
    exact .refl _ _
  have hdir' := hcleared.leadsStraight hroot hdir
  have hlisted := hdir.listed hroot
  rw [(openStore_of_makeDirectories (hparent.symm ▸ hdir.makeDirectories made) now).1,
    (openStore_of_makeDirectories (hparent.symm ▸ hdir'.makeDirectories made) now).1]
  refine opensAlike_of_outlived (D := D) (fun a ha => ?_) ?_
  · -- an entry is not the directory itself
    rw [hpath, hdir.walkLinks_child hroot] at ha
    obtain ⟨_, hplace, _⟩ := hlinks.entry hroot hlisted hup ha trivial
    simp at hplace
  · rw [hpath, hdir.walkLinks_child hroot, hdir'.walkLinks_child (hcleared.rooted hroot), ← hf]
    exact hcleared.outlived hroot hlisted hstale (Nat.le_refl _) hlisted _

open StoreFile in
/-- **What would have been loaded is loaded after a cleaning too.**  On a tree where no link leads
to a directory, after the cleaning for one instance the stores of another and of that instance
itself open with what they would have held without it, or fail alike.  Only one that could not have
been inspected, since its path ran into something that is no directory or into too many links, may
open empty. -/
theorem openStore_after_cleanOld {w : Surroundings} {name id₁ id₂ : String} {dir : Option String}
    {ttl : Value} {l₁ l₂ : StoreLocation} {t : FileTree}
    (hmake₁ : StoreLocation.make w name id₁ dir ttl = .ok l₁)
    (hmake₂ : StoreLocation.make w name id₂ dir ttl = .ok l₂)
    (hname : '/' ∉ name.toList) (hid₁ : '/' ∉ id₁.toList) (hid₂ : '/' ∉ id₂.toList)
    (hroot : t.Rooted) (hnames : ∀ D, t.ProperlyNamed D) (hlinks : t.LinksToFiles)
    (time made now : Double) :
    OpensAlike ⟨l₂.filePath, ttl⟩ (openStore t made now ⟨l₂.filePath, ttl⟩).result
        (openStore (l₁.cleanOld t time now).tree made now ⟨l₂.filePath, ttl⟩).result ∧
      OpensAlike ⟨l₁.filePath, ttl⟩ (openStore t made now ⟨l₁.filePath, ttl⟩).result
        (openStore (l₁.cleanOld t time now).tree made now ⟨l₁.filePath, ttl⟩).result := by
  obtain rfl := StoreLocation.make_eq_ok hmake₁
  obtain rfl := StoreLocation.make_eq_ok hmake₂
  have halike := fun id (hid : '/' ∉ String.toList id) =>
    StoreLocation.openStore_alike (l := ⟨w.baseDirectory dir, name, id₁, ttl⟩) hname hroot hnames
      hlinks hid time made now
  exact ⟨halike id₂ hid₂, halike id₁ hid₁⟩

/-! ### A link to a stale sibling -/

namespace StaleSibling

def surroundings : Surroundings := ⟨[], ⟨.root, ["tmp"]⟩⟩

/-- The locations of two instances with a minute to live. -/
def first : StoreLocation := ⟨⟨.root, ["base"]⟩, "redis", "a", .int 60⟩

def second : StoreLocation := ⟨⟨.root, ["base"]⟩, "redis", "b", .int 60⟩

def now : Double := .ofWhole 1000

def baseline : Store := ⟨[("k", ⟨.ofWhole 5, 990⟩)]⟩

/-- A tree in which the first instance has a fresh file, and the second one a link, beside a file
that is stale. -/
def tree (target : String) : FileTree :=
  ⟨[(["base"], .directory (.ofWhole 1000)),
    (["base", "redis-a.json"], .file (Text.encodeUtf8 baseline.snapshot.toText) (.ofWhole 990)),
    (["base", "redis-b.json"], .link target),
    (["base", "redis-old.json"], .file [] (.ofWhole 0))]⟩

/-- The link leads to the stale file. -/
def aliased : FileTree := tree "redis-old.json"

/-- The link leads beyond the stale file, so nowhere. -/
def beyond : FileTree := tree "redis-old.json/x"

theorem make_first : StoreLocation.make surroundings "redis" "a" (some "/base") (.int 60) =
    .ok first := by
  rfl

theorem make_second : StoreLocation.make surroundings "redis" "b" (some "/base") (.int 60) =
    .ok second := by
  rfl

theorem rooted (target : String) : (tree target).Rooted := rfl

theorem properlyNamed (target : String) (D : NodeName) : (tree target).ProperlyNamed D := by
  refine FileTree.properlyNamed_of_nodes ?_ D
  change ∀ name ∈ [["base"], ["base", "redis-a.json"], ["base", "redis-b.json"],
    ["base", "redis-old.json"]], _
  decide

/-- What is left once the stale file is gone. -/
theorem cleanOld_beyond : (first.cleanOld beyond now now).tree = ⟨beyond.nodes.dropLast⟩ := by
  have hselect : beyond.select [.matching (Glob.pieces first.pattern.toList)] first.directory =
      .ok [first.filePath, second.filePath, ⟨.root, ["base", "redis-old.json"]⟩] := by
    decide +kernel
  rw [StoreLocation.cleanOld, StoreLocation.findOld_of_sorted (by decide) (by decide +kernel)
    (by decide +kernel) hselect (by decide +kernel)]
  decide +kernel

end StaleSibling

open StaleSibling in
/-- The stale file goes, and with it what the second store leads to; the first store is loaded. -/
theorem openStore_after_cleanOld_aliased :
    StoreLocation.make surroundings "redis" "a" (some "/base") (.int 60) = .ok first ∧
      StoreLocation.make surroundings "redis" "b" (some "/base") (.int 60) = .ok second ∧
      aliased.Rooted ∧ (∀ D, aliased.ProperlyNamed D) ∧ aliased.LinksToFiles ∧
      (StoreFile.openStore (first.cleanOld aliased now now).tree now now
        ⟨second.filePath, .int 60⟩).result = .ok .empty ∧
      (StoreFile.openStore (first.cleanOld aliased now now).tree now now
        ⟨first.filePath, .int 60⟩).result = .ok baseline := by
  have hlinks : aliased.LinksToFiles := by decide +kernel
  obtain ⟨hsecond, hfirst⟩ := openStore_after_cleanOld make_first make_second (by decide)
    (by decide) (by decide) (rooted _) (properlyNamed _) hlinks now now now
  have hempty : (StoreFile.openStore aliased now now ⟨second.filePath, .int 60⟩).result =
      .ok .empty :=
    Snapshot.eq_ok_of_toOption (by decide +kernel)
  have hloaded : (StoreFile.openStore aliased now now ⟨first.filePath, .int 60⟩).result =
      .ok baseline :=
    Snapshot.eq_ok_of_toOption (by decide +kernel)
  exact ⟨make_first, make_second, rooted _, properlyNamed _, hlinks, hsecond.kept hempty,
    hfirst.kept hloaded⟩

open StaleSibling in
/-- **A store that could not be opened before.**  Its path goes on beyond a stale file, which is
refused; once that file is gone, the path leads to nothing, and the store opens empty. -/
theorem opens_after_cleanOld :
    StoreLocation.make surroundings "redis" "a" (some "/base") (.int 60) = .ok first ∧
      StoreLocation.make surroundings "redis" "b" (some "/base") (.int 60) = .ok second ∧
      beyond.Rooted ∧ (∀ D, beyond.ProperlyNamed D) ∧ beyond.LinksToFiles ∧
      (StoreFile.openStore beyond now now ⟨second.filePath, .int 60⟩).result =
        .error (.reported (.fileNotInspected second.filePath.text
          ⟨.notDirectory, second.filePath.text, none⟩)) ∧
      (StoreFile.openStore (first.cleanOld beyond now now).tree now now
        ⟨second.filePath, .int 60⟩).result = .ok .empty := by
  refine ⟨make_first, make_second, rooted _, properlyNamed _, by decide +kernel, by rfl, ?_⟩
  rw [cleanOld_beyond]
  exact Snapshot.eq_ok_of_toOption (by decide +kernel)

end Baseline
