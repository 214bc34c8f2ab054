import Baseline.Proofs.FileTree.Pattern
import Baseline.Proofs.Store.Agreement
import Baseline.Proofs.Store.Removal

/-!
# Whether a stale sibling is found

The name of an integration goes into the pattern for its store files as it is.  So a name with
wildcards is read as a pattern, and need not match the files that are named with it.

* `StoreLocation.covers_iff_split` : what the pattern of any name without slashes covers.
* `findOld_sibling_iff` : **a stale file of another instance is found if and only if the name, as a
  pattern, matches what stands before a hyphen of the file's name**; a name without two stars in a
  row and without a closed bracket always does.
* `findOld_misses_sibling` : the name `a[b]` does not.
-/

set_option autoImplicit false

namespace Baseline

namespace FileTree

variable {t : FileTree}

/-- What can be inspected under the path of a directory stands in a directory. -/
theorem leadsTo_of_stat_child (hroot : t.Rooted) {p : Path} {c : String} {found : FileStat}
    (hstat : t.stat (p.child c) = .ok found) : ∃ D, t.LeadsTo p D := by
  have hparent : (p.child c).parent = p := by
    simp [Path.parent, Path.child]
  rw [stat] at hstat
  obtain ⟨place, hloc, -⟩ := bind_eq_ok hstat
  obtain ⟨above, habove, hpassage⟩ :=
    isPassage_parent hroot (show (p.child c).parts ≠ [] by simp [Path.child]) hloc true
  rw [hparent] at habove
  rcases hpassage with hdir | ⟨hno, -⟩
  · exact leadsTo_of_isDirectory (isDirectory_of_locate habove hdir)
  · cases hno

end FileTree

namespace StoreLocation

open FileTree Glob

variable {l : StoreLocation} {t : FileTree}

/-- The name of a location, as a pattern, matches what stands before a hyphen. -/
def MatchesBefore (l : StoreLocation) (stem : String) : Prop :=
  ∃ front back, stem.toList = front ++ '-' :: back ∧
    matchesPieces (pieces l.name.toList) front = true

theorem pattern_eq (l : StoreLocation) :
    l.pattern.toList = l.name.toList ++ '-' :: '*' :: ".json".toList := by
  rw [pattern_toList, String.toList_append, List.append_assoc]
  rfl

/-- What follows the name in a pattern: a hyphen, anything, and the extension. -/
theorem matchesPieces_tail {cs : List Char} :
    matchesPieces (pieces ('-' :: '*' :: ".json".toList)) cs = true ↔
      ∃ mid, cs = '-' :: (mid ++ ".json".toList) :=
  matchesPieces_star_iff (a := ['-']) (by simp [IsPlain]) isPlain_extension

/-- **What the pattern covers**: the names that end in the extension and have a hyphen before which
the name matches. -/
theorem covers_iff_split {stem : String} : l.Covers (stem ++ ".json") ↔ l.MatchesBefore stem := by
  rw [Covers, pattern_eq, pieces_append _ (by decide), matchesPieces_append, String.toList_append]
  simp only [matchesPieces_tail]
  constructor
  · rintro ⟨front, _, heq, hfront, mid, rfl⟩
    rw [← List.cons_append, ← List.append_assoc] at heq
    exact ⟨front, mid, List.append_cancel_right heq, hfront⟩
  · rintro ⟨front, mid, heq, hfront⟩
    exact ⟨front, '-' :: (mid ++ ".json".toList), by rw [heq]; simp, hfront, mid, rfl⟩

theorem hasDoubleStar_pattern_eq (l : StoreLocation) :
    hasDoubleStar l.pattern.toList = hasDoubleStar l.name.toList := by
  have htail : hasDoubleStar ('*' :: ".json".toList) = false := by decide
  rw [pattern_eq, hasDoubleStar_append (by decide), htail, Bool.or_false]

/-- With two stars in a row in its name a location finds nothing, since the pattern is refused. -/
theorem findOld_of_doubleStar (hslash : '/' ∉ l.name.toList)
    (hstars : hasDoubleStar l.name.toList = true) (t : FileTree) (now : Double) :
    ∃ f, l.findOld t now = .error f := by
  obtain ⟨hnoSlash, hempty, hdot, hdeep, -⟩ := pattern_component hslash
  obtain ⟨f, hf⟩ := selectors_of_doubleStar hnoSlash hempty hdot hdeep
    ((hasDoubleStar_pattern_eq l).trans hstars)
  refine ⟨f, ?_⟩
  rw [findOld, glob, hf]
  rfl

/-- An old entry is found if and only if the pattern covers it. -/
theorem mem_findOld_iff {D : NodeName} (hdir : t.LeadsTo l.directory D)
    (hnames : t.ProperlyNamed D) (hslash : '/' ∉ l.name.toList) (httl : l.ttl.IsNumber)
    {now : Double} {c : String} (hentry : c ∈ t.entries D)
    (hold : l.Old t now (l.directory.child c)) :
    (∃ old, l.findOld t now = .ok old ∧ l.directory.child c ∈ old) ↔
      hasDoubleStar l.name.toList = false ∧ l.Covers c := by
  cases hstars : hasDoubleStar l.name.toList with
  | true =>
    obtain ⟨f, hf⟩ := findOld_of_doubleStar hslash hstars t now
    rw [hf]
    exact ⟨fun ⟨_, h, _⟩ => (by cases h), fun h => (by cases h.1)⟩
  | false =>
    obtain ⟨old, hfound, -, hmem⟩ := findOld_spec hdir hnames hslash
      ((hasDoubleStar_pattern_eq l).trans hstars) httl now
    rw [hfound]
    constructor
    · rintro ⟨_, h, hc⟩
      cases h
      exact ⟨rfl, ((hmem c).mp (mem_map_child.mp hc)).2.1⟩
    · rintro ⟨-, hcovers⟩
      exact ⟨_, rfl, mem_map_child.mpr ((hmem c).mpr ⟨hentry, hcovers, hold⟩)⟩

/-- A stale file of another instance is an old entry. -/
theorem old_fileName (hslash : '/' ∉ l.name.toList) (hid : '/' ∉ l.id.toList) {id' : String}
    (hne : l.id ≠ id') {now : Double} {found : FileStat}
    (hstat : t.stat (l.directory.child (fileName l.name id')) = .ok found)
    (hstale : StoreFile.Stale ⟨l.directory.child (fileName l.name id'), l.ttl⟩ now found.time) :
    l.Old t now (l.directory.child (fileName l.name id')) := by
  refine ⟨fun heq => hne ?_, found, hstat, hstale⟩
  rw [filePath_eq_child hslash hid] at heq
  have hname := child_injective heq
  rw [fileName, fileName, ← String.toList_inj] at hname
  exact String.toList_inj.mp (by simpa using hname.symm)

theorem matchesBefore_self (hclosed : ¬ HasClosedBracket l.name.toList) (id' : String) :
    l.MatchesBefore (l.name ++ "-" ++ id') := by
  refine ⟨l.name.toList, id'.toList, ?_, matchesPieces_self hclosed⟩
  simp

end StoreLocation

open StoreLocation FileTree Glob in
/-- **Whether a stale file of another instance is found**: if the name has no two stars in a row
and, as a pattern, matches what stands before a hyphen of the file's name.  A name without a closed
bracket matches itself. -/
theorem findOld_sibling_iff {w : Surroundings} {name id id' : String} {dir : Option String}
    {ttl ttl' : Value} {l other : StoreLocation} {t : FileTree} {now : Double} {found : FileStat}
    (hmake : make w name id dir ttl = .ok l) (hother : make w name id' dir ttl' = .ok other)
    (hne : id ≠ id') (hname : '/' ∉ name.toList) (hid : '/' ∉ id.toList) (hid' : '/' ∉ id'.toList)
    (httl : ttl.IsNumber) (hroot : t.Rooted) (hnames : ∀ D, t.ProperlyNamed D)
    (hstat : t.stat other.filePath = .ok found)
    (hstale : StoreFile.Stale ⟨other.filePath, ttl⟩ now found.time) :
    ((∃ old, l.findOld t now = .ok old ∧ other.filePath ∈ old) ↔
        hasDoubleStar name.toList = false ∧ l.MatchesBefore (name ++ "-" ++ id')) ∧
      (¬ HasClosedBracket name.toList → l.MatchesBefore (name ++ "-" ++ id')) := by
  obtain rfl := make_eq_ok hmake
  obtain rfl := make_eq_ok hother
  have hpath := filePath_eq_child (l := ⟨w.baseDirectory dir, name, id', ttl'⟩) hname hid'
  rw [hpath] at hstat hstale ⊢
  obtain ⟨D, hdir⟩ := leadsTo_of_stat_child hroot hstat
  have hup : fileName name id' ≠ ".." :=
    ne_up_of_named (l := ⟨w.baseDirectory dir, name, id, ttl⟩) ⟨id', rfl⟩
  obtain ⟨n, hnode, -⟩ := hdir.of_stat_child hroot hup hstat
  refine ⟨?_, fun hclosed => matchesBefore_self hclosed id'⟩
  rw [← covers_iff_split]
  exact mem_findOld_iff (l := ⟨w.baseDirectory dir, name, id, ttl⟩) hdir (hnames D) hname httl
    (mem_entries.mpr ⟨n, hnode⟩)
    (old_fileName (l := ⟨w.baseDirectory dir, name, id, ttl⟩) hname hid hne hstat hstale)

/-! ### A name with a bracket -/

namespace Bracketed

/-- What the process is told. -/
def surroundings : Surroundings := ⟨[], ⟨.root, ["tmp"]⟩⟩

/-- A location of an integration with a closed bracket in its name. -/
def first : StoreLocation := ⟨⟨.root, ["base"]⟩, "a[b]", "x", .int 60⟩

def second : StoreLocation := ⟨⟨.root, ["base"]⟩, "a[b]", "y", .int 60⟩

/-- The store file of the second instance, from long ago. -/
def tree : FileTree :=
  ⟨[(["base"], .directory (.ofWhole 1000)), (["base", "a[b]-y.json"], .file [] (.ofWhole 0))]⟩

def now : Double := .ofWhole 1000

theorem make_first :
    StoreLocation.make surroundings "a[b]" "x" (some "/base") (.int 60) = .ok first := by
  rfl

theorem make_second :
    StoreLocation.make surroundings "a[b]" "y" (some "/base") (.int 60) = .ok second := by
  rfl

theorem rooted : tree.Rooted := rfl

theorem properlyNamed (D : NodeName) : tree.ProperlyNamed D := by
  refine FileTree.properlyNamed_of_nodes ?_ D
  change ∀ name ∈ [["base"], ["base", "a[b]-y.json"]], _
  decide

/-- What the file system tells about that file. -/
def found : FileStat := ⟨false, .ofWhole 0⟩

theorem stat_second : tree.stat second.filePath = .ok found := by
  rfl

theorem stale_second : StoreFile.Stale ⟨second.filePath, .int 60⟩ now found.time := by
  dsimp only [found]
  exact TwoIntegrations.stale_later second.filePath

/-- As a pattern the name stands for `ab`, which nothing begins with here. -/
theorem not_matchesBefore : ¬ first.MatchesBefore ("a[b]" ++ "-" ++ "y") := by
  have hpieces : Glob.pieces "a[b]".toList = [.literal 'a', .oneOf false [('b', 'b')]] := rfl
  rintro ⟨front, back, heq, hfront⟩
  rw [show first.name = "a[b]" from rfl, hpieces] at hfront
  obtain ⟨c, rest, rfl, hc, hrest⟩ := (Glob.matchesPieces_single (by simp)).mp hfront
  obtain ⟨d, more, rfl, hd, -⟩ := (Glob.matchesPieces_single (by simp)).mp hrest
  have hsecond : d = '[' := by
    have htwo := congrArg (fun cs => cs[1]?) heq
    simpa using htwo.symm
  rw [hsecond] at hd
  exact absurd hd (by decide)

end Bracketed

open Bracketed in
/-- The name `a[b]` does not match itself. -/
theorem findOld_sibling_iff_bracket :
    (StoreLocation.make surroundings "a[b]" "x" (some "/base") (.int 60) = .ok first ∧
      StoreLocation.make surroundings "a[b]" "y" (some "/base") (.int 60) = .ok second) ∧
    "x" ≠ "y" ∧ ('/' ∉ "a[b]".toList ∧ '/' ∉ "x".toList ∧ '/' ∉ "y".toList) ∧
    (Value.int 60).IsNumber ∧ (tree.Rooted ∧ ∀ D, tree.ProperlyNamed D) ∧
    tree.stat second.filePath = .ok found ∧
    StoreFile.Stale ⟨second.filePath, .int 60⟩ now found.time ∧
    ¬ ∃ old, first.findOld tree now = .ok old ∧ second.filePath ∈ old := by
  refine ⟨⟨make_first, make_second⟩, by decide, by decide, trivial, ⟨rooted, properlyNamed⟩,
    stat_second, stale_second, fun hfound => ?_⟩
  have hiff := (findOld_sibling_iff make_first make_second (by decide) (by decide) (by decide)
    (by decide) trivial rooted properlyNamed stat_second stale_second).1
  exact not_matchesBefore (hiff.mp hfound).2

open Bracketed in
/-- **A stale file of another instance is missed**: the search succeeds and finds nothing. -/
theorem findOld_misses_sibling :
    second.filePath ≠ first.filePath ∧ tree.stat second.filePath = .ok found ∧
      StoreFile.Stale ⟨second.filePath, first.ttl⟩ now found.time ∧
      (first.findOld tree now).toOption = some [] := by
  refine ⟨by decide, stat_second, stale_second, ?_⟩
  have hselect : tree.select [.matching (Glob.pieces first.pattern.toList)] first.directory =
      .ok [] := by
    rfl
  rw [StoreLocation.findOld_of_sorted (by decide) (by decide) rfl hselect .nil]
  rfl

end Baseline
