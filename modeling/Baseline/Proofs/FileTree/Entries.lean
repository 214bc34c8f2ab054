import Baseline.FileTree.Glob
import Baseline.Proofs.FileTree.Grown

/-!
# The entries of a directory, and taking some away

* `FileTree.LeadsTo` : a path leads to a directory.
* `FileTree.LeadsInto` : it does so, and no link on the way stands in that directory.
* `FileTree.LeadsTo.locate_child` : where the path of one of its entries leads.
* `FileTree.mem_entries`, `FileTree.LeadsTo.childPaths` : which entries are listed.
* `FileTree.Cleared` : some entries of a directory are gone, and everything else is there.
* `FileTree.Cleared.leadsInto` : **the path of the directory leads there still.**
* `FileTree.Cleared.locate_kept` : what is left is found as before.
* `FileTree.remove_of_locate`, `FileTree.Cleared.erase_touch` : one entry more is removed.
-/

set_option autoImplicit false

namespace Baseline

namespace FileTree

variable {t t' : FileTree} {p : Path} {D : NodeName}

/-! ## Paths into a directory -/

/-- A directory of which the tree lists every ancestor but the root. -/
def Listed (t : FileTree) (dir : NodeName) : Prop :=
  ∀ above, above <+: dir → above ≠ [] → ∃ a, t.node? above = some (.directory a)

theorem listed_root : t.Listed [] := fun _ habove hne => absurd (List.prefix_nil.mp habove) hne

theorem Listed.dropLast {dir : NodeName} (h : t.Listed dir) : t.Listed dir.dropLast :=
  fun _ habove => h _ (habove.trans (List.dropLast_prefix dir))

theorem Listed.child {dir : NodeName} {c : String} {time : Double} (h : t.Listed dir)
    (hnode : t.node? (dir ++ [c]) = some (.directory time)) : t.Listed (dir ++ [c]) := by
  intro above habove hne
  rcases List.prefix_concat_iff.mp habove with rfl | habove
  · exact ⟨time, hnode⟩
  · exact h above habove hne

/-- Where a walk goes on from a link is listed, like the directory in which the link stands. -/
theorem Listed.start {stop : NodeName} (h : t.Listed stop) (target : String) :
    t.Listed (if Path.rootOf target = .relative then stop else []) := by
  split
  · exact h
  · exact listed_root

/-- Whether a place is the directory of a name. -/
def Place.IsDirectoryNamed (name : NodeName) : Place → Prop
  | .root => name = []
  | .node other (.directory _) => other = name
  | _ => False

theorem Place.IsDirectoryNamed.isDirectory {place : Place} (h : place.IsDirectoryNamed D) :
    place.IsDirectory := by
  cases place with
  | root => trivial
  | free directory last => cases h
  | node name n =>
    cases n with
    | directory time => trivial
    | file content time => cases h
    | link target => cases h

theorem Place.IsDirectoryNamed.unique {place : Place} {other : NodeName}
    (h : place.IsDirectoryNamed D) (h' : place.IsDirectoryNamed other) : D = other := by
  cases place with
  | root => exact Eq.trans h (Eq.symm h')
  | free directory last => cases h
  | node name n =>
    cases n with
    | directory time => exact Eq.trans (Eq.symm h) h'
    | file content time => cases h
    | link target => cases h

theorem isDirectoryNamed_directoryPlace (hroot : t.Rooted) {dir : NodeName} (h : t.Listed dir) :
    (t.directoryPlace dir).IsDirectoryNamed dir := by
  unfold directoryPlace
  by_cases hdir : dir = []
  · rw [hdir, hroot]
    rfl
  · obtain ⟨a, ha⟩ := h dir List.prefix_rfl hdir
    rw [ha]
    rfl

/-- How the components of a path lead to a directory: through no link that stands in it. -/
inductive Reaches (t : FileTree) (D : NodeName) : NodeName → List String → Nat → Prop where
  | arrived {dir : NodeName} {cs : List String} {budget : Nat} {place : Place}
      (hwalk : t.walk true dir cs = .arrived place) (hplace : place.IsDirectoryNamed D) :
      Reaches t D dir cs budget
  | link {dir stop : NodeName} {cs rest : List String} {target : String} {budget : Nat}
      (hwalk : t.walk true dir cs = .atLink stop target rest) (hstop : stop ≠ D)
      (hrest : Reaches t D (if Path.rootOf target = .relative then stop else [])
        (Path.components target ++ rest) budget) : Reaches t D dir cs (budget + 1)

/-- **A path leads to a directory**, and no link on the way stands in that directory. -/
structure LeadsInto (t : FileTree) (p : Path) (D : NodeName) : Prop where
  noNull : p.hasNull = false
  short : p.text.utf8ByteSize ≤ maxPath
  reaches : t.Reaches D [] p.parts maxLinks

theorem Reaches.walkLinks {dir : NodeName} {cs : List String} {budget : Nat}
    (h : t.Reaches D dir cs budget) :
    ∃ place, t.walkLinks true dir cs budget = .ok place ∧ place.IsDirectoryNamed D := by
  induction h with
  | arrived hwalk hplace => exact ⟨_, walkLinks_eq_ok.mpr (Or.inl hwalk), hplace⟩
  | link hwalk _ _ ih =>
    obtain ⟨place, hplace, hnamed⟩ := ih
    exact ⟨place, walkLinks_eq_ok.mpr (Or.inr ⟨_, _, _, _, rfl, hwalk, hplace,
      fun _ _ => hnamed.isDirectory⟩), hnamed⟩

/-- A path leads to a directory, through whatever links. -/
def LeadsTo (t : FileTree) (p : Path) (D : NodeName) : Prop :=
  ∃ place, t.locate true p = .ok place ∧ place.IsDirectoryNamed D

theorem LeadsInto.leadsTo (h : t.LeadsInto p D) : t.LeadsTo p D := by
  obtain ⟨place, hwalk, hplace⟩ := h.reaches.walkLinks
  exact ⟨place, locate_eq_ok.mpr ⟨h.noNull, h.short, hwalk⟩, hplace⟩

theorem LeadsTo.noNull (h : t.LeadsTo p D) : p.hasNull = false := by
  obtain ⟨place, hloc, _⟩ := h
  exact (locate_eq_ok.mp hloc).1

theorem LeadsTo.short (h : t.LeadsTo p D) : p.text.utf8ByteSize ≤ maxPath := by
  obtain ⟨place, hloc, _⟩ := h
  exact (locate_eq_ok.mp hloc).2.1

theorem LeadsTo.isDirectory (h : t.LeadsTo p D) : t.isDirectory p = .ok true := by
  obtain ⟨place, hloc, hplace⟩ := h
  exact isDirectory_of_locate hloc hplace.isDirectory

/-- Where a path leads to a directory, it has the name of that directory. -/
theorem directoryName?_of_named {place : Place} (h : t.locate true p = .ok place)
    (hplace : place.IsDirectoryNamed D) : t.directoryName? p = some D := by
  unfold directoryName?
  rw [h]
  cases place with
  | root =>
    cases hplace
    rfl
  | free directory last => cases hplace
  | node name n =>
    cases n with
    | directory time =>
      cases hplace
      rfl
    | file content time => cases hplace
    | link target => cases hplace

theorem LeadsTo.directoryName? (h : t.LeadsTo p D) : t.directoryName? p = some D := by
  obtain ⟨place, hloc, hplace⟩ := h
  exact directoryName?_of_named hloc hplace

/-! ## One component more -/

/-- A walk along a longer path goes on in the directory where the shorter walk has arrived, stops at
the same link, or fails. -/
theorem walk_append (followLast : Bool) {more : List String} (hmore : more ≠ [])
    (cs : List String) {dir : NodeName} (hdir : t.Listed dir) :
    match t.walk true dir cs with
    | .arrived place =>
      (∃ D, t.Listed D ∧ place = t.directoryPlace D ∧
        t.walk followLast dir (cs ++ more) = t.walk followLast D more) ∨
      ¬ place.IsDirectory ∧ t.walk followLast dir (cs ++ more) = .failed place.obstacle
    | .failed cause => t.walk followLast dir (cs ++ more) = .failed cause
    | .atLink stop target rest => t.Listed stop ∧
        t.walk followLast dir (cs ++ more) = .atLink stop target (rest ++ more) := by
  induction cs generalizing dir with
  | nil => exact Or.inl ⟨dir, hdir, rfl, rfl⟩
  | cons c rest ih =>
    by_cases hup : c = ".."
    · subst hup
      exact ih hdir.dropLast
    rw [List.cons_append, walk_cons hup, walk_cons hup]
    by_cases hlong : maxComponent < c.utf8ByteSize
    · rw [if_pos hlong, if_pos hlong]
    rw [if_neg hlong, if_neg hlong]
    have hgoes : rest ++ more ≠ [] := by simp [hmore]
    cases hnode : t.node? (dir ++ [c]) with
    | none =>
      dsimp only
      rw [if_neg hgoes]
      by_cases hend : rest = []
      · rw [if_pos hend]
        exact Or.inr ⟨id, rfl⟩
      · rw [if_neg hend]
    | some n =>
      cases n with
      | directory time => exact ih (hdir.child hnode)
      | file content time =>
        dsimp only
        rw [if_neg hgoes]
        by_cases hend : rest = []
        · rw [if_pos hend]
          exact Or.inr ⟨id, rfl⟩
        · rw [if_neg hend]
      | link target =>
        dsimp only
        rw [if_neg (fun h => h.2 rfl), if_neg (fun h => hgoes h.1)]
        exact ⟨hdir, rfl⟩

/-- A walk along one more component goes on where the shorter walk has arrived, or stops at the same
link. -/
theorem walk_concat (hroot : t.Rooted) (followLast : Bool) (c : String) (cs : List String)
    {dir : NodeName} (hdir : t.Listed dir) :
    match t.walk true dir cs with
    | .arrived place => place.IsDirectoryNamed D →
        t.walk followLast dir (cs ++ [c]) = t.walk followLast D [c]
    | .failed _ => True
    | .atLink stop target rest => t.Listed stop ∧
        t.walk followLast dir (cs ++ [c]) = .atLink stop target (rest ++ [c]) := by
  have hmore := walk_append followLast (List.cons_ne_nil c []) cs hdir
  cases hwalk : t.walk true dir cs with
  | failed cause => trivial
  | atLink stop target rest =>
    rw [hwalk] at hmore
    exact hmore
  | arrived place =>
    rw [hwalk] at hmore
    intro hplace
    rcases hmore with ⟨E, hlisted, rfl, hlong⟩ | ⟨hno, _⟩
    · rw [hlong, hplace.unique (isDirectoryNamed_directoryPlace hroot hlisted)]
    · exact absurd hplace.isDirectory hno

/-- The path of an entry leads where its name leads in the directory. -/
theorem walkLinks_concat (hroot : t.Rooted) (followLast : Bool) (c : String) {dir : NodeName}
    {cs : List String} {budget : Nat} {place : Place} (hdir : t.Listed dir)
    (h : t.walkLinks true dir cs budget = .ok place) (hplace : place.IsDirectoryNamed D) :
    match t.walk followLast D [c] with
    | .arrived there => t.walkLinks followLast dir (cs ++ [c]) budget = .ok there
    | .failed cause => t.walkLinks followLast dir (cs ++ [c]) budget = .error cause
    | .atLink _ _ _ => True := by
  induction budget using Nat.strongRecOn generalizing dir cs with
  | _ budget ih =>
    have hmore := walk_concat (D := D) hroot followLast c cs hdir
    rcases walkLinks_eq_ok.mp h with harrived | ⟨left, stop, target, rest, rfl, hlink, hrest⟩
    · rw [harrived] at hmore
      have hlong := hmore hplace
      cases hend : t.walk followLast D [c] with
      | arrived there =>
        rw [hend] at hlong
        cases budget <;> rw [FileTree.walkLinks, hlong]
      | failed cause =>
        rw [hend] at hlong
        cases budget <;> rw [FileTree.walkLinks, hlong]
      | atLink stop target rest => trivial
    · rw [hlink] at hmore
      obtain ⟨hlisted, hlong⟩ := hmore
      have hgoes : t.walkLinks followLast dir (cs ++ [c]) (left + 1) =
          t.walkLinks followLast (if Path.rootOf target = .relative then stop else [])
            (Path.components target ++ rest ++ [c]) left := by
        rw [walkLinks_of_atLink hlong (by simp), List.append_assoc]
      rw [hgoes]
      exact ih left (Nat.lt_succ_self left) (hlisted.start target) hrest.1

/-- What stands at a name in a directory, as a place. -/
def entryPlace (t : FileTree) (D : NodeName) (c : String) : Place :=
  match t.node? (D ++ [c]) with
  | some n => .node (D ++ [c]) n
  | none => .free D c

theorem walk_single {c : String} (hup : c ≠ "..") :
    t.walk false D [c] =
      if maxComponent < c.utf8ByteSize then .failed .nameTooLong
      else .arrived (t.entryPlace D c) := by
  rw [walk_cons hup]
  unfold entryPlace
  split
  · rfl
  · cases hnode : t.node? (D ++ [c]) with
    | none => rfl
    | some n =>
      cases n with
      | file content time => rfl
      | link target => rfl
      | directory time =>
        dsimp only
        rw [walk, directoryPlace, hnode]

/-- **Where the path of an entry leads, links not followed.** -/
theorem LeadsTo.locate_child (h : t.LeadsTo p D) (hroot : t.Rooted) {c : String}
    (hup : c ≠ "..") {place : Place} :
    t.locate false (p.child c) = .ok place ↔
      (p.child c).hasNull = false ∧ (p.child c).text.utf8ByteSize ≤ maxPath ∧
        c.utf8ByteSize ≤ maxComponent ∧ place = t.entryPlace D c := by
  obtain ⟨above, habove, hnamed⟩ := h
  have hwalk := walkLinks_concat hroot false c listed_root (locate_eq_ok.mp habove).2.2 hnamed
  rw [walk_single hup] at hwalk
  rw [locate_eq_ok]
  by_cases hlong : maxComponent < c.utf8ByteSize
  · rw [if_pos hlong] at hwalk
    constructor
    · rintro ⟨_, _, hplace⟩
      rw [show t.walkLinks false [] (p.child c).parts maxLinks = _ from hwalk] at hplace
      cases hplace
    · rintro ⟨_, _, hshort, _⟩
      omega
  · rw [if_neg hlong] at hwalk
    constructor
    · rintro ⟨hnull, hsize, hplace⟩
      rw [show t.walkLinks false [] (p.child c).parts maxLinks = _ from hwalk] at hplace
      cases hplace
      exact ⟨hnull, hsize, by omega, rfl⟩
    · rintro ⟨hnull, hsize, _, rfl⟩
      exact ⟨hnull, hsize, hwalk⟩

theorem LeadsTo.name_of_locate (h : t.LeadsTo p D) (hroot : t.Rooted) {c : String}
    (hup : c ≠ "..") {name : NodeName} {n : FileNode}
    (hloc : t.locate false (p.child c) = .ok (.node name n)) : name = D ++ [c] := by
  obtain ⟨_, _, _, hplace⟩ := (h.locate_child hroot hup).mp hloc
  unfold entryPlace at hplace
  split at hplace
  · cases hplace
    rfl
  · cases hplace

/-- An entry that can be inspected is there, and its path and its name are not too long. -/
theorem LeadsTo.of_stat_child (h : t.LeadsTo p D) (hroot : t.Rooted) {c : String}
    (hup : c ≠ "..") {found : FileStat} (hstat : t.stat (p.child c) = .ok found) :
    ∃ n, t.node? (D ++ [c]) = some n ∧
      t.locate false (p.child c) = .ok (.node (D ++ [c]) n) := by
  obtain ⟨above, habove, hnamed⟩ := id h
  have hwalk := walkLinks_concat hroot true c listed_root (locate_eq_ok.mp habove).2.2 hnamed
  unfold stat at hstat
  cases hloc : t.locate true (p.child c) with
  | error f =>
    rw [hloc] at hstat
    cases hstat
  | ok place =>
    obtain ⟨hnull, hsize, hplace⟩ := locate_eq_ok.mp hloc
    have hshort : c.utf8ByteSize ≤ maxComponent := by
      by_cases hlong : maxComponent < c.utf8ByteSize
      · rw [walk_cons hup, if_pos hlong] at hwalk
        rw [show t.walkLinks true [] (p.child c).parts maxLinks = _ from hwalk] at hplace
        cases hplace
      · omega
    have hhere := (h.locate_child hroot hup).mpr ⟨hnull, hsize, hshort, rfl⟩
    cases hnode : t.node? (D ++ [c]) with
    | some n =>
      rw [entryPlace, hnode] at hhere
      exact ⟨n, rfl, hhere⟩
    | none =>
      rw [walk_free hup hshort hnode] at hwalk
      rw [show t.walkLinks true [] (p.child c).parts maxLinks = _ from hwalk] at hplace
      cases hplace
      rw [hloc] at hstat
      cases hstat

/-! ## Listing -/

theorem mem_entries {c : String} : c ∈ t.entries D ↔ ∃ n, t.node? (D ++ [c]) = some n := by
  rw [← Option.isSome_iff_exists, isSome_node?, List.any_eq_true, entries, List.mem_filterMap]
  constructor
  · rintro ⟨n, hn, hlast⟩
    split at hlast
    · rename_i last _
      split at hlast
      · rename_i hname
        cases hlast
        exact ⟨n, hn, by simpa using hname⟩
      · cases hlast
    · cases hlast
  · rintro ⟨n, hn, hname⟩
    have hname : n.1 = D ++ [c] := by simpa using hname
    refine ⟨n, hn, ?_⟩
    rw [hname, List.getLast?_concat]
    exact if_pos rfl

theorem LeadsTo.childPaths (h : t.LeadsTo p D) :
    t.childPaths p = (t.entries D).map p.child := by
  unfold FileTree.childPaths
  rw [h.directoryName?]

/-- A directory to which a path leads is listed. -/
theorem LeadsTo.listing (h : t.LeadsTo p D) : t.listing p = .ok (t.childPaths p) := by
  obtain ⟨place, hloc, _⟩ := h
  rw [FileTree.listing, hloc]

theorem lastName_child (c : String) : lastName (p.child c) = c := by
  simp [lastName, Path.child]

theorem hasNull_child {c : String} (hp : p.hasNull = false) (hc : '\x00' ∉ c.toList) :
    (p.child c).hasNull = false := by
  unfold Path.hasNull Path.child at *
  rw [List.any_append, hp, Bool.false_or, List.any_cons, List.any_nil, Bool.or_false]
  simpa using hc

theorem child_injective {c d : String} (h : p.child c = p.child d) : c = d := by
  rw [← lastName_child (p := p) c, h, lastName_child]

/-! ## Removing -/

/-- A tree from which some entries of a directory, none of them a directory itself, are gone, while
everything else is there: only that directory may have another time. -/
structure Cleared (D : NodeName) (gone : String → Prop) (t t' : FileTree) : Prop where
  absent : ∀ {c : String}, gone c → t'.node? (D ++ [c]) = none
  kept : ∀ {name : NodeName}, (∀ c, gone c → name ≠ D ++ [c]) →
    t'.node? name = t.node? name ∨ name = D ∧
      ∃ a b, t.node? name = some (.directory a) ∧ t'.node? name = some (.directory b)
  noDirectory : ∀ {c : String}, gone c → ∀ a, t.node? (D ++ [c]) ≠ some (.directory a)

variable {gone : String → Prop}

theorem Cleared.start (t : FileTree) : Cleared D (fun _ => False) t t where
  absent := fun h => h.elim
  kept := fun _ => Or.inl rfl
  noDirectory := fun h => h.elim

/-- An entry that is not gone is there as it was. -/
theorem Cleared.entry (h : Cleared D gone t t') {c : String} (hthere : ¬ gone c) :
    t'.node? (D ++ [c]) = t.node? (D ++ [c]) := by
  have hne : ∀ d, gone d → D ++ [c] ≠ D ++ [d] := by
    intro d hd heq
    have hcd : c = d := List.singleton_inj.mp (List.append_inj' heq rfl).2
    exact hthere (hcd ▸ hd)
  rcases h.kept hne with hsame | ⟨hself, _⟩
  · exact hsame
  · exact absurd hself (by simp)

theorem Cleared.rooted (h : Cleared D gone t t') (hroot : t.Rooted) : t'.Rooted := by
  have hne : ∀ c, gone c → ([] : NodeName) ≠ D ++ [c] := fun c _ => by simp
  rcases h.kept hne with hsame | ⟨_, a, _, hdir, _⟩
  · exact hsame.trans hroot
  · rw [hroot] at hdir
    cases hdir

theorem Cleared.directory (h : Cleared D gone t t') {name : NodeName} {a : Double}
    (hnode : t.node? name = some (.directory a)) : ∃ b, t'.node? name = some (.directory b) := by
  have hne : ∀ c, gone c → name ≠ D ++ [c] := by
    rintro c hc rfl
    exact h.noDirectory hc a hnode
  rcases h.kept hne with hsame | ⟨_, _, b, _, hb⟩
  · exact ⟨a, hsame.trans hnode⟩
  · exact ⟨b, hb⟩

/-- A link outside of the directory is there still. -/
theorem Cleared.link (h : Cleared D gone t t') {dir : NodeName} {c target : String}
    (hdir : dir ≠ D) (hnode : t.node? (dir ++ [c]) = some (.link target)) :
    t'.node? (dir ++ [c]) = some (.link target) := by
  have hne : ∀ d, gone d → dir ++ [c] ≠ D ++ [d] :=
    fun d _ heq => hdir (List.append_inj' heq rfl).1
  rcases h.kept hne with hsame | ⟨_, _, _, hdir, _⟩
  · exact hsame.trans hnode
  · rw [hnode] at hdir
    cases hdir

/-- A walk to a directory leads there still, and one that stops at a link outside of the cleared
directory stops there still. -/
theorem Cleared.walk (h : Cleared D gone t t') (hroot : t.Rooted) (name : NodeName)
    (cs : List String) {dir : NodeName} (hdir : t.Listed dir) :
    match t.walk true dir cs with
    | .arrived place => place.IsDirectoryNamed name →
        ∃ place', t'.walk true dir cs = .arrived place' ∧ place'.IsDirectoryNamed name
    | .failed _ => True
    | .atLink stop target rest =>
        t.Listed stop ∧ (stop ≠ D → t'.walk true dir cs = .atLink stop target rest) := by
  have hwalks := t.walks true dir cs
  generalize t.walk true dir cs = w at hwalks ⊢
  induction hwalks with
  | here dir =>
    intro hplace
    have hname : dir = name := (isDirectoryNamed_directoryPlace hroot hdir).unique hplace
    have hlisted : t'.Listed dir := by
      intro above habove hne
      obtain ⟨a, ha⟩ := hdir above habove hne
      exact h.directory ha
    have hthere := isDirectoryNamed_directoryPlace (h.rooted hroot) hlisted
    exact ⟨_, rfl, hname ▸ hthere⟩
  | up _ ih => exact ih hdir.dropLast
  | failed dir cs cause => trivial
  | free hup hshort hnode =>
    intro hplace
    cases hplace
  | file hup hshort hnode =>
    intro hplace
    cases hplace
  | directory hup hshort hnode _ ih =>
    obtain ⟨b, hb⟩ := h.directory hnode
    rw [walk_directory hup hshort hb]
    exact ih (hdir.child hnode)
  | lastLink hup hshort hnode hlast => exact absurd rfl hlast
  | link hup hshort hnode hgoes =>
    -- a link that stands in the cleared directory may be gone, so nothing is said of it
    exact ⟨hdir, fun hstop => walk_link hup hshort (h.link hstop hnode) hgoes⟩

theorem Cleared.reaches (h : Cleared D gone t t') (hroot : t.Rooted) {dir : NodeName}
    {cs : List String} {budget : Nat} (hdir : t.Listed dir) (hreaches : t.Reaches D dir cs budget) :
    t'.Reaches D dir cs budget := by
  induction hreaches with
  | @arrived dir cs budget place hwalk hplace =>
    have hcleared := h.walk hroot D cs hdir
    rw [hwalk] at hcleared
    obtain ⟨place', hwalk', hplace'⟩ := hcleared hplace
    exact .arrived hwalk' hplace'
  | @link dir stop cs rest target budget hwalk hstop hrest ih =>
    have hcleared := h.walk hroot D cs hdir
    rw [hwalk] at hcleared
    obtain ⟨hlisted, hsame⟩ := hcleared
    exact .link (hsame hstop) hstop (ih (hlisted.start target))

/-- **The path of the directory leads there still.** -/
theorem Cleared.leadsInto (h : Cleared D gone t t') (hroot : t.Rooted) (hdir : t.LeadsInto p D) :
    t'.LeadsInto p D where
  noNull := hdir.noNull
  short := hdir.short
  reaches := h.reaches hroot listed_root hdir.reaches

theorem node?_erase (name other : NodeName) :
    (t.erase name).node? other = if other = name then none else t.node? other := by
  obtain ⟨ns⟩ := t
  unfold erase
  induction ns with
  | nil => exact (ite_self none).symm
  | cons n rest ih =>
    rw [List.filter_cons]
    by_cases hn : n.1 = name
    · rw [if_neg (by simpa using hn), ih, node?_cons]
      by_cases ho : other = name
      · rw [if_pos ho, if_pos ho]
      · have hne : ¬ n.1 = other := fun heq => ho (heq.symm.trans hn)
        rw [if_neg ho, if_neg ho, if_neg hne]
    · rw [if_pos (by simpa using hn), node?_cons, ih, node?_cons]
      by_cases ho : other = name
      · have hne : ¬ n.1 = other := fun heq => hn (heq.trans ho)
        rw [if_pos ho, if_pos ho, if_neg hne]
      · rw [if_neg ho, if_neg ho]

theorem node?_touch_of_ne {dir other : NodeName} (hne : other ≠ dir) (time : Double) :
    (t.touch dir time).node? other = t.node? other := by
  unfold touch
  split
  · rw [node?_put, if_neg hne]
  · rfl

/-- Where the path of an entry leads after the clearing, if that of the directory leads there
still. -/
theorem Cleared.locate_child (h : Cleared D gone t t') (hroot : t.Rooted) (hdir : t.LeadsTo p D)
    (hdir' : t'.LeadsTo p D) {c : String} (hup : c ≠ "..") {n : FileNode}
    (hloc : t.locate false (p.child c) = .ok (.node (D ++ [c]) n)) :
    t'.locate false (p.child c) = .ok (t'.entryPlace D c) := by
  obtain ⟨hnull, hsize, hshort, _⟩ := (hdir.locate_child hroot hup).mp hloc
  exact (hdir'.locate_child (h.rooted hroot) hup).mpr ⟨hnull, hsize, hshort, rfl⟩

/-- **The path of an entry that is not gone leads to it still.** -/
theorem Cleared.locate_kept (h : Cleared D gone t t') (hroot : t.Rooted)
    (hdir : t.LeadsInto p D) {c : String} (hup : c ≠ "..") {name : NodeName} {n : FileNode}
    (hloc : t.locate false (p.child c) = .ok (.node name n)) (hthere : ¬ gone c) :
    t'.locate false (p.child c) = .ok (.node name n) := by
  obtain rfl := hdir.leadsTo.name_of_locate hroot hup hloc
  have hnode : t.node? (D ++ [c]) = some n := stands_of_locate hloc
  have hdir' := (h.leadsInto hroot hdir).leadsTo
  rw [h.locate_child hroot hdir.leadsTo hdir' hup hloc, entryPlace, h.entry hthere, hnode]

/-- A file or a link is taken out of the directory in which it stands. -/
theorem remove_of_locate {c : String} {n : FileNode}
    (hloc : t.locate false p = .ok (.node (D ++ [c]) n)) (hfile : ∀ a, n ≠ .directory a)
    (time : Double) : t.remove time p = .ok ((t.erase (D ++ [c])).touch D time) := by
  rw [FileTree.remove, bind_of_ok hloc]
  cases n with
  | directory a => exact absurd rfl (hfile a)
  | file content written =>
    dsimp only
    rw [List.dropLast_concat]
    rfl
  | link target =>
    dsimp only
    rw [List.dropLast_concat]
    rfl

/-- Where no file and no link stands, the file system refuses to remove one. -/
theorem remove_refused (hnull : p.hasNull = false)
    (h : ∀ name n, t.locate false p = .ok (.node name n) → ∃ a, n = .directory a) (time : Double) :
    ∃ e, t.remove time p = .error (.file e) := by
  cases hloc : t.locate false p with
  | error f =>
    obtain ⟨e, rfl⟩ := locate_fault hnull hloc
    rw [FileTree.remove, hloc]
    exact ⟨e, rfl⟩
  | ok place =>
    rw [FileTree.remove, bind_of_ok hloc]
    cases place with
    | root => exact ⟨_, rfl⟩
    | free directory last => exact ⟨_, rfl⟩
    | node name n =>
      obtain ⟨a, rfl⟩ := h name n hloc
      exact ⟨_, rfl⟩

/-- Taking one more entry away, and noting so in the directory. -/
theorem Cleared.erase_touch (h : Cleared D gone t t') {c : String}
    (hfile : ∀ a, t.node? (D ++ [c]) ≠ some (.directory a)) (time : Double) :
    Cleared D (fun d => gone d ∨ d = c) t ((t'.erase (D ++ [c])).touch D time) where
  absent := by
    intro d hd
    have hnone : (t'.erase (D ++ [c])).node? (D ++ [d]) = none := by
      rw [node?_erase]
      rcases hd with hd | rfl
      · rw [h.absent hd, ite_self]
      · exact if_pos rfl
    rcases node?_touch D (D ++ [d]) time with htouch | ⟨a, ha, _⟩
    · exact htouch.trans hnone
    · rw [hnone] at ha
      cases ha
  kept := by
    intro name hname
    have hother : (t'.erase (D ++ [c])).node? name = t'.node? name := by
      rw [node?_erase, if_neg (hname c (Or.inr rfl))]
    have hkept := h.kept fun d hd => hname d (Or.inl hd)
    by_cases hself : name = D
    · rcases node?_touch D name time with htouch | ⟨a, ha, htouch⟩
      · rw [htouch, hother]
        exact hkept
      · rw [hother] at ha
        rcases hkept with hsame | ⟨_, b, _, hb, _⟩
        · exact Or.inr ⟨hself, a, time, hsame ▸ ha, htouch⟩
        · exact Or.inr ⟨hself, b, time, hb, htouch⟩
    · rw [node?_touch_of_ne hself, hother]
      exact hkept
  noDirectory := by
    rintro d (hd | rfl) a
    · exact h.noDirectory hd a
    · exact hfile a

end FileTree

end Baseline
