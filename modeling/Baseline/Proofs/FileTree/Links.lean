import Baseline.Proofs.FileTree.Course

/-!
# Links that lead to files only

Where no link leads to a directory, a path to a directory goes through directories only, and no path
goes on from a link.

* `FileTree.walkLinks_mono`, `FileTree.walkLinks_of_le` : what a path needs of links to follow.
* `FileTree.walkLinks_beyond` : a path that goes on from a file fails.
* `FileTree.LinksToFiles` : no link leads to a directory.
* `FileTree.LinksToFiles.leadsStraight` : **every path to a directory goes through directories
  only**, so that making it changes nothing and its entries are found in it.
-/

set_option autoImplicit false

namespace Baseline

namespace FileTree

variable {t t' : FileTree} {p : Path} {D : NodeName}

/-! ## How many links may be followed -/

theorem walkLinks_congr {followLast : Bool} {dir dir' : NodeName} {cs cs' : List String}
    (h : t.walk followLast dir cs = t.walk followLast dir' cs') (budget : Nat) :
    t.walkLinks followLast dir cs budget = t.walkLinks followLast dir' cs' budget := by
  cases budget <;> rw [walkLinks, walkLinks, h]

theorem locate_congr {followLast : Bool}
    (h : t'.walkLinks followLast [] p.parts maxLinks = t.walkLinks followLast [] p.parts maxLinks) :
    t'.locate followLast p = t.locate followLast p := by
  rw [locate, locate, h]

/-- What is found depends on where the path leads. -/
theorem stat_congr (h : t'.locate true p = t.locate true p) : t'.stat p = t.stat p := by
  rw [stat, stat, h]

theorem locate_of_walkLinks_error {followLast : Bool} {cause : FileErrorCause}
    (hnull : p.hasNull = false) (hshort : p.text.utf8ByteSize ≤ maxPath)
    (h : t.walkLinks followLast [] p.parts maxLinks = .error cause) :
    t.locate followLast p = .error (failure cause p) := by
  rw [locate, hnull, if_neg Bool.false_ne_true, if_neg (Nat.not_lt.mpr hshort), h]

/-- Where a path leads, it leads when more links may be followed. -/
theorem walkLinks_mono {followLast : Bool} {budget limit : Nat} (hle : budget ≤ limit)
    {dir : NodeName} {cs : List String} {place : Place}
    (h : t.walkLinks followLast dir cs budget = .ok place) :
    t.walkLinks followLast dir cs limit = .ok place := by
  induction budget using Nat.strongRecOn generalizing limit dir cs with
  | _ budget ih =>
    rcases walkLinks_eq_ok.mp h with harrived | ⟨left, stop, target, rest, rfl, hlink, hrest⟩
    · exact walkLinks_eq_ok.mpr (Or.inl harrived)
    · obtain ⟨more, rfl⟩ : ∃ more, limit = more + 1 := ⟨limit - 1, by omega⟩
      exact walkLinks_eq_ok.mpr (Or.inr ⟨more, stop, target, rest, rfl, hlink,
        ih left (Nat.lt_succ_self left) (by omega) hrest.1, hrest.2⟩)

/-- Where a path leads, it leads when fewer links may be followed, or these are too few. -/
theorem walkLinks_of_le {followLast : Bool} {budget limit : Nat} (hle : budget ≤ limit)
    {dir : NodeName} {cs : List String} {place : Place}
    (h : t.walkLinks followLast dir cs limit = .ok place) :
    t.walkLinks followLast dir cs budget = .ok place ∨
      t.walkLinks followLast dir cs budget = .error .linkLoop := by
  induction limit using Nat.strongRecOn generalizing budget dir cs with
  | _ limit ih =>
    rcases walkLinks_eq_ok.mp h with harrived | ⟨left, stop, target, rest, rfl, hlink, hrest⟩
    · exact Or.inl (walkLinks_eq_ok.mpr (Or.inl harrived))
    · cases budget with
      | zero => exact Or.inr (by rw [walkLinks, hlink])
      | succ budget =>
        rw [walkLinks, hlink]
        dsimp only
        rcases ih left (Nat.lt_succ_self left) (Nat.le_of_succ_le_succ hle) hrest.1 with
          hsame | hloop
        · rw [hsame]
          exact Or.inl (throughLink_eq_ok.mpr ⟨rfl, hrest.2⟩)
        · rw [hloop]
          exact Or.inr (throughLink_error target rest _)

/-- **A path that goes on from what is no directory fails**, there or because too few links may be
followed. -/
theorem walkLinks_beyond (followLast : Bool) {more : List String} (hmore : more ≠ [])
    {budget limit : Nat} (hle : budget ≤ limit) {dir : NodeName} (hdir : t.Listed dir)
    {cs : List String} {place : Place} (hplace : ¬ place.IsDirectory)
    (h : t.walkLinks true dir cs limit = .ok place) (hroot : t.Rooted) :
    t.walkLinks followLast dir (cs ++ more) budget = .error place.obstacle ∨
      t.walkLinks followLast dir (cs ++ more) budget = .error .linkLoop := by
  induction limit using Nat.strongRecOn generalizing budget dir cs with
  | _ limit ih =>
    have hlong := walk_append followLast hmore cs hdir
    rcases walkLinks_eq_ok.mp h with harrived | ⟨left, stop, target, rest, rfl, hlink, hrest⟩
    · rw [harrived] at hlong
      rcases hlong with ⟨E, hlisted, rfl, _⟩ | ⟨_, hfailed⟩
      · exact absurd (isDirectoryNamed_directoryPlace hroot hlisted).isDirectory hplace
      · left
        cases budget <;> rw [walkLinks, hfailed]
    · rw [hlink] at hlong
      obtain ⟨hlisted, hlong⟩ := hlong
      cases budget with
      | zero => exact Or.inr (by rw [walkLinks, hlong])
      | succ budget =>
        rw [walkLinks_of_atLink hlong (by simp [hmore]), ← List.append_assoc]
        exact ih left (Nat.lt_succ_self left) (Nat.le_of_succ_le_succ hle) (hlisted.start target)
          hrest.1

/-! ## Links that lead to no directory -/

/-- No link leads to a directory: it may lead to a file, to nothing, or nowhere at all. -/
def LinksToFiles (t : FileTree) : Prop :=
  ∀ ⦃name target place⦄, t.node? name = some (.link target) →
    t.walkLinks true (if Path.rootOf target = .relative then name.dropLast else [])
      (Path.components target) maxLinks = .ok place → ¬ place.IsDirectory

instance (place : Place) : Decidable place.IsDirectory :=
  match place with
  | .root => isTrue trivial
  | .node _ (.directory _) => isTrue trivial
  | .node _ (.file _ _) => isFalse id
  | .node _ (.link _) => isFalse id
  | .free _ _ => isFalse id

/-- Whether a link to a directory stands at a name. -/
def linkToDirectory (t : FileTree) (name : NodeName) : Bool :=
  match t.node? name with
  | some (.link target) =>
    match t.walkLinks true (if Path.rootOf target = .relative then name.dropLast else [])
        (Path.components target) maxLinks with
    | .ok place => decide place.IsDirectory
    | .error _ => false
  | _ => false

theorem linksToFiles_iff : t.LinksToFiles ↔ ∀ n ∈ t.nodes, t.linkToDirectory n.1 = false := by
  constructor
  · intro h n _
    unfold linkToDirectory
    split
    · rename_i target hnode
      split
      · rename_i place hwalk
        exact decide_eq_false (h hnode hwalk)
      · rfl
    · rfl
  · intro h name target place hnode hwalk
    have hthere := h (name, .link target) (mem_of_node? hnode)
    simpa only [linkToDirectory, hnode, hwalk, decide_eq_false_iff_not] using hthere

instance (t : FileTree) : Decidable t.LinksToFiles := decidable_of_iff _ linksToFiles_iff.symm

/-- Where a walk stops at a link, that link stands. -/
theorem link_of_walk {followLast : Bool} {dir stop : NodeName} {cs rest : List String}
    {target : String} (h : t.walk followLast dir cs = .atLink stop target rest) :
    ∃ c, t.node? (stop ++ [c]) = some (.link target) := by
  have hwalks := t.walks followLast dir cs
  rw [h] at hwalks
  clear h
  generalize hstops : Walk.atLink stop target rest = w at hwalks
  induction hwalks with
  | here dir => cases hstops
  | up _ ih => exact ih hstops
  | failed dir cs cause => cases hstops
  | free hup hshort hnode => cases hstops
  | file hup hshort hnode => cases hstops
  | directory hup hshort hnode _ ih => exact ih hstops
  | lastLink hup hshort hnode hlast => cases hstops
  | @link dir c target rest hup hshort hnode hgoes =>
    cases hstops
    exact ⟨c, hnode⟩

/-- **Where no link leads to a directory, a path to a directory meets no link.** -/
theorem LinksToFiles.walk (hlinks : t.LinksToFiles) (hroot : t.Rooted) {budget : Nat}
    (hle : budget ≤ maxLinks) {dir : NodeName} {cs : List String} {place : Place}
    (hdir : t.Listed dir) (h : t.walkLinks true dir cs budget = .ok place)
    (hplace : place.IsDirectory) : t.walk true dir cs = .arrived place := by
  rcases walkLinks_eq_ok.mp h with harrived | ⟨left, stop, target, rest, rfl, hlink, hrest⟩
  · exact harrived
  obtain ⟨c, hnode⟩ := link_of_walk hlink
  have hno : ∀ there, t.walkLinks true (if Path.rootOf target = .relative then stop else [])
      (Path.components target) left = .ok there → ¬ there.IsDirectory := by
    intro there hthere
    refine hlinks hnode ?_
    rw [List.dropLast_concat]
    exact walkLinks_mono (by omega) hthere
  replace hrest := hrest.1
  by_cases hend : rest = []
  · rw [hend, List.append_nil] at hrest
    exact absurd hplace (hno place hrest)
  · -- what the link leads to is gone on from, so it leads to a directory
    have hstops := walk_append true (List.cons_ne_nil c []) cs hdir
    rw [hlink] at hstops
    obtain ⟨E, _, habove, hlisted, _⟩ := walkLinks_append hroot hend (hstops.1.start target) hrest
    exact absurd (isDirectoryNamed_directoryPlace hroot hlisted).isDirectory (hno _ habove)

/-- **Where no link leads to a directory, an entry that leads to one is that directory.** -/
theorem LinksToFiles.entry (hlinks : t.LinksToFiles) (hroot : t.Rooted) (hD : t.Listed D)
    {c : String} (hup : c ≠ "..") {place : Place}
    (h : t.walkLinks true D [c] maxLinks = .ok place) (hplace : place.IsDirectory) :
    ∃ a, place = .node (D ++ [c]) (.directory a) ∧ t.node? (D ++ [c]) = some (.directory a) := by
  have hwalks := t.walks true D [c]
  rw [hlinks.walk hroot (Nat.le_refl maxLinks) hD h hplace] at hwalks
  cases hwalks with
  | up _ => exact absurd rfl hup
  | free _ _ _ => exact hplace.elim
  | file _ _ _ => exact hplace.elim
  | lastLink _ _ _ hlast => exact absurd rfl hlast
  | @directory _ _ _ a _ _ _ hnode hrest =>
    refine ⟨a, ?_, hnode⟩
    cases hrest
    rw [directoryPlace, hnode]

/-! ## Paths through directories only -/

/-- The directory at which a walk arrives is listed. -/
theorem listed_of_walk {dir : NodeName} {cs : List String} {place : Place} (hdir : t.Listed dir)
    (h : t.walk true dir cs = .arrived place) (hplace : place.IsDirectory) :
    ∃ D, t.Listed D ∧ place = t.directoryPlace D := by
  have hmore := walk_append true (List.cons_ne_nil ".." []) cs hdir
  rw [h] at hmore
  rcases hmore with ⟨D, hlisted, hD, _⟩ | ⟨hno, _⟩
  · exact ⟨D, hlisted, hD⟩
  · exact absurd hplace hno

/-- A path leads to a directory through directories only. -/
structure LeadsStraight (t : FileTree) (p : Path) (D : NodeName) : Prop where
  noNull : p.hasNull = false
  short : p.text.utf8ByteSize ≤ maxPath
  arrives : ∃ place, t.walk true [] p.parts = .arrived place ∧ place.IsDirectoryNamed D

theorem locate_of_isDirectory (h : t.isDirectory p = .ok true) :
    ∃ place, t.locate true p = .ok place ∧ place.IsDirectory := by
  unfold isDirectory absenceIsFalse stat at h
  cases hloc : t.locate true p with
  | error f =>
    rw [hloc] at h
    dsimp only [bind, Except.bind, Except.map] at h
    split at h <;> cases h
  | ok place =>
    refine ⟨place, rfl, ?_⟩
    rw [hloc] at h
    cases place with
    | root => trivial
    | free directory last => cases h
    | node name n =>
      cases n with
      | directory time => trivial
      | file content time => cases h
      | link target => cases h

/-- **Where no link leads to a directory, every path to a directory goes through directories
only.** -/
theorem LinksToFiles.leadsStraight (hlinks : t.LinksToFiles) (hroot : t.Rooted)
    (h : t.isDirectory p = .ok true) : ∃ D, t.LeadsStraight p D := by
  obtain ⟨place, hloc, hplace⟩ := locate_of_isDirectory h
  obtain ⟨hnull, hshort, hwalk⟩ := locate_eq_ok.mp hloc
  have harrived := hlinks.walk hroot (Nat.le_refl maxLinks) listed_root hwalk hplace
  obtain ⟨D, hlisted, rfl⟩ := listed_of_walk listed_root harrived hplace
  exact ⟨D, hnull, hshort, _, harrived, isDirectoryNamed_directoryPlace hroot hlisted⟩

theorem LeadsStraight.leadsInto (h : t.LeadsStraight p D) : t.LeadsInto p D where
  noNull := h.noNull
  short := h.short
  reaches := by
    obtain ⟨place, hwalk, hplace⟩ := h.arrives
    exact .arrived hwalk hplace

theorem LeadsStraight.listed (h : t.LeadsStraight p D) (hroot : t.Rooted) : t.Listed D := by
  obtain ⟨place, hwalk, hplace⟩ := h.arrives
  obtain ⟨E, hlisted, rfl⟩ := listed_of_walk listed_root hwalk hplace.isDirectory
  rw [hplace.unique (isDirectoryNamed_directoryPlace hroot hlisted)]
  exact hlisted

/-- The path of an entry leads where its name leads in the directory. -/
theorem LeadsStraight.walkLinks_child (h : t.LeadsStraight p D) (hroot : t.Rooted)
    (followLast : Bool) (c : String) (budget : Nat) :
    t.walkLinks followLast [] (p.child c).parts budget = t.walkLinks followLast D [c] budget := by
  obtain ⟨place, hwalk, hplace⟩ := h.arrives
  have hmore := walk_concat (D := D) hroot followLast c p.parts listed_root
  rw [hwalk] at hmore
  exact walkLinks_congr (hmore hplace) budget

/-- A walk that meets no link arrives whether links at the end are followed or not. -/
theorem walk_of_arrived {dir : NodeName} {cs : List String} {place : Place}
    (h : t.walk true dir cs = .arrived place) : t.walk false dir cs = .arrived place := by
  have hwalks := t.walks true dir cs
  rw [h] at hwalks
  clear h
  generalize harrived : Walk.arrived place = w at hwalks ⊢
  induction hwalks with
  | here dir => rfl
  | up _ ih => exact ih harrived
  | failed dir cs cause => cases harrived
  | free hup hshort hnode => exact walk_free hup hshort hnode
  | file hup hshort hnode => exact walk_file hup hshort hnode
  | directory hup hshort hnode _ ih => exact (walk_directory hup hshort hnode).trans (ih harrived)
  | lastLink hup hshort hnode hlast => exact absurd rfl hlast
  | link hup hshort hnode hgoes => cases harrived

/-- Making the directory changes nothing. -/
theorem LeadsStraight.makeDirectories (h : t.LeadsStraight p D) (time : Double) :
    t.makeDirectories time p = (.ok (), t) := by
  obtain ⟨place, hwalk, hplace⟩ := h.arrives
  have hloc : t.locate false p = .ok place :=
    locate_eq_ok.mpr ⟨h.noNull, h.short, walkLinks_eq_ok.mpr (Or.inl (walk_of_arrived hwalk))⟩
  exact makeDirectories_of_passage time hloc (Or.inl hplace.isDirectory)
    h.leadsInto.leadsTo.isDirectory

/-- The path of a directory from which entries were taken away leads straight there still. -/
theorem Cleared.leadsStraight {gone : String → Prop} (h : Cleared D gone t t') (hroot : t.Rooted)
    (hdir : t.LeadsStraight p D) : t'.LeadsStraight p D where
  noNull := hdir.noNull
  short := hdir.short
  arrives := by
    obtain ⟨place, hwalk, hplace⟩ := hdir.arrives
    have hcleared := h.walk hroot D p.parts listed_root
    rw [hwalk] at hcleared
    exact hcleared hplace

end FileTree

end Baseline
