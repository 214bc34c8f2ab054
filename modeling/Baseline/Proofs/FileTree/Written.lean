import Baseline.Proofs.FileTree.Grown

/-!
# What a write leaves alone

A write changes one file.  Every path that led to another file leads to it still, by the same
directories and links, and reads what it read before.

* `FileTree.LeadsToFile` : a path leads to the file at a name, or to that name when it is free.
* `WrittenAt.locate_other` : paths to other files lead to them still.
* `WrittenAt.read_of_read` : **what every path reads after a write**.
* `write_fault` : a write without a null character in its path is refused by the file system alone.
-/

set_option autoImplicit false

namespace Baseline.FileTree

variable {t t' : FileTree} {name other : NodeName} {node : FileNode} {content old : List UInt8}
  {time written : Double} {p : Path}

/-- A path leads to the file at a name, or to that name when it is free. -/
def LeadsToFile (t : FileTree) (p : Path) (name : NodeName) : Prop :=
  ∃ place, t.locate true p = .ok place ∧ place.IsFileAt name

theorem LeadsToFile.unique (h : t.LeadsToFile p name) (h' : t.LeadsToFile p other) :
    name = other := by
  obtain ⟨place, hloc, hplace⟩ := h
  obtain ⟨place', hloc', hplace'⟩ := h'
  rw [hloc] at hloc'
  cases hloc'
  cases place with
  | root => cases hplace
  | free dir last => exact hplace.symm.trans hplace'
  | node at_ n =>
    cases n with
    | file _ _ => exact hplace.symm.trans hplace'
    | directory _ => cases hplace
    | link _ => cases hplace

theorem WrittenAt.file (hw : WrittenAt t t' name node) (hne : other ≠ name)
    (h : t.node? other = some (.file old time)) : t'.node? other = some (.file old time) := by
  rcases hw.others other hne with ho | ⟨a, b, ha, hb⟩
  · exact ho.trans h
  · rw [h] at ha
    cases ha

theorem WrittenAt.walk_other (hw : WrittenAt t t' name node) (hne : other ≠ name) {dir : NodeName}
    {cs : List String} (h : t.walk true dir cs = .arrived (.node other (.file old time))) :
    t'.walk true dir cs = .arrived (.node other (.file old time)) := by
  have hwalks := t.walks true dir cs
  generalize t.walk true dir cs = w at h hwalks
  induction hwalks with
  | here dir =>
    have hplace : t.directoryPlace dir = .node other (.file old time) := Walk.arrived.inj h
    have hnode : t.node? dir = some (.file old time) ∧ dir = other := by
      unfold FileTree.directoryPlace at hplace
      split at hplace
      · rename_i n hn
        cases hplace
        exact ⟨hn, rfl⟩
      · cases hplace
    obtain ⟨hnode, rfl⟩ := hnode
    simp only [FileTree.walk, FileTree.directoryPlace, hw.file hne hnode]
  | up _ ih => exact ih h
  | failed dir cs cause => cases h
  | free hup hshort hnode => cases h
  | file hup hshort hnode =>
    cases h
    exact walk_file hup hshort (hw.file hne hnode)
  | directory hup hshort hnode _ ih =>
    obtain ⟨b, hb⟩ := hw.directory hnode
    rw [walk_directory hup hshort hb]
    exact ih h
  | lastLink hup hshort hnode hlast => exact absurd rfl hlast
  | link hup hshort hnode hgoes => cases h

theorem WrittenAt.walkLinks_other (hw : WrittenAt t t' name node) (hne : other ≠ name)
    {budget : Nat} {dir : NodeName} {cs : List String}
    (h : t.walkLinks true dir cs budget = .ok (.node other (.file old time))) :
    t'.walkLinks true dir cs budget = .ok (.node other (.file old time)) := by
  induction budget using Nat.strongRecOn generalizing dir cs with
  | _ budget ih =>
    rw [walkLinks_eq_ok] at h ⊢
    rcases h with harrived | ⟨left, stop, target, rest, rfl, hlink, hrest⟩
    · exact Or.inl (hw.walk_other hne harrived)
    · have hwalk := hw.walk cs dir
      rw [hlink] at hwalk
      generalize t'.walk true dir cs = w' at hwalk ⊢
      cases hwalk with
      | atLink =>
        exact Or.inr ⟨left, stop, target, rest, rfl, rfl, ih left (Nat.lt_succ_self left) hrest.1,
          hrest.2⟩

/-- A path to another file leads to it still. -/
theorem WrittenAt.locate_other (hw : WrittenAt t t' name node) (hne : other ≠ name)
    (h : t.locate true p = .ok (.node other (.file old time))) :
    t'.locate true p = .ok (.node other (.file old time)) := by
  rw [locate_eq_ok] at h ⊢
  exact ⟨h.1, h.2.1, hw.walkLinks_other hne h.2.2⟩

/-- **What every path reads after a write**: the new content if it led to the file that was written,
and what it read before if it led to another. -/
theorem WrittenAt.read_of_read (hw : WrittenAt t t' name (.file content written))
    (h : t.read p = .ok old) :
    (t.LeadsToFile p name ∧ t'.read p = .ok content) ∨
      (¬ t.LeadsToFile p name ∧ t'.read p = .ok old) := by
  obtain ⟨other, time, hloc⟩ := locate_of_read h
  have hleads : t.LeadsToFile p other := ⟨_, hloc, rfl⟩
  by_cases hsame : other = name
  · subst hsame
    have hplace : (Place.node other (.file old time)).IsFileAt other := rfl
    exact Or.inl ⟨hleads, read_of_locate (hw.locate hplace hloc)⟩
  · exact Or.inr ⟨fun h => hsame (hleads.unique h), read_of_locate (hw.locate_other hsame hloc)⟩

/-- A write to a path without a null character is refused by the file system alone. -/
theorem write_fault (hnull : p.hasNull = false) {f : Fault}
    (h : t.write time p content = .error f) : ∃ e, f = .file e := by
  unfold write at h
  cases hloc : t.locate true p with
  | error g =>
    obtain ⟨e, rfl⟩ := locate_fault hnull hloc
    rw [hloc] at h
    cases h
    rw [writeFault]
    split <;> exact ⟨_, rfl⟩
  | ok place =>
    rw [hloc] at h
    cases place with
    | root =>
      cases h
      exact ⟨_, rfl⟩
    | free dir last => cases h
    | node name n =>
      cases n with
      | file old before => cases h
      | directory before =>
        cases h
        exact ⟨_, rfl⟩
      | link target =>
        cases h
        exact ⟨_, rfl⟩

end Baseline.FileTree
