import Baseline.Proofs.FileTree.Links

/-!
# Paths after entries were taken away

When stale files are taken away from a directory, and links to them, then a path leads where it led,
or it led to a stale file and now leads nowhere.  The one exception is a path that could not be
followed: it may lead nowhere for another reason now.

* `FileTree.Cleared.walkCleared` : **how a walk goes after entries were taken away.**
* `FileTree.Cleared.walkLinks` : **where a path leads then**: where it led, or up to an entry that is
  gone.
* `FileTree.LeadsToStale` : which entries may be taken away.
* `FileTree.Outlived` : where a path leads then, compared with where it led.
* `FileTree.Cleared.outlived` : **every path is as before, led to a stale file, or was in vain.**
* `FileTree.Cleared.leadsTo_or_missing` : **a path to that directory leads there still, or nowhere.**
-/

set_option autoImplicit false

namespace Baseline

namespace FileTree

variable {t t' : FileTree} {D : NodeName} {gone : String → Prop}

/-! ## Walks -/

/-- How a walk goes after entries of a directory were taken away: as before, to that directory,
which may have another time, or up to an entry that is gone. -/
inductive WalkCleared (D : NodeName) (gone : String → Prop) (t : FileTree) :
    Walk → Walk → Prop where
  | same (w : Walk) : WalkCleared D gone t w w
  | directory (a b : Double) :
      WalkCleared D gone t (.arrived (.node D (.directory a))) (.arrived (.node D (.directory b)))
  | gone {d : String} (hgone : gone d) (hup : d ≠ "..") (rest : List String) {w w' : Walk}
      (hbefore : w = t.walk true D (d :: rest))
      (hafter : w' = if rest = [] then .arrived (.free D d) else .failed .noEntry) :
      WalkCleared D gone t w w'

theorem Cleared.directoryPlace (h : Cleared D gone t t') (hroot : t.Rooted) {dir : NodeName}
    (hdir : t.Listed dir) :
    WalkCleared D gone t (.arrived (t.directoryPlace dir)) (.arrived (t'.directoryPlace dir)) := by
  unfold FileTree.directoryPlace
  by_cases hne : dir = []
  · rw [hne, hroot, h.rooted hroot]
    exact .same _
  · obtain ⟨a, ha⟩ := hdir dir List.prefix_rfl hne
    have hkept : ∀ c, gone c → dir ≠ D ++ [c] := by
      rintro c hc rfl
      exact h.noDirectory hc a ha
    rcases h.kept hkept with hsame | ⟨rfl, _, b, _, hb⟩
    · rw [hsame]
      exact .same _
    · rw [ha, hb]
      exact .directory a b

/-- **How a walk goes after entries were taken away.** -/
theorem Cleared.walkCleared (h : Cleared D gone t t') (hroot : t.Rooted) (cs : List String)
    {dir : NodeName} (hdir : t.Listed dir) :
    WalkCleared D gone t (t.walk true dir cs) (t'.walk true dir cs) := by
  induction cs generalizing dir with
  | nil => exact h.directoryPlace hroot hdir
  | cons c rest ih =>
    by_cases hup : c = ".."
    · subst hup
      exact ih hdir.dropLast
    by_cases hlong : maxComponent < c.utf8ByteSize
    · rw [walk_cons hup, walk_cons hup, if_pos hlong, if_pos hlong]
      exact .same _
    by_cases hgone : dir = D ∧ gone c
    · obtain ⟨rfl, hgone⟩ := hgone
      refine .gone hgone hup rest rfl ?_
      rw [walk_cons hup, if_neg hlong, h.absent hgone]
    have hkept : ∀ d, gone d → dir ++ [c] ≠ D ++ [d] := by
      intro d hd heq
      obtain ⟨hD, hcd⟩ := List.append_inj' heq rfl
      exact hgone ⟨hD, List.singleton_inj.mp hcd ▸ hd⟩
    -- anything else than a directory is there as it was
    have hsame : (∀ a, t.node? (dir ++ [c]) ≠ some (.directory a)) →
        t'.node? (dir ++ [c]) = t.node? (dir ++ [c]) := by
      intro hfile
      rcases h.kept hkept with hsame | ⟨_, a, _, ha, _⟩
      · exact hsame
      · exact absurd ha (hfile a)
    rw [walk_cons hup, walk_cons hup, if_neg hlong, if_neg hlong]
    cases hnode : t.node? (dir ++ [c]) with
    | none =>
      rw [hsame (by simp [hnode]), hnode]
      exact .same _
    | some n =>
      cases n with
      | directory a =>
        obtain ⟨b, hb⟩ := h.directory hnode
        rw [hb]
        exact ih (hdir.child hnode)
      | file content time =>
        rw [hsame (by simp [hnode]), hnode]
        exact .same _
      | link target =>
        rw [hsame (by simp [hnode]), hnode]
        exact .same _

/-! ## Paths -/

/-- Whether a path leads to nothing since something on the way, or at its end, is missing. -/
def Missing : Except FileErrorCause Place → Prop
  | .ok (.free _ _) => True
  | .error .noEntry => True
  | _ => False

/-- What is missing is no directory either. -/
theorem missing_throughLink {r : Except FileErrorCause Place} (h : Missing r) (target : String)
    (rest : List String) : Missing (throughLink target rest r) := by
  unfold throughLink
  split
  · cases r with
    | error cause => exact h
    | ok place =>
      cases place with
      | free directory last => trivial
      | root => exact h.elim
      | node name n => exact h.elim
  · exact h

theorem walkLinks_of_failed {followLast : Bool} {dir : NodeName} {cs : List String}
    {cause : FileErrorCause} (h : t.walk followLast dir cs = .failed cause) (budget : Nat) :
    t.walkLinks followLast dir cs budget = .error cause := by
  cases budget <;> rw [walkLinks, h]

/-- Where a path leads after entries of a directory were taken away: where it led, to that
directory, which may have another time, or nowhere, since it comes to an entry that is gone, with at
most so many links left to follow.  What stood there may have been asked to be a directory. -/
inductive LinksCleared (D : NodeName) (gone : String → Prop) (t : FileTree) (limit : Nat) :
    Except FileErrorCause Place → Except FileErrorCause Place → Prop where
  | same (r : Except FileErrorCause Place) : LinksCleared D gone t limit r r
  | directory (a b : Double) : LinksCleared D gone t limit
      (.ok (.node D (.directory a))) (.ok (.node D (.directory b)))
  | gone {d : String} (hgone : gone d) (hup : d ≠ "..") (rest : List String) {left : Nat}
      (hle : left ≤ limit) {r r' : Except FileErrorCause Place}
      (hbefore : r = t.walkLinks true D (d :: rest) left ∨
        r = (t.walkLinks true D (d :: rest) left).bind Place.asDirectory) (hmissing : Missing r') :
      LinksCleared D gone t limit r r'

theorem bind_asDirectory_twice (r : Except FileErrorCause Place) :
    (r.bind Place.asDirectory).bind Place.asDirectory = r.bind Place.asDirectory := by
  cases r with
  | error cause => rfl
  | ok place =>
    by_cases h : place.IsDirectory
    · rw [Except.bind, place.asDirectory_of_isDirectory h, Except.bind,
        place.asDirectory_of_isDirectory h]
    · rw [Except.bind, place.asDirectory_of_not h, Except.bind]

theorem eq_of_bind_asDirectory {r : Except FileErrorCause Place} {place : Place}
    (h : r.bind Place.asDirectory = .ok place) : r = .ok place := by
  cases r with
  | error cause => cases h
  | ok there =>
    by_cases hthere : there.IsDirectory
    · exact (there.asDirectory_of_isDirectory hthere).symm.trans h
    · cases (there.asDirectory_of_not hthere).symm.trans h

theorem LinksCleared.throughLink {limit : Nat} {r r' : Except FileErrorCause Place}
    (h : LinksCleared D gone t limit r r') (target : String) (rest : List String) :
    LinksCleared D gone t limit (throughLink target rest r) (throughLink target rest r') := by
  cases h with
  | same => exact .same _
  | directory a b =>
    have hthere (c : Double) : (Place.node D (.directory c)).IsDirectory := trivial
    rw [throughLink_directory (hthere a), throughLink_directory (hthere b)]
    exact .directory a b
  | gone hgone hup more hle hbefore hmissing =>
    refine .gone hgone hup more hle ?_ (missing_throughLink hmissing target rest)
    unfold FileTree.throughLink
    split
    · rcases hbefore with rfl | rfl
      · exact Or.inr rfl
      · exact Or.inr (bind_asDirectory_twice _)
    · exact hbefore

/-- **Where a path leads after entries were taken away.** -/
theorem Cleared.walkLinks (h : Cleared D gone t t') (hroot : t.Rooted) {budget limit : Nat}
    (hle : budget ≤ limit) {dir : NodeName} (hdir : t.Listed dir) (cs : List String) :
    LinksCleared D gone t limit (t.walkLinks true dir cs budget)
      (t'.walkLinks true dir cs budget) := by
  induction budget using Nat.strongRecOn generalizing dir cs with
  | _ budget ih =>
    have hwalk := h.walkCleared hroot cs hdir
    have hstop := walk_append true (List.cons_ne_nil ".." []) cs hdir
    generalize hbefore : t.walk true dir cs = w at hwalk hstop
    generalize hafter : t'.walk true dir cs = w' at hwalk
    cases hwalk with
    | directory a b =>
      rw [walkLinks_eq_ok.mpr (Or.inl hbefore), walkLinks_eq_ok.mpr (Or.inl hafter)]
      exact .directory a b
    | gone hgone hup rest hw hw' =>
      refine .gone hgone hup rest hle (Or.inl (walkLinks_congr (hbefore.trans hw) budget)) ?_
      rw [hw'] at hafter
      by_cases hend : rest = []
      · rw [if_pos hend] at hafter
        rw [walkLinks_eq_ok.mpr (Or.inl hafter)]
        trivial
      · rw [if_neg hend] at hafter
        rw [walkLinks_of_failed hafter]
        trivial
    | same =>
      cases w with
      | arrived place =>
        rw [walkLinks_eq_ok.mpr (Or.inl hbefore), walkLinks_eq_ok.mpr (Or.inl hafter)]
        exact .same _
      | failed cause =>
        rw [walkLinks_of_failed hbefore, walkLinks_of_failed hafter]
        exact .same _
      | atLink stop target rest =>
        -- both go on from the same link
        cases budget with
        | zero =>
          rw [FileTree.walkLinks, FileTree.walkLinks, hbefore, hafter]
          exact .same _
        | succ left =>
          rw [FileTree.walkLinks, FileTree.walkLinks, hbefore, hafter]
          exact (ih left (Nat.lt_succ_self left) (Nat.le_of_succ_le hle) (hstop.1.start target)
            _).throughLink target rest

/-! ## Stale entries -/

/-- Where a path leads after stale entries of a directory were taken away: where it led, to that
directory with another time, or nowhere.  In the last case it led to a stale file, or ran into
something that is no directory, or into too many links. -/
inductive Outlived (D : NodeName) (Stale : Double → Prop) :
    Except FileErrorCause Place → Except FileErrorCause Place → Prop where
  | same (r : Except FileErrorCause Place) : Outlived D Stale r r
  | directory (a b : Double) :
      Outlived D Stale (.ok (.node D (.directory a))) (.ok (.node D (.directory b)))
  | stale {name : NodeName} {content : List UInt8} {time : Double}
      {r' : Except FileErrorCause Place} (hstale : Stale time) (hmissing : Missing r') :
      Outlived D Stale (.ok (.node name (.file content time))) r'
  | inVain {cause : FileErrorCause} {r' : Except FileErrorCause Place}
      (hcause : cause = .notDirectory ∨ cause = .linkLoop) (hmissing : Missing r') :
      Outlived D Stale (.error cause) r'

variable {Stale : Double → Prop}

/-- Whether an entry of a directory is, or leads to, a stale file. -/
def LeadsToStale (t : FileTree) (D : NodeName) (Stale : Double → Prop) (c : String) : Prop :=
  ∃ name content time,
    t.walkLinks true D [c] maxLinks = .ok (.node name (.file content time)) ∧ Stale time

/-- A path that comes to an entry that is gone led to a stale file, or nowhere. -/
theorem walkLinks_of_leadsToStale (hroot : t.Rooted) (hD : t.Listed D) {d : String}
    (hstale : t.LeadsToStale D Stale d) (rest : List String) {budget : Nat}
    (hle : budget ≤ maxLinks) :
    (∃ name content time,
      t.walkLinks true D (d :: rest) budget = .ok (.node name (.file content time)) ∧ Stale time) ∨
    ∃ cause, (cause = .notDirectory ∨ cause = .linkLoop) ∧
      t.walkLinks true D (d :: rest) budget = .error cause := by
  obtain ⟨name, content, time, hwalk, htime⟩ := hstale
  by_cases hend : rest = []
  · subst hend
    rcases walkLinks_of_le hle hwalk with hsame | hloop
    · exact Or.inl ⟨name, content, time, hsame, htime⟩
    · exact Or.inr ⟨_, Or.inr rfl, hloop⟩
  · rcases walkLinks_beyond true hend hle hD id hwalk hroot with hfailed | hloop
    · exact Or.inr ⟨_, Or.inl rfl, hfailed⟩
    · exact Or.inr ⟨_, Or.inr rfl, hloop⟩

theorem outlived_of_gone (hroot : t.Rooted) (hD : t.Listed D) {d : String}
    (hstale : t.LeadsToStale D Stale d) {rest : List String} {budget : Nat}
    (hle : budget ≤ maxLinks) {r r' : Except FileErrorCause Place}
    (hbefore : r = t.walkLinks true D (d :: rest) budget ∨
      r = (t.walkLinks true D (d :: rest) budget).bind Place.asDirectory) (hmissing : Missing r') :
    Outlived D Stale r r' := by
  rcases walkLinks_of_leadsToStale hroot hD hstale rest hle with
    ⟨name, content, time, hwalk, htime⟩ | ⟨cause, hcause, hwalk⟩
  · rw [hwalk] at hbefore
    rcases hbefore with rfl | rfl
    · exact .stale htime hmissing
    · exact .inVain (Or.inl rfl) hmissing
  · rw [hwalk] at hbefore
    obtain rfl : r = .error cause := hbefore.elim id id
    exact .inVain hcause hmissing

/-- **Where a path leads after stale entries were taken away.** -/
theorem Cleared.outlived (h : Cleared D gone t t') (hroot : t.Rooted) (hD : t.Listed D)
    (hstale : ∀ d, gone d → t.LeadsToStale D Stale d) {budget : Nat} (hle : budget ≤ maxLinks)
    {dir : NodeName} (hdir : t.Listed dir) (cs : List String) :
    Outlived D Stale (t.walkLinks true dir cs budget) (t'.walkLinks true dir cs budget) := by
  have hcleared := h.walkLinks hroot hle hdir cs
  generalize t.walkLinks true dir cs budget = r at hcleared ⊢
  generalize t'.walkLinks true dir cs budget = r' at hcleared ⊢
  cases hcleared with
  | same => exact .same _
  | directory a b => exact .directory a b
  | gone hgone hup rest hle hbefore hmissing =>
    exact outlived_of_gone hroot hD (hstale _ hgone) hle hbefore hmissing

/-! ## Paths to that directory -/

/-- A path that leads to nothing is not there. -/
theorem stat_of_missing {p : Path} (hnull : p.hasNull = false)
    (hshort : p.text.utf8ByteSize ≤ maxPath)
    (h : Missing (t.walkLinks true [] p.parts maxLinks)) :
    t.stat p = .error (failure .noEntry p) := by
  cases hwalk : t.walkLinks true [] p.parts maxLinks with
  | error cause =>
    rw [hwalk] at h
    cases cause with
    | noEntry =>
      rw [stat, locate_of_walkLinks_error hnull hshort hwalk]
      rfl
    | _ => exact h.elim
  | ok place =>
    rw [hwalk] at h
    cases place with
    | free directory last =>
      rw [stat, locate_eq_ok.mpr ⟨hnull, hshort, hwalk⟩]
      rfl
    | _ => exact h.elim

theorem isDirectory_of_missing {p : Path} (hnull : p.hasNull = false)
    (hshort : p.text.utf8ByteSize ≤ maxPath)
    (h : Missing (t.walkLinks true [] p.parts maxLinks)) : t.isDirectory p = .ok false := by
  rw [isDirectory, stat_of_missing hnull hshort h]
  rfl

/-- Nothing stands below a path that leads to nothing. -/
theorem locate_child_of_missing (hroot : t.Rooted) {p : Path}
    (h : Missing (t.walkLinks true [] p.parts maxLinks))
    (followLast : Bool) (c : String) (place : Place) :
    t.locate followLast (p.child c) ≠ .ok place := by
  intro hloc
  obtain ⟨E, _, habove, _⟩ :=
    walkLinks_append hroot (List.cons_ne_nil c []) listed_root (locate_eq_ok.mp hloc).2.2
  rw [habove] at h
  unfold FileTree.directoryPlace at h
  split at h
  · exact h
  · exact h

theorem not_missing_of_leadsTo {p : Path} (h : t.LeadsTo p D) :
    ¬ Missing (t.walkLinks true [] p.parts maxLinks) := by
  obtain ⟨place, hloc, hplace⟩ := h
  rw [(locate_eq_ok.mp hloc).2.2]
  cases place with
  | free directory last => exact hplace.elim
  | _ => exact id

/-- An entry, no directory itself, through which a path leads to a directory is a link. -/
theorem link_of_walkLinks {d : String} (hup : d ≠ "..")
    (hfile : ∀ a, t.node? (D ++ [d]) ≠ some (.directory a)) {rest : List String} {left : Nat}
    {place : Place} (h : t.walkLinks true D (d :: rest) left = .ok place)
    (hplace : place.IsDirectory) : ∃ target, t.node? (D ++ [d]) = some (.link target) := by
  have hwalks := t.walks true D (d :: rest)
  rcases walkLinks_eq_ok.mp h with harrived | ⟨_, stop, target, more, _, hlink, _⟩
  · rw [harrived] at hwalks
    cases hwalks with
    | up _ => exact absurd rfl hup
    | free _ _ _ => exact hplace.elim
    | file _ _ _ => exact hplace.elim
    | lastLink _ _ _ hlast => exact absurd rfl hlast
    | directory _ _ hnode _ => exact absurd hnode (hfile _)
  · rw [hlink] at hwalks
    cases hwalks with
    | up _ => exact absurd rfl hup
    | directory _ _ hnode _ => exact absurd hnode (hfile _)
    | link _ _ hnode _ => exact ⟨target, hnode⟩

/-- **A path to a directory leads there still after entries were taken away from it, or nowhere.**
In the last case a link through which it led is gone. -/
theorem Cleared.leadsTo_or_missing (h : Cleared D gone t t') (hroot : t.Rooted) {p : Path}
    (hdir : t.LeadsTo p D) :
    t'.LeadsTo p D ∨ Missing (t'.walkLinks true [] p.parts maxLinks) ∧
      ∃ d target, gone d ∧ t.node? (D ++ [d]) = some (.link target) := by
  obtain ⟨place, hloc, hplace⟩ := hdir
  obtain ⟨hnull, hshort, hwalk⟩ := locate_eq_ok.mp hloc
  have hcleared := h.walkLinks hroot (Nat.le_refl maxLinks) listed_root p.parts
  rw [hwalk] at hcleared
  generalize hafter : t'.walkLinks true [] p.parts maxLinks = r' at hcleared
  generalize hbefore : (Except.ok place : Except FileErrorCause Place) = r at hcleared
  cases hcleared with
  | same =>
    subst hbefore
    exact Or.inl ⟨place, locate_eq_ok.mpr ⟨hnull, hshort, hafter⟩, hplace⟩
  | directory a b => exact Or.inl ⟨_, locate_eq_ok.mpr ⟨hnull, hshort, hafter⟩, rfl⟩
  | @gone d hgone hup rest left _ _ _ hbroken hmissing =>
    have hthere : t.walkLinks true D (d :: rest) left = .ok place := by
      rw [← hbefore] at hbroken
      exact hbroken.elim Eq.symm fun h => eq_of_bind_asDirectory h.symm
    obtain ⟨target, hnode⟩ := link_of_walkLinks hup (h.noDirectory hgone) hthere hplace.isDirectory
    exact Or.inr ⟨hmissing, _, target, hgone, hnode⟩

end FileTree

end Baseline
