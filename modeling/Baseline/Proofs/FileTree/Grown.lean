import Baseline.Proofs.FileTree

/-!
# Making directories

* `FileTree.Grown` : what stood in a tree still stands, but for the times of directories.
* `FileTree.Grown.locate` : a path that led to a directory, or to where one stands now, leads there.
* `FileTree.MadeOnTheWay` : what is new are directories to which a path and those above it lead.
* `FileTree.makeDirectories_onTheWay` : **making a directory and the ancestors that it lacks does
  nothing else**, whether it succeeds or not.
* `FileTree.makeDirectories_fault`, `FileTree.isDirectory_of_makeDirectories` : it is refused by the
  file system, or the directory is there.
-/

set_option autoImplicit false

namespace Baseline

namespace FileTree

variable {t t' t'' : FileTree} {p : Path}

/-! ## Growth -/

/-- A tree in which every node of another stands as it did, except that a directory may have
another time. -/
structure Grown (t t' : FileTree) : Prop where
  kept : ∀ {name : NodeName} {n : FileNode}, t.node? name = some n →
    t'.node? name = some n ∨ ∃ a b, n = .directory a ∧ t'.node? name = some (.directory b)

theorem Grown.refl (t : FileTree) : Grown t t := ⟨fun h => Or.inl h⟩

theorem Grown.directory (h : Grown t t') {name : NodeName} {a : Double}
    (hnode : t.node? name = some (.directory a)) : ∃ b, t'.node? name = some (.directory b) := by
  rcases h.kept hnode with hsame | ⟨_, b, _, hb⟩
  · exact ⟨a, hsame⟩
  · exact ⟨b, hb⟩

theorem Grown.file (h : Grown t t') {name : NodeName} {content : List UInt8} {time : Double}
    (hnode : t.node? name = some (.file content time)) :
    t'.node? name = some (.file content time) := by
  rcases h.kept hnode with hsame | ⟨_, _, hdir, _⟩
  · exact hsame
  · cases hdir

theorem Grown.link (h : Grown t t') {name : NodeName} {target : String}
    (hnode : t.node? name = some (.link target)) : t'.node? name = some (.link target) := by
  rcases h.kept hnode with hsame | ⟨_, _, hdir, _⟩
  · exact hsame
  · cases hdir

theorem Grown.trans (h : Grown t t') (h' : Grown t' t'') : Grown t t'' where
  kept := by
    intro name n hnode
    rcases h.kept hnode with hsame | ⟨a, b, rfl, hb⟩
    · exact h'.kept hsame
    · obtain ⟨c, hc⟩ := h'.directory hb
      exact Or.inr ⟨a, c, rfl, hc⟩

/-- Whether a place is the directory at a name, or that name when it is free. -/
def Place.IsDirectoryAt (name : NodeName) : Place → Prop
  | .node other (.directory _) => other = name
  | .free directory last => directory ++ [last] = name
  | _ => False

/-- A walk to a directory, or to a free name where a directory stands by now, leads there still, and
a walk that stops at a link stops there still. -/
theorem Grown.walk (h : Grown t t') {name : NodeName} {b : Double}
    (hthere : t'.node? name = some (.directory b)) (followLast : Bool) (cs : List String)
    (dir : NodeName) :
    match t.walk followLast dir cs with
    | .arrived place =>
      place.IsDirectoryAt name → t'.walk followLast dir cs = .arrived (.node name (.directory b))
    | .failed _ => True
    | .atLink stop target rest => t'.walk followLast dir cs = .atLink stop target rest := by
  have hwalks := t.walks followLast dir cs
  generalize t.walk followLast dir cs = w at hwalks ⊢
  induction hwalks with
  | here dir =>
    intro hplace
    unfold directoryPlace at hplace
    split at hplace
    · rename_i n _
      cases n with
      | file content time => cases hplace
      | link target => cases hplace
      | directory a =>
        cases hplace
        simp only [FileTree.walk, directoryPlace, hthere]
    · cases hplace
  | up _ ih => exact ih
  | failed dir cs cause => trivial
  | @free dir c hup hshort hnode =>
    intro hplace
    have hname : dir ++ [c] = name := hplace
    rw [walk_directory hup hshort (hname ▸ hthere), hname]
    simp only [FileTree.walk, directoryPlace, hthere]
  | file hup hshort hnode =>
    intro hplace
    cases hplace
  | directory hup hshort hnode _ ih =>
    obtain ⟨a', ha'⟩ := h.directory hnode
    rw [walk_directory hup hshort ha']
    exact ih
  | lastLink hup hshort hnode hlast =>
    intro hplace
    cases hplace
  | link hup hshort hnode hgoes => exact walk_link hup hshort (h.link hnode) hgoes

theorem Grown.walkLinks (h : Grown t t') {name : NodeName} {b : Double}
    (hthere : t'.node? name = some (.directory b)) {followLast : Bool} {place : Place}
    (hplace : place.IsDirectoryAt name) {budget : Nat} {dir : NodeName} {cs : List String}
    (hwalk : t.walkLinks followLast dir cs budget = .ok place) :
    t'.walkLinks followLast dir cs budget = .ok (.node name (.directory b)) := by
  induction budget using Nat.strongRecOn generalizing dir cs with
  | _ budget ih =>
    have hgrown := h.walk hthere followLast cs dir
    rw [walkLinks_eq_ok] at hwalk ⊢
    rcases hwalk with harrived | ⟨left, stop, target, rest, rfl, hlink, hrest⟩
    · rw [harrived] at hgrown
      exact Or.inl (hgrown hplace)
    · rw [hlink] at hgrown
      exact Or.inr ⟨left, stop, target, rest, rfl, hgrown, ih left (Nat.lt_succ_self left) hrest.1,
        fun _ _ => trivial⟩

/-- **A path to a directory, or to a free name where a directory stands by now, leads there.** -/
theorem Grown.locate (h : Grown t t') {name : NodeName} {b : Double}
    (hthere : t'.node? name = some (.directory b)) {followLast : Bool} {place : Place}
    (hplace : place.IsDirectoryAt name) (hloc : t.locate followLast p = .ok place) :
    t'.locate followLast p = .ok (.node name (.directory b)) := by
  rw [locate_eq_ok] at hloc ⊢
  exact ⟨hloc.1, hloc.2.1, h.walkLinks hthere hplace hloc.2.2⟩

/-! ## Links at the end -/

/-- A walk that does not end at a link is the same when links at the end are followed. -/
theorem walk_followLast (t : FileTree) (dir : NodeName) (cs : List String) :
    match t.walk false dir cs with
    | .arrived place => (∃ name target, place = .node name (.link target)) ∨
        t.walk true dir cs = .arrived place
    | .failed _ => True
    | .atLink stop target rest => t.walk true dir cs = .atLink stop target rest := by
  have hwalks := t.walks false dir cs
  generalize t.walk false dir cs = w at hwalks ⊢
  induction hwalks with
  | here dir => exact Or.inr rfl
  | up _ ih => exact ih
  | failed dir cs cause => trivial
  | free hup hshort hnode => exact Or.inr (walk_free hup hshort hnode)
  | file hup hshort hnode => exact Or.inr (walk_file hup hshort hnode)
  | directory hup hshort hnode _ ih =>
    rw [walk_directory hup hshort hnode]
    exact ih
  | @lastLink dir c target hup hshort hnode hlast => exact Or.inl ⟨dir ++ [c], target, rfl⟩
  | link hup hshort hnode hgoes =>
    exact walk_link hup hshort hnode fun h => h.2 rfl

theorem walkLinks_followLast {budget : Nat} {dir : NodeName} {cs : List String} {name : NodeName}
    {time : Double} (h : t.walkLinks false dir cs budget = .ok (.node name (.directory time))) :
    t.walkLinks true dir cs budget = .ok (.node name (.directory time)) := by
  induction budget using Nat.strongRecOn generalizing dir cs with
  | _ budget ih =>
    have hfollow := t.walk_followLast dir cs
    rw [walkLinks_eq_ok] at h ⊢
    rcases h with harrived | ⟨left, stop, target, rest, rfl, hlink, hrest⟩
    · rw [harrived] at hfollow
      rcases hfollow with ⟨_, _, hno⟩ | hsame
      · cases hno
      · exact Or.inl hsame
    · rw [hlink] at hfollow
      exact Or.inr ⟨left, stop, target, rest, rfl, hfollow, ih left (Nat.lt_succ_self left) hrest.1,
        hrest.2⟩

/-- A path that leads to a directory without following a link at its end leads there anyway. -/
theorem locate_followLast {name : NodeName} {time : Double}
    (h : t.locate false p = .ok (.node name (.directory time))) :
    t.locate true p = .ok (.node name (.directory time)) := by
  rw [locate_eq_ok] at h ⊢
  exact ⟨h.1, h.2.1, walkLinks_followLast h.2.2⟩

/-! ## One directory -/

theorem node?_touch (dir other : NodeName) (time : Double) :
    (t.touch dir time).node? other = t.node? other ∨
      ∃ a, t.node? other = some (.directory a) ∧
        (t.touch dir time).node? other = some (.directory time) := by
  unfold touch
  split
  · rename_i a hdir
    rw [node?_put]
    by_cases ho : other = dir
    · rw [if_pos ho, ho]
      exact Or.inr ⟨a, hdir, rfl⟩
    · rw [if_neg ho]
      exact Or.inl rfl
  · exact Or.inl rfl

theorem makeDirectory_eq_ok {time : Double} :
    t.makeDirectory time p = .ok t' ↔
      ∃ dir last, t.locate false p = .ok (.free dir last) ∧
        t' = t.add dir last (.directory time) time := by
  unfold makeDirectory
  cases t.locate false p with
  | error f => exact iff_of_false (fun h => by cases h) fun ⟨_, _, h, _⟩ => by cases h
  | ok place =>
    cases place with
    | root => exact iff_of_false (fun h => by cases h) fun ⟨_, _, h, _⟩ => by cases h
    | node name n => exact iff_of_false (fun h => by cases h) fun ⟨_, _, h, _⟩ => by cases h
    | free dir last =>
      constructor
      · intro h
        cases h
        exact ⟨dir, last, rfl, rfl⟩
      · rintro ⟨_, _, ⟨⟩, rfl⟩
        rfl

/-- What one new directory changes. -/
theorem node?_add_directory (time : Double) {dir : NodeName} {last : String}
    (hfree : t.node? (dir ++ [last]) = none) :
    Grown t (t.add dir last (.directory time) time) ∧
      (t.add dir last (.directory time) time).node? (dir ++ [last]) = some (.directory time) ∧
      ∀ name, t.node? name = none → name ≠ dir ++ [last] →
        (t.add dir last (.directory time) time).node? name = none := by
  have hadd : ∀ name, (t.put (dir ++ [last]) (.directory time)).node? name =
      if name = dir ++ [last] then some (.directory time) else t.node? name := node?_put
  unfold add
  refine ⟨⟨?_⟩, ?_, ?_⟩
  · intro name n hnode
    have hne : name ≠ dir ++ [last] := by
      rintro rfl
      rw [hfree] at hnode
      cases hnode
    have hput := hadd name
    rw [if_neg hne, hnode] at hput
    rcases node?_touch dir name time with hsame | ⟨a, ha, htouched⟩
    · exact Or.inl (hsame.trans hput)
    · rw [hput] at ha
      cases ha
      exact Or.inr ⟨a, time, rfl, htouched⟩
  · have hput := hadd (dir ++ [last])
    rw [if_pos rfl] at hput
    rcases node?_touch dir (dir ++ [last]) time with hsame | ⟨a, _, htouched⟩
    · exact hsame.trans hput
    · exact htouched
  · intro name hnone hne
    have hput := hadd name
    rw [if_neg hne, hnone] at hput
    rcases node?_touch dir name time with hsame | ⟨a, ha, _⟩
    · exact hsame.trans hput
    · rw [hput] at ha
      cases ha

/-! ## Directories on the way to a path -/

/-- A tree that has grown by directories on the way to a path: to each of them that path, or one
above it, leads. -/
structure MadeOnTheWay (p : Path) (t t' : FileTree) : Prop extends Grown t t' where
  made : ∀ {name : NodeName} {n : FileNode}, t.node? name = none → t'.node? name = some n →
    ∃ init time, init <+: p.parts ∧ n = .directory time ∧
      t'.locate false ⟨p.root, init⟩ = .ok (.node name (.directory time))

theorem MadeOnTheWay.refl (p : Path) (t : FileTree) : MadeOnTheWay p t t where
  toGrown := .refl t
  made := by
    intro name n hnone hsome
    rw [hnone] at hsome
    cases hsome

theorem MadeOnTheWay.trans (h : MadeOnTheWay p t t') (h' : MadeOnTheWay p t' t'') :
    MadeOnTheWay p t t'' where
  toGrown := h.toGrown.trans h'.toGrown
  made := by
    intro name n hnone hsome
    cases hmid : t'.node? name with
    | none => exact h'.made hmid hsome
    | some m =>
      obtain ⟨init, a, hinit, rfl, hloc⟩ := h.made hnone hmid
      obtain ⟨b, hb⟩ := h'.directory hmid
      rw [hb] at hsome
      cases hsome
      have hplace : (Place.node name (.directory a)).IsDirectoryAt name := rfl
      exact ⟨init, b, hinit, rfl, h'.toGrown.locate hb hplace hloc⟩

/-- What was made on the way to a path was made on the way to any path below. -/
theorem MadeOnTheWay.extend {start : PathRoot} {init parts : List String} (hinit : init <+: parts)
    (h : MadeOnTheWay ⟨start, init⟩ t t') : MadeOnTheWay ⟨start, parts⟩ t t' where
  toGrown := h.toGrown
  made := by
    intro name n hnone hsome
    obtain ⟨upper, time, hupper, hn, hloc⟩ := h.made hnone hsome
    exact ⟨upper, time, hupper.trans hinit, hn, hloc⟩

/-- **A directory that was made is where its path leads, and nothing else is new.** -/
theorem makeDirectory_onTheWay {time : Double} (h : t.makeDirectory time p = .ok t') :
    MadeOnTheWay p t t' ∧ ∃ name, t'.locate false p = .ok (.node name (.directory time)) := by
  obtain ⟨dir, last, hloc, rfl⟩ := makeDirectory_eq_ok.mp h
  have hfree : t.node? (dir ++ [last]) = none := stands_of_locate hloc
  obtain ⟨hgrown, hthere, hothers⟩ := node?_add_directory time hfree
  have hplace : (Place.free dir last).IsDirectoryAt (dir ++ [last]) := rfl
  have hleads : (t.add dir last (.directory time) time).locate false p =
      .ok (.node (dir ++ [last]) (.directory time)) :=
    hgrown.locate hthere hplace hloc
  refine ⟨⟨hgrown, ?_⟩, dir ++ [last], hleads⟩
  intro name n hnone hsome
  by_cases hname : name = dir ++ [last]
  · subst hname
    rw [hthere] at hsome
    cases hsome
    exact ⟨p.parts, time, List.prefix_rfl, rfl, hleads⟩
  · rw [hothers name hnone hname] at hsome
    cases hsome

/-! ## Refusals -/

/-- A path without a null character is refused by the file system alone. -/
theorem locate_fault (hnull : p.hasNull = false) {followLast : Bool} {f : Fault}
    (h : t.locate followLast p = .error f) : ∃ e, f = .file e := by
  unfold locate at h
  rw [hnull, if_neg Bool.false_ne_true] at h
  split at h
  · cases h
    exact ⟨_, rfl⟩
  · split at h
    · cases h
    · cases h
      exact ⟨_, rfl⟩

/-- So is whatever is done where such a path leads, if the file system alone refuses it there. -/
theorem fault_of_locate {α : Type} (hnull : p.hasNull = false) {followLast : Bool}
    {k : Place → Except Fault α} (hk : ∀ place f, k place = .error f → ∃ e, f = .file e)
    {f : Fault} (h : t.locate followLast p >>= k = .error f) : ∃ e, f = .file e := by
  cases hloc : t.locate followLast p with
  | error g =>
    rw [hloc] at h
    cases h
    exact locate_fault hnull hloc
  | ok place =>
    rw [hloc] at h
    exact hk place f h

theorem stat_fault (hnull : p.hasNull = false) {f : Fault} (h : t.stat p = .error f) :
    ∃ e, f = .file e := by
  refine fault_of_locate hnull (fun place g hg => ?_) h
  split at hg <;> cases hg <;> exact ⟨_, rfl⟩

theorem read_fault (hnull : p.hasNull = false) {f : Fault} (h : t.read p = .error f) :
    ∃ e, f = .file e := by
  refine fault_of_locate hnull (fun place g hg => ?_) h
  split at hg <;> cases hg <;> exact ⟨_, rfl⟩

theorem makeDirectory_fault (hnull : p.hasNull = false) {time : Double} {f : Fault}
    (h : t.makeDirectory time p = .error f) : ∃ e, f = .file e := by
  refine fault_of_locate hnull (fun place g hg => ?_) h
  split at hg <;> cases hg
  exact ⟨_, rfl⟩

theorem isDirectory_fault (hnull : p.hasNull = false) {f : Fault}
    (h : t.isDirectory p = .error f) : ∃ e, f = .file e := by
  unfold isDirectory absenceIsFalse at h
  cases hstat : t.stat p with
  | ok found =>
    rw [hstat] at h
    cases h
  | error g =>
    obtain ⟨e, rfl⟩ := stat_fault hnull hstat
    rw [hstat, Except.map] at h
    dsimp only at h
    split at h
    · cases h
    · cases h
      exact ⟨e, rfl⟩

theorem acceptDirectory_fault (hnull : p.hasNull = false) {e : FileError} {f : Fault}
    (h : t.acceptDirectory p (.file e) = .error f) : ∃ e, f = .file e := by
  unfold acceptDirectory at h
  dsimp only at h
  split at h
  · cases h
  · cases h
    exact ⟨e, rfl⟩
  · rename_i g hdir
    cases h
    exact isDirectory_fault hnull hdir

theorem isDirectory_of_acceptDirectory {f : Fault} (h : t.acceptDirectory p f = .ok ()) :
    t.isDirectory p = .ok true := by
  unfold acceptDirectory at h
  split at h
  · split at h
    · rename_i hdir
      exact hdir
    · cases h
    · cases h
  · cases h

/-! ## A directory and its ancestors -/

/-- The outcome of one attempt at a directory: it is made, or the refusal counts, or it counts only
if there is no directory. -/
inductive Attempt (time : Double) (p : Path) (t : FileTree) :
    Except Fault Unit × FileTree → Prop where
  | made {t' : FileTree} (h : t.makeDirectory time p = .ok t') : Attempt time p t (.ok (), t')
  | refused {f : Fault} (h : t.makeDirectory time p = .error f) : Attempt time p t (.error f, t)
  | judged {f : Fault} (h : t.makeDirectory time p = .error f) :
    Attempt time p t (t.acceptDirectory p f, t)

theorem Attempt.onTheWay {time : Double} {r : Except Fault Unit × FileTree}
    (h : Attempt time p t r) : MadeOnTheWay p t r.2 := by
  cases h with
  | made h => exact (makeDirectory_onTheWay h).1
  | refused h => exact .refl p t
  | judged h => exact .refl p t

theorem Attempt.fault {time : Double} {r : Except Fault Unit × FileTree} (h : Attempt time p t r)
    (hnull : p.hasNull = false) {f : Fault} (hr : r.1 = .error f) : ∃ e, f = .file e := by
  cases h with
  | made h => cases hr
  | refused h =>
    cases hr
    exact makeDirectory_fault hnull h
  | judged h =>
    obtain ⟨e, rfl⟩ := makeDirectory_fault hnull h
    exact acceptDirectory_fault hnull hr

theorem Attempt.isDirectory {time : Double} {r : Except Fault Unit × FileTree}
    (h : Attempt time p t r) (hr : r.1 = .ok ()) : r.2.isDirectory p = .ok true := by
  cases h with
  | made h =>
    obtain ⟨-, name, hloc⟩ := makeDirectory_onTheWay h
    exact isDirectory_of_locate (locate_followLast hloc) trivial
  | refused h => cases hr
  | judged h => exact isDirectory_of_acceptDirectory hr

/-- **What is done for a directory**: one attempt, or the directories above it and, when they are
there, another attempt. -/
theorem makeDirectoriesAt_cons (time : Double) (start : PathRoot) (last : String)
    (before : List String) (t : FileTree) :
    Attempt time ⟨start, (last :: before).reverse⟩ t
        (makeDirectoriesAt time start (last :: before) t) ∨
      (∃ g, (makeDirectoriesAt time start before t).1 = .error g ∧
        makeDirectoriesAt time start (last :: before) t = makeDirectoriesAt time start before t) ∨
      (makeDirectoriesAt time start before t).1 = .ok () ∧
        Attempt time ⟨start, (last :: before).reverse⟩ (makeDirectoriesAt time start before t).2
          (makeDirectoriesAt time start (last :: before) t) := by
  rw [makeDirectoriesAt]
  split
  · rename_i hmake
    exact Or.inl (.made hmake)
  rename_i hmake
  split
  · split
    · rename_i g t' habove
      exact Or.inr (Or.inl ⟨g, by rw [habove], habove.symm⟩)
    · rename_i t' habove
      refine Or.inr (Or.inr ⟨by rw [habove], ?_⟩)
      rw [habove]
      split
      · rename_i hagain
        exact .made hagain
      · rename_i hagain
        split
        · exact .refused hagain
        · exact .judged hagain
  · exact Or.inl (.judged hmake)

theorem makeDirectoriesAt_nil (time : Double) (start : PathRoot) (t : FileTree) :
    Attempt time ⟨start, []⟩ t (makeDirectoriesAt time start [] t) := by
  rw [makeDirectoriesAt]
  split
  · rename_i hmake
    exact .made hmake
  · rename_i hmake
    exact .judged hmake

theorem prefix_reverse_cons (last : String) (before : List String) :
    before.reverse <+: (last :: before).reverse := by
  rw [List.reverse_cons]
  exact List.prefix_append _ _

/-- **Making a directory and the ancestors that it lacks does nothing else**, whether it succeeds or
not. -/
theorem makeDirectories_onTheWay (t : FileTree) (time : Double) (p : Path) :
    MadeOnTheWay p t (t.makeDirectories time p).2 := by
  have hat : ∀ reversed, MadeOnTheWay ⟨p.root, reversed.reverse⟩ t
      (makeDirectoriesAt time p.root reversed t).2 := by
    intro reversed
    induction reversed with
    | nil => exact (makeDirectoriesAt_nil time p.root t).onTheWay
    | cons last before ih =>
      have habove := ih.extend (prefix_reverse_cons last before)
      rcases makeDirectoriesAt_cons time p.root last before t with h | ⟨_, _, h⟩ | ⟨_, h⟩
      · exact h.onTheWay
      · rw [h]
        exact habove
      · exact habove.trans h.onTheWay
  have hall := hat p.parts.reverse
  rwa [List.reverse_reverse] at hall

/-- What every directory that is made keeps, making a directory and its ancestors keeps. -/
theorem makeDirectories_induction {P : FileTree → Prop} {time : Double}
    (hmake : ∀ {t t' : FileTree} {p : Path}, P t → t.makeDirectory time p = .ok t' → P t')
    (ht : P t) (p : Path) : P (t.makeDirectories time p).2 := by
  have hattempt : ∀ {t : FileTree} {p : Path} {r : Except Fault Unit × FileTree},
      P t → Attempt time p t r → P r.2 := by
    intro t p r ht h
    cases h with
    | made h => exact hmake ht h
    | refused h => exact ht
    | judged h => exact ht
  have hat : ∀ reversed, P (makeDirectoriesAt time p.root reversed t).2 := by
    intro reversed
    induction reversed with
    | nil => exact hattempt ht (makeDirectoriesAt_nil time p.root t)
    | cons last before ih =>
      rcases makeDirectoriesAt_cons time p.root last before t with h | ⟨_, _, h⟩ | ⟨_, h⟩
      · exact hattempt ht h
      · rwa [h]
      · exact hattempt ih h
  exact hat p.parts.reverse

theorem rooted_makeDirectories (hroot : t.Rooted) (time : Double) (p : Path) :
    (t.makeDirectories time p).2.Rooted := by
  refine makeDirectories_induction ?_ hroot p
  intro t t' p hroot hmake
  obtain ⟨dir, last, hloc, rfl⟩ := makeDirectory_eq_ok.mp hmake
  have hfree : t.node? (dir ++ [last]) = none := stands_of_locate hloc
  exact (node?_add_directory time hfree).2.2 [] hroot (by simp)

/-- **The directory of a path without a null character is refused by the file system alone.** -/
theorem makeDirectories_fault (hnull : p.hasNull = false) {time : Double} {f : Fault}
    (h : (t.makeDirectories time p).1 = .error f) : ∃ e, f = .file e := by
  have hat : ∀ reversed : List String, Path.hasNull ⟨p.root, reversed.reverse⟩ = false →
      ∀ f, (makeDirectoriesAt time p.root reversed t).1 = .error f → ∃ e, f = .file e := by
    intro reversed
    induction reversed with
    | nil => exact fun hnull f h => (makeDirectoriesAt_nil time p.root t).fault hnull h
    | cons last before ih =>
      intro hnull f h
      rcases makeDirectoriesAt_cons time p.root last before t with hr | ⟨g, hg, hr⟩ | ⟨_, hr⟩
      · exact hr.fault hnull h
      · rw [hr] at h
        refine ih ?_ f h
        rw [Path.hasNull, List.any_eq_false] at hnull ⊢
        exact fun c hc => hnull c ((prefix_reverse_cons last before).subset hc)
      · exact hr.fault hnull h
  refine hat p.parts.reverse ?_ f h
  rwa [List.reverse_reverse]

/-- **A directory that was made is there.** -/
theorem isDirectory_of_makeDirectories {time : Double}
    (h : (t.makeDirectories time p).1 = .ok ()) :
    (t.makeDirectories time p).2.isDirectory p = .ok true := by
  have hat : ∀ reversed, (makeDirectoriesAt time p.root reversed t).1 = .ok () →
      (makeDirectoriesAt time p.root reversed t).2.isDirectory ⟨p.root, reversed.reverse⟩ =
        .ok true := by
    intro reversed h
    cases reversed with
    | nil => exact (makeDirectoriesAt_nil time p.root t).isDirectory h
    | cons last before =>
      rcases makeDirectoriesAt_cons time p.root last before t with hr | ⟨g, hg, hr⟩ | ⟨_, hr⟩
      · exact hr.isDirectory h
      · rw [hr, hg] at h
        cases h
      · exact hr.isDirectory h
  have hdir := hat p.parts.reverse h
  rwa [List.reverse_reverse] at hdir

end FileTree

end Baseline
