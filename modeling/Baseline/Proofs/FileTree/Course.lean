import Mathlib.Data.List.Induction
import Baseline.Proofs.FileTree.Entries
import Baseline.Proofs.FileTree.Glob

/-!
# Where a path leads when nothing is looked up

The components of a path can be followed in thought: a double dot takes the last one back, or
leads one further up where there is none.  Where no link is met, this is where the path leads.

* `Course.go_eq_after` : to follow a path and then another is to follow the second one from the
  start, and to put the outcome after that of the first.
* `Path.Inside` : a path that leads below another.
* `Path.inside_join_iff` : **which texts lead a path below itself.**
* `FileTree.NoLinkBelow`, `FileTree.locate_below` : **below a directory without links, a path that
  does not leave it leads where it does in thought.**
-/

set_option autoImplicit false

namespace Baseline

/-! ## Courses -/

/-- Where components lead when nothing is looked up: so many steps above the start, and down from
there. -/
structure Course where
  up : Nat
  down : List String
deriving DecidableEq, Repr

namespace Course

/-- One component more. -/
def step (c : Course) (part : String) : Course :=
  if part = ".." then
    if c.down = [] then ⟨c.up + 1, []⟩ else ⟨c.up, c.down.dropLast⟩
  else ⟨c.up, c.down ++ [part]⟩

/-- On along components. -/
def go (c : Course) (parts : List String) : Course := parts.foldl step c

/-- Along components from the start. -/
def of (parts : List String) : Course := go ⟨0, []⟩ parts

/-- One course after another: the steps up of the second take back steps down of the first. -/
def after (c e : Course) : Course where
  up := c.up + (e.up - c.down.length)
  down := c.down.take (c.down.length - e.up) ++ e.down

theorem go_cons {part : String} (hup : part ≠ "..") (c : Course) (rest : List String) :
    c.go (part :: rest) = go ⟨c.up, c.down ++ [part]⟩ rest := by
  rw [go, List.foldl_cons, step, if_neg hup]
  rfl

theorem step_after (c e : Course) (part : String) :
    (c.after e).step part = c.after (e.step part) := by
  obtain ⟨u, d⟩ := c
  obtain ⟨k, n⟩ := e
  unfold step after
  dsimp only
  by_cases hup : part = ".."
  · rw [if_pos hup, if_pos hup]
    by_cases hn : n = []
    · subst hn
      rw [if_pos rfl, List.append_nil]
      rcases Nat.lt_or_ge k d.length with hlt | hge
      · have hne : d.take (d.length - k) ≠ [] := by
          rw [Ne, List.take_eq_nil_iff]
          rintro (hzero | rfl)
          · omega
          · exact absurd hlt (Nat.not_lt_zero k)
        have hlast : (d.take (d.length - k)).dropLast = d.take (d.length - (k + 1)) := by
          rw [List.dropLast_eq_take, List.length_take, List.take_take]
          congr 1
          omega
        rw [if_neg hne, hlast, List.append_nil, Nat.sub_eq_zero_of_le (Nat.le_of_lt hlt),
          Nat.sub_eq_zero_of_le hlt]
      · have hnil : d.take (d.length - k) = [] := by
          rw [Nat.sub_eq_zero_of_le hge, List.take_zero]
        have hnil' : d.take (d.length - (k + 1)) = [] := by
          rw [Nat.sub_eq_zero_of_le (by omega), List.take_zero]
        have hmore : u + (k - d.length) + 1 = u + (k + 1 - d.length) := by omega
        rw [if_pos hnil, hnil', List.append_nil, hmore]
    · rw [if_neg (by simp [hn]), if_neg hn, List.dropLast_append_of_ne_nil hn]
  · rw [if_neg hup, if_neg hup, List.append_assoc]

/-- **To go on along components is to put their own course after.** -/
theorem go_eq_after (c : Course) (parts : List String) : c.go parts = c.after (of parts) := by
  induction parts using List.reverseRecOn with
  | nil => simp [go, of, after]
  | append_singleton parts part ih =>
    have hstep : ∀ b : Course, b.go (parts ++ [part]) = (b.go parts).step part := by
      intro b
      rw [go, List.foldl_append]
      rfl
    rw [of, hstep, hstep, ih, step_after]
    rfl

theorem of_append (parts more : List String) : of (parts ++ more) = (of parts).after (of more) := by
  rw [← go_eq_after, of, go, List.foldl_append]
  rfl

/-- Components that stay below the start do so all along. -/
theorem up_eq_zero_of_prefix {parts more : List String} (hbegin : parts <+: more)
    (h : (of more).up = 0) : (of parts).up = 0 := by
  obtain ⟨rest, rfl⟩ := hbegin
  rw [of_append] at h
  exact (Nat.add_eq_zero_iff.mp h).1

end Course

/-! ## Below a path -/

namespace Path

/-- Where a path leads when nothing is looked up; there is nothing above the root. -/
def resolved (p : Path) : Course :=
  if p.root = .relative then .of p.parts else ⟨0, (Course.of p.parts).down⟩

/-- Whether a path leads below another one when nothing is looked up.  A relative path and an
absolute one are not compared. -/
def Inside (p base : Path) : Prop :=
  (p.root = .relative ↔ base.root = .relative) ∧
    ∃ rest, rest ≠ [] ∧ p.resolved = ⟨base.resolved.up, base.resolved.down ++ rest⟩

/-- Whether a text leads a path below itself: it goes no further up than that path leads down, and
comes down the same way. -/
def ComesBack (base : Path) (s : String) : Prop :=
  if rootOf s = .relative then
    let course := Course.of (components s)
    let depth := base.resolved.down.length
    (base.root = .relative → course.up ≤ depth) ∧
      ∃ rest, rest ≠ [] ∧ course.down = base.resolved.down.drop (depth - course.up) ++ rest
  else (ofText s).Inside base

/-- Whether a text leads below any path, without going above it on the way. -/
structure Descends (s : String) : Prop where
  relative : rootOf s = .relative
  up : (Course.of (components s)).up = 0
  down : (Course.of (components s)).down ≠ []

theorem take_append_eq_iff {α : Type} {d n rest : List α} (m : Nat) :
    d.take m ++ n = d ++ rest ↔ n = d.drop m ++ rest := by
  have hsplit : d ++ rest = d.take m ++ (d.drop m ++ rest) := by
    rw [← List.append_assoc, List.take_append_drop]
  rw [hsplit, List.append_cancel_left_eq]

/-- **Which texts lead a path below itself.** -/
theorem inside_join_iff (base : Path) (s : String) :
    (base.join s).Inside base ↔ base.ComesBack s := by
  unfold join ComesBack
  by_cases hroot : rootOf s = .relative
  · rw [if_pos hroot, if_pos (show (ofText s).root = .relative from hroot)]
    simp only [Inside, iff_self, true_and, ofText, resolved, Course.of_append]
    generalize Course.of base.parts = b
    generalize Course.of (components s) = e
    by_cases hbase : base.root = .relative
    · simp only [hbase, if_true, Course.after, Course.mk.injEq, true_implies]
      constructor
      · rintro ⟨rest, hne, hup, hdown⟩
        exact ⟨by omega, rest, hne, (take_append_eq_iff _).mp hdown⟩
      · rintro ⟨hle, rest, hne, hdown⟩
        exact ⟨rest, hne, by omega, (take_append_eq_iff _).mpr hdown⟩
    · simp only [hbase, if_false, Course.after, Course.mk.injEq, true_and, false_implies,
        take_append_eq_iff]
  · rw [if_neg hroot, if_neg (show ¬ (ofText s).root = .relative from hroot)]

theorem Descends.comesBack {s : String} (h : Descends s) (base : Path) : base.ComesBack s := by
  unfold ComesBack
  rw [if_pos h.relative]
  dsimp only
  rw [h.up]
  refine ⟨fun _ => Nat.zero_le _, _, h.down, ?_⟩
  rw [Nat.sub_zero, List.drop_length, List.nil_append]

/-- A text without slashes is a component of its own. -/
theorem descends_of_noSlash {s : String} (h : '/' ∉ s.toList) (hempty : s ≠ "") (hdot : s ≠ ".")
    (hdots : s ≠ "..") : Descends s := by
  have hcourse : Course.of (components s) = ⟨0, [s]⟩ := by
    rw [components_of_noSlash h hempty hdot]
    simp [Course.of, Course.go, Course.step, hdots]
  exact ⟨rootOf_of_noSlash h, by rw [hcourse], by rw [hcourse]; exact List.cons_ne_nil s []⟩

end Path

/-! ## Below a directory -/

namespace FileTree

variable {t : FileTree} {base : Path} {D : NodeName}

/-- Whether a place is the one of a name. -/
def Place.IsAt (name : NodeName) : Place → Prop
  | .root => name = []
  | .node other _ => other = name
  | .free directory last => directory ++ [last] = name

/-- Whether a name is below the directory to which a path leads. -/
def Below (t : FileTree) (base : Path) (name : NodeName) : Prop :=
  ∃ D rest, t.directoryName? base = some D ∧ rest ≠ [] ∧ name = D ++ rest

/-- No link stands below the directory to which a path leads. -/
def NoLinkBelow (t : FileTree) (base : Path) : Prop :=
  ∀ name target, t.Below base name → t.node? name ≠ some (.link target)

theorem Place.IsDirectoryNamed.isAt {place : Place} (h : place.IsDirectoryNamed D) :
    place.IsAt D := by
  cases place with
  | root => exact h
  | free directory last => cases h
  | node name n =>
    cases n with
    | directory time => exact h
    | file content time => cases h
    | link target => cases h

/-- Whether a walk meets no link, and arrives at the place of a name if anywhere. -/
def Walk.EndsAt (name : NodeName) : Walk → Prop
  | .arrived place => place.IsAt name
  | .failed _ => True
  | .atLink _ _ _ => False

/-- A walk that stays below a directory without links arrives where it does in thought. -/
theorem Walks.stays (hroot : t.Rooted)
    (hlinks : ∀ rest target, rest ≠ [] → t.node? (D ++ rest) ≠ some (.link target))
    {followLast : Bool} {dir : NodeName} {cs : List String} {w : Walk}
    (h : t.Walks followLast dir cs w) (d : List String) (hdir : dir = D ++ d)
    (hlisted : t.Listed dir) (hup : ((⟨0, d⟩ : Course).go cs).up = 0) :
    w.EndsAt (D ++ ((⟨0, d⟩ : Course).go cs).down) := by
  induction h generalizing d with
  | here dir =>
    subst hdir
    exact (isDirectoryNamed_directoryPlace hroot hlisted).isAt
  | @up dir rest w hrest ih =>
    by_cases hd : d = []
    · -- this step would lead above the directory, and nothing takes that back
      subst hd
      rw [show (⟨0, []⟩ : Course).go (".." :: rest) = (⟨1, []⟩ : Course).go rest from rfl,
        Course.go_eq_after] at hup
      simp [Course.after] at hup
    · have hstep : (⟨0, d⟩ : Course).go (".." :: rest) = (⟨0, d.dropLast⟩ : Course).go rest := by
        simp [Course.go, Course.step, hd]
      rw [hstep] at hup ⊢
      exact ih d.dropLast (by rw [hdir, List.dropLast_append_of_ne_nil hd]) hlisted.dropLast hup
  | failed dir cs cause => trivial
  | free hc hshort hnode =>
    rw [Course.go_cons hc, hdir]
    exact (List.append_assoc D d _)
  | file hc hshort hnode =>
    rw [Course.go_cons hc, hdir]
    exact (List.append_assoc D d _)
  | @directory dir c rest time w hc hshort hnode hrest ih =>
    rw [Course.go_cons hc] at hup ⊢
    exact ih (d ++ [c]) (by rw [hdir, List.append_assoc]) (hlisted.child hnode) hup
  | lastLink hc hshort hnode hlast =>
    rw [hdir, List.append_assoc] at hnode
    exact absurd hnode (hlinks _ _ (by simp))
  | link hc hshort hnode hgoes =>
    rw [hdir, List.append_assoc] at hnode
    exact absurd hnode (hlinks _ _ (by simp))

/-- Where a longer path leads anywhere, the shorter one leads to a directory, and the rest of the
way goes on from there. -/
theorem walkLinks_append (hroot : t.Rooted) {followLast : Bool} {more : List String}
    (hmore : more ≠ [])
    {place : Place} {budget : Nat} {dir : NodeName} (hdir : t.Listed dir) {cs : List String}
    (h : t.walkLinks followLast dir (cs ++ more) budget = .ok place) :
    ∃ E left, t.walkLinks true dir cs budget = .ok (t.directoryPlace E) ∧ t.Listed E ∧
      t.walkLinks followLast E more left = .ok place := by
  induction budget using Nat.strongRecOn generalizing dir cs with
  | _ budget ih =>
    have hwalk := walk_append followLast hmore cs hdir
    rcases walkLinks_eq_ok.mp h with hlong | ⟨left, stop, target, rest, rfl, hlong, hrest⟩
    · cases hshort : t.walk true dir cs with
      | arrived above =>
        rw [hshort, hlong] at hwalk
        rcases hwalk with ⟨E, hlisted, rfl, hend⟩ | ⟨_, hfailed⟩
        · exact ⟨E, budget, walkLinks_eq_ok.mpr (Or.inl hshort), hlisted,
            walkLinks_eq_ok.mpr (Or.inl hend.symm)⟩
        · cases hfailed
      | failed cause =>
        rw [hshort, hlong] at hwalk
        cases hwalk
      | atLink stop target rest =>
        rw [hshort, hlong] at hwalk
        cases hwalk.2
    · cases hshort : t.walk true dir cs with
      | arrived above =>
        rw [hshort, hlong] at hwalk
        rcases hwalk with ⟨E, hlisted, rfl, hend⟩ | ⟨_, hfailed⟩
        · exact ⟨E, left + 1, walkLinks_eq_ok.mpr (Or.inl hshort), hlisted,
            walkLinks_eq_ok.mpr (Or.inr ⟨_, _, _, _, rfl, hend.symm, hrest⟩)⟩
        · cases hfailed
      | failed cause =>
        rw [hshort, hlong] at hwalk
        cases hwalk
      | atLink stop' target' rest' =>
        -- both stop at the same link, and go on from there with one link less
        rw [hshort, hlong] at hwalk
        obtain ⟨hlisted, hsame⟩ := hwalk
        cases hsame
        replace hrest := hrest.1
        rw [← List.append_assoc] at hrest
        obtain ⟨E, rest, habove, hE, hend⟩ :=
          ih left (Nat.lt_succ_self left) (hlisted.start target) hrest
        exact ⟨E, rest, walkLinks_eq_ok.mpr (Or.inr ⟨_, _, _, _, rfl, hshort, habove,
          fun _ _ => (isDirectoryNamed_directoryPlace hroot hE).isDirectory⟩), hE, hend⟩

theorem utf8ByteSize_text_append_le (start : PathRoot) (parts more : List String) :
    (Path.text ⟨start, parts⟩).utf8ByteSize ≤
      max 1 (Path.text ⟨start, parts ++ more⟩).utf8ByteSize := by
  induction more using List.reverseRecOn with
  | nil =>
    rw [List.append_nil]
    omega
  | append_singleton more last ih =>
    have hlast := utf8ByteSize_parent_text (p := ⟨start, parts ++ (more ++ [last])⟩) (by simp)
    rw [Path.parent, ← List.append_assoc, List.dropLast_concat] at hlast
    rw [← List.append_assoc]
    exact Nat.le_trans ih (Nat.max_le.mpr ⟨Nat.le_max_left 1 _, hlast⟩)

/-- **Below a directory without links, a path that does not leave it leads where it does in
thought.** -/
theorem locate_below (hroot : t.Rooted) (hlinks : t.NoLinkBelow base) {more : List String}
    (hmore : more ≠ []) (hup : (Course.of more).up = 0) {followLast : Bool} {place : Place}
    (h : t.locate followLast ⟨base.root, base.parts ++ more⟩ = .ok place) :
    ∃ D, t.directoryName? base = some D ∧ place.IsAt (D ++ (Course.of more).down) := by
  obtain ⟨hnull, hsize, hwalk⟩ := locate_eq_ok.mp h
  obtain ⟨E, left, hbase, hlisted, hrest⟩ := walkLinks_append hroot hmore listed_root hwalk
  have hdirectory : t.directoryName? base = some E := by
    refine directoryName?_of_named (locate_eq_ok.mpr ⟨?_, ?_, hbase⟩)
      (isDirectoryNamed_directoryPlace hroot hlisted)
    · rw [Path.hasNull, List.any_append, Bool.or_eq_false_iff] at hnull
      exact hnull.1
    · have hle := utf8ByteSize_text_append_le base.root base.parts more
      have hlimit : 1 ≤ maxPath := by decide
      exact Nat.le_trans hle (Nat.max_le.mpr ⟨hlimit, hsize⟩)
  refine ⟨E, hdirectory, ?_⟩
  have hno : ∀ rest target, rest ≠ [] → t.node? (E ++ rest) ≠ some (.link target) :=
    fun rest target hne => hlinks _ target ⟨E, rest, hdirectory, hne, rfl⟩
  have hbelow := (t.walks followLast E more).stays hroot hno [] (List.append_nil E).symm hlisted hup
  rcases walkLinks_eq_ok.mp hrest with harrived | ⟨_, _, _, _, _, hlink, _⟩
  · rw [harrived] at hbelow
    exact hbelow
  · rw [hlink] at hbelow
    exact hbelow.elim

end FileTree

end Baseline
