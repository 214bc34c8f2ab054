import Baseline.FileTree.Basic

/-!
# Files that are written and directories that are there

* `FileTree.Walks`, `FileTree.walks` : the ways in which a walk goes.
* `FileTree.locate_write` : a written file is where its path leads from then on; its content and
  its time are what was written.
* `FileTree.write_isOk` : where a path leads to a file or to a free name, it can be written.
* `FileTree.makeDirectories_parent` : where a path leads anywhere, the directory above it is
  there, and making it changes nothing.
-/

set_option autoImplicit false

namespace Baseline

namespace FileTree

variable {t t' : FileTree} {name : NodeName} {node : FileNode}

/-! ## Nodes -/

theorem node?_cons {n : NodeName × FileNode} {rest : List (NodeName × FileNode)} :
    node? ⟨n :: rest⟩ name = if n.1 = name then some n.2 else node? ⟨rest⟩ name := by
  unfold node?
  by_cases h : n.1 = name
  · rw [if_pos h, List.find?_cons_of_pos (by simpa using h), Option.map_some]
  · rw [if_neg h, List.find?_cons_of_neg (by simpa using h)]

theorem node?_append (ns ms : List (NodeName × FileNode)) :
    node? ⟨ns ++ ms⟩ name = (node? ⟨ns⟩ name).or (node? ⟨ms⟩ name) := by
  unfold node?
  rw [List.find?_append]
  cases ns.find? (·.1 = name) <;> rfl

theorem node?_replaced (ns : List (NodeName × FileNode)) (other : NodeName) :
    node? ⟨ns.map fun n => if n.1 = name then (name, node) else n⟩ other =
      if other = name then (node? ⟨ns⟩ name).map fun _ => node else node? ⟨ns⟩ other := by
  induction ns with
  | nil => simp [node?]
  | cons n rest ih =>
    rw [List.map_cons, node?_cons, ih, node?_cons,
      node?_cons]
    by_cases hn : n.1 = name
    · by_cases ho : other = name
      · simp [hn, ho]
      · simp [hn, ho, Ne.symm ho]
    · by_cases ho : other = name
      · simp [hn, ho]
      · simp [hn, ho]

theorem isSome_node? : (t.node? name).isSome = t.nodes.any (·.1 = name) := by
  rw [Bool.eq_iff_iff, node?, Option.isSome_map, List.find?_isSome, List.any_eq_true]

theorem mem_of_node? {name : NodeName} {n : FileNode} (h : t.node? name = some n) :
    (name, n) ∈ t.nodes := by
  obtain ⟨m, hm, rfl⟩ := Option.map_eq_some_iff.mp h
  have hname : m.1 = name := by simpa using List.find?_some hm
  exact hname ▸ List.mem_of_find?_eq_some hm

theorem node?_put (other : NodeName) :
    (t.put name node).node? other = if other = name then some node else t.node? other := by
  have hsome : (t.node? name).isSome = t.nodes.any (·.1 = name) := isSome_node?
  unfold put
  split
  · rename_i hany
    rw [hany, Option.isSome_iff_exists] at hsome
    obtain ⟨old, hold⟩ := hsome
    rw [node?_replaced]
    split
    · rw [show node? ⟨t.nodes⟩ name = some old from hold, Option.map_some]
    · rfl
  · rename_i hany
    rw [Bool.not_eq_true] at hany
    rw [hany, Option.isSome_eq_false_iff, Option.isNone_iff_eq_none] at hsome
    rw [node?_append, node?_cons]
    by_cases ho : other = name
    · rw [ho, show node? ⟨t.nodes⟩ name = none from hsome, if_pos rfl, if_pos rfl]
      rfl
    · rw [if_neg ho, if_neg (Ne.symm ho)]
      exact Option.or_none

/-! ## Walks -/

theorem walk_cons {c : String} (hc : c ≠ "..") {followLast : Bool} {dir : NodeName}
    {rest : List String} : t.walk followLast dir (c :: rest) =
      if maxComponent < c.utf8ByteSize then .failed .nameTooLong
      else
        match t.node? (dir ++ [c]) with
        | none => if rest = [] then .arrived (.free dir c) else .failed .noEntry
        | some (.directory _) => t.walk followLast (dir ++ [c]) rest
        | some (.file content time) =>
          if rest = [] then .arrived (.node (dir ++ [c]) (.file content time))
          else .failed .notDirectory
        | some (.link target) =>
          if rest = [] ∧ ¬ followLast then .arrived (.node (dir ++ [c]) (.link target))
          else .atLink dir target rest := by
  exact walk.eq_3 t followLast dir c rest hc

theorem walk_directory {c : String} {followLast : Bool} {dir : NodeName} {rest : List String}
    {a : Double} (hup : c ≠ "..") (hshort : c.utf8ByteSize ≤ maxComponent)
    (hnode : t.node? (dir ++ [c]) = some (.directory a)) :
    t.walk followLast dir (c :: rest) = t.walk followLast (dir ++ [c]) rest := by
  rw [walk_cons hup, if_neg (Nat.not_lt.mpr hshort), hnode]

theorem walk_link {c : String} {followLast : Bool} {dir : NodeName} {rest : List String}
    {target : String} (hup : c ≠ "..") (hshort : c.utf8ByteSize ≤ maxComponent)
    (hnode : t.node? (dir ++ [c]) = some (.link target)) (hgoes : ¬ (rest = [] ∧ ¬ followLast)) :
    t.walk followLast dir (c :: rest) = .atLink dir target rest := by
  rw [walk_cons hup, if_neg (Nat.not_lt.mpr hshort), hnode]
  exact if_neg hgoes

theorem walk_free {c : String} {followLast : Bool} {dir : NodeName} (hup : c ≠ "..")
    (hshort : c.utf8ByteSize ≤ maxComponent) (hnode : t.node? (dir ++ [c]) = none) :
    t.walk followLast dir [c] = .arrived (.free dir c) := by
  rw [walk_cons hup, if_neg (Nat.not_lt.mpr hshort), hnode]
  exact if_pos rfl

theorem walk_file {c : String} {followLast : Bool} {dir : NodeName} {content : List UInt8}
    {time : Double} (hup : c ≠ "..") (hshort : c.utf8ByteSize ≤ maxComponent)
    (hnode : t.node? (dir ++ [c]) = some (.file content time)) :
    t.walk followLast dir [c] = .arrived (.node (dir ++ [c]) (.file content time)) := by
  rw [walk_cons hup, if_neg (Nat.not_lt.mpr hshort), hnode]
  exact if_pos rfl

/-- How a walk goes, one component after the other, until it arrives or stops at a link.  Nothing is
told of why a walk fails. -/
inductive Walks (t : FileTree) (followLast : Bool) : NodeName → List String → Walk → Prop where
  | here (dir : NodeName) : Walks t followLast dir [] (.arrived (t.directoryPlace dir))
  | up {dir : NodeName} {rest : List String} {w : Walk}
      (hrest : Walks t followLast dir.dropLast rest w) : Walks t followLast dir (".." :: rest) w
  | failed (dir : NodeName) (cs : List String) (cause : FileErrorCause) :
      Walks t followLast dir cs (.failed cause)
  | free {dir : NodeName} {c : String} (hup : c ≠ "..")
      (hshort : c.utf8ByteSize ≤ maxComponent) (hnode : t.node? (dir ++ [c]) = none) :
      Walks t followLast dir [c] (.arrived (.free dir c))
  | file {dir : NodeName} {c : String} {content : List UInt8} {time : Double} (hup : c ≠ "..")
      (hshort : c.utf8ByteSize ≤ maxComponent)
      (hnode : t.node? (dir ++ [c]) = some (.file content time)) :
      Walks t followLast dir [c] (.arrived (.node (dir ++ [c]) (.file content time)))
  | directory {dir : NodeName} {c : String} {rest : List String} {time : Double} {w : Walk}
      (hup : c ≠ "..") (hshort : c.utf8ByteSize ≤ maxComponent)
      (hnode : t.node? (dir ++ [c]) = some (.directory time))
      (hrest : Walks t followLast (dir ++ [c]) rest w) : Walks t followLast dir (c :: rest) w
  | lastLink {dir : NodeName} {c target : String} (hup : c ≠ "..")
      (hshort : c.utf8ByteSize ≤ maxComponent)
      (hnode : t.node? (dir ++ [c]) = some (.link target)) (hlast : ¬ followLast) :
      Walks t followLast dir [c] (.arrived (.node (dir ++ [c]) (.link target)))
  | link {dir : NodeName} {c target : String} {rest : List String} (hup : c ≠ "..")
      (hshort : c.utf8ByteSize ≤ maxComponent)
      (hnode : t.node? (dir ++ [c]) = some (.link target))
      (hgoes : ¬ (rest = [] ∧ ¬ followLast)) :
      Walks t followLast dir (c :: rest) (.atLink dir target rest)

/-- **Every walk goes in one of these ways.** -/
theorem walks (t : FileTree) (followLast : Bool) (dir : NodeName) (cs : List String) :
    t.Walks followLast dir cs (t.walk followLast dir cs) := by
  induction cs generalizing dir with
  | nil => exact .here dir
  | cons c rest ih =>
    by_cases hup : c = ".."
    · subst hup
      exact .up (ih dir.dropLast)
    rw [walk_cons hup]
    by_cases hlong : maxComponent < c.utf8ByteSize
    · rw [if_pos hlong]
      exact .failed _ _ _
    have hshort : c.utf8ByteSize ≤ maxComponent := Nat.not_lt.mp hlong
    rw [if_neg hlong]
    cases hnode : t.node? (dir ++ [c]) with
    | none =>
      dsimp only
      by_cases hend : rest = []
      · subst hend
        exact .free hup hshort hnode
      · rw [if_neg hend]
        exact .failed _ _ _
    | some n =>
      cases n with
      | directory time => exact .directory hup hshort hnode (ih (dir ++ [c]))
      | file content time =>
        dsimp only
        by_cases hend : rest = []
        · subst hend
          exact .file hup hshort hnode
        · rw [if_neg hend]
          exact .failed _ _ _
      | link target =>
        dsimp only
        by_cases hend : rest = [] ∧ ¬ followLast
        · rw [if_pos hend]
          obtain ⟨rfl, hlast⟩ := hend
          exact .lastLink hup hshort hnode hlast
        · rw [if_neg hend]
          exact .link hup hshort hnode hend

/-- Whether a place is a directory. -/
def Place.IsDirectory : Place → Prop
  | .root => True
  | .node _ (.directory _) => True
  | _ => False

theorem Place.asDirectory_of_isDirectory {place : Place} (h : place.IsDirectory) :
    place.asDirectory = .ok place := by
  cases place with
  | root => rfl
  | free directory last => cases h
  | node name n =>
    cases n with
    | directory time => rfl
    | file content time => cases h
    | link target => cases h

theorem Place.asDirectory_of_not {place : Place} (h : ¬ place.IsDirectory) :
    place.asDirectory = .error place.obstacle := by
  cases place with
  | root => exact absurd trivial h
  | free directory last => rfl
  | node name n =>
    cases n with
    | directory time => exact absurd trivial h
    | file content time => rfl
    | link target => rfl

@[simp]
theorem throughLink_error (target : String) (rest : List String) (cause : FileErrorCause) :
    throughLink target rest (.error cause) = .error cause := by
  unfold throughLink
  split <;> rfl

theorem throughLink_directory {place : Place} (h : place.IsDirectory) (target : String)
    (rest : List String) : throughLink target rest (.ok place) = .ok place := by
  unfold throughLink
  split
  · exact place.asDirectory_of_isDirectory h
  · rfl

theorem throughLink_of_ne_nil {rest : List String} (h : rest ≠ []) (target : String)
    (found : Except FileErrorCause Place) : throughLink target rest found = found :=
  if_neg fun hend => h hend.1

/-- A place to which a link may lead, by the end of its target. -/
def AdmitsEnd (target : String) (rest : List String) (place : Place) : Prop :=
  rest = [] → Path.asksForDirectory target = true → place.IsDirectory

theorem AdmitsEnd.of_not {target : String} {rest : List String} {place : Place}
    (h : AdmitsEnd target rest place) (hplace : ¬ place.IsDirectory) (other : Place) :
    AdmitsEnd target rest other :=
  fun hend hasks => absurd (h hend hasks) hplace

theorem throughLink_eq_ok {target : String} {rest : List String}
    {found : Except FileErrorCause Place} {place : Place} :
    throughLink target rest found = .ok place ↔
      found = .ok place ∧ AdmitsEnd target rest place := by
  unfold throughLink AdmitsEnd
  by_cases hend : rest = [] ∧ Path.asksForDirectory target = true
  · rw [if_pos hend]
    cases found with
    | error cause => simp [Except.bind]
    | ok there =>
      by_cases hthere : there.IsDirectory
      · rw [Except.bind, there.asDirectory_of_isDirectory hthere]
        refine ⟨fun h => ⟨h, fun _ _ => ?_⟩, And.left⟩
        cases h
        exact hthere
      · rw [Except.bind, there.asDirectory_of_not hthere]
        refine ⟨nofun, ?_⟩
        rintro ⟨⟨⟩, hplace⟩
        exact absurd (hplace hend.1 hend.2) hthere
  · rw [if_neg hend]
    exact ⟨fun h => ⟨h, fun hnil hasks => absurd ⟨hnil, hasks⟩ hend⟩, And.left⟩

/-- Where a path leads: the walk along it arrives, or stops at a link from which it goes on. -/
theorem walkLinks_eq_ok {followLast : Bool} {dir : NodeName} {cs : List String} {budget : Nat}
    {place : Place} :
    t.walkLinks followLast dir cs budget = .ok place ↔
      t.walk followLast dir cs = .arrived place ∨
        ∃ left stop target rest, budget = left + 1 ∧
          t.walk followLast dir cs = .atLink stop target rest ∧
          t.walkLinks followLast (if Path.rootOf target = .relative then stop else [])
            (Path.components target ++ rest) left = .ok place ∧
          AdmitsEnd target rest place := by
  cases budget with
  | zero =>
    rw [walkLinks]
    cases t.walk followLast dir cs <;> simp
  | succ budget =>
    rw [walkLinks]
    cases t.walk followLast dir cs with
    | arrived other => simp
    | failed cause => simp
    | atLink stop target rest =>
      simp only [reduceCtorEq, false_or, throughLink_eq_ok]
      constructor
      · exact fun h => ⟨budget, stop, target, rest, rfl, rfl, h⟩
      · rintro ⟨left, _, _, _, hleft, ⟨⟩, h⟩
        cases hleft
        exact h

/-- From a link that does not stand at the end of the path the way goes on along its target. -/
theorem walkLinks_of_atLink {followLast : Bool} {dir stop : NodeName} {cs rest : List String}
    {target : String} (h : t.walk followLast dir cs = .atLink stop target rest) (hrest : rest ≠ [])
    (left : Nat) : t.walkLinks followLast dir cs (left + 1) =
      t.walkLinks followLast (if Path.rootOf target = .relative then stop else [])
        (Path.components target ++ rest) left := by
  rw [walkLinks, h]
  exact throughLink_of_ne_nil hrest target _

/-! ## Walks after a write -/

/-- A tree in which a file was written at a name, over a file or where nothing stood.  Nothing
else has changed but the times of directories. -/
structure WrittenAt (t t' : FileTree) (name : NodeName) (node : FileNode) : Prop where
  before : t.node? name = none ∨ ∃ content time, t.node? name = some (.file content time)
  written : ∃ content time, node = .file content time
  there : t'.node? name = some node
  others : ∀ other, other ≠ name → t'.node? other = t.node? other ∨
    ∃ a b, t.node? other = some (.directory a) ∧ t'.node? other = some (.directory b)

/-- Whether a place is the file at a name, or that name when it is free. -/
def Place.IsFileAt (name : NodeName) : Place → Prop
  | .node other (.file _ _) => other = name
  | .free directory last => directory ++ [last] = name
  | _ => False

theorem Place.IsFileAt.not_isDirectory {place : Place} (h : place.IsFileAt name) :
    ¬ place.IsDirectory := by
  cases place with
  | root => exact h.elim
  | free directory last => exact id
  | node other n =>
    cases n with
    | directory time => exact h.elim
    | file content time => exact id
    | link target => exact id

theorem WrittenAt.ne (hw : WrittenAt t t' name node) {other : NodeName}
    (hother : (∃ a, t.node? other = some (.directory a)) ∨
      ∃ target, t.node? other = some (.link target)) : other ≠ name := by
  rintro rfl
  rcases hw.before with h | ⟨content, time, h⟩ <;>
    rcases hother with ⟨a, ho⟩ | ⟨target, ho⟩ <;> rw [h] at ho <;> cases ho

theorem WrittenAt.directory (hw : WrittenAt t t' name node) {other : NodeName} {a : Double}
    (h : t.node? other = some (.directory a)) : ∃ b, t'.node? other = some (.directory b) := by
  rcases hw.others other (hw.ne (Or.inl ⟨a, h⟩)) with ho | ⟨_, b, _, hb⟩
  · exact ⟨a, ho.trans h⟩
  · exact ⟨b, hb⟩

theorem WrittenAt.link (hw : WrittenAt t t' name node) {other : NodeName} {target : String}
    (h : t.node? other = some (.link target)) : t'.node? other = some (.link target) := by
  rcases hw.others other (hw.ne (Or.inr ⟨target, h⟩)) with ho | ⟨a, b, ha, hb⟩
  · exact ho.trans h
  · rw [h] at ha
    cases ha

/-- How a walk in the old tree fares in the new one: it ends at the written name, or stops at
the same link; nothing is said of walks that failed or ended elsewhere. -/
inductive SameWalk (name : NodeName) (node : FileNode) : Walk → Walk → Prop where
  | failed (cause : FileErrorCause) (w : Walk) : SameWalk name node (.failed cause) w
  | elsewhere {place : Place} (h : ¬ place.IsFileAt name) (w : Walk) :
      SameWalk name node (.arrived place) w
  | there (place : Place) : SameWalk name node (.arrived place) (.arrived (.node name node))
  | atLink (dir : NodeName) (target : String) (rest : List String) :
      SameWalk name node (.atLink dir target rest) (.atLink dir target rest)

theorem WrittenAt.directoryPlace (hw : WrittenAt t t' name node) (dir : NodeName) :
    SameWalk name node (.arrived (t.directoryPlace dir)) (.arrived (t'.directoryPlace dir)) := by
  by_cases h : (t.directoryPlace dir).IsFileAt name
  · have hdir : dir = name := by
      unfold FileTree.directoryPlace at h
      split at h
      · rename_i n _
        cases n with
        | file content time => exact h
        | directory time => cases h
        | link target => cases h
      · cases h
    rw [FileTree.directoryPlace.eq_1 t', hdir, hw.there]
    exact .there _
  · exact .elsewhere h _

theorem WrittenAt.walk (hw : WrittenAt t t' name node) (cs : List String) (dir : NodeName) :
    SameWalk name node (t.walk true dir cs) (t'.walk true dir cs) := by
  have hwalks := t.walks true dir cs
  generalize t.walk true dir cs = w at hwalks ⊢
  -- only the written name stands elsewise than before; there the old tree has a file or nothing
  have hended : ∀ {dir : NodeName} {c : String} {place : Place}, c ≠ ".." →
      c.utf8ByteSize ≤ maxComponent → (place.IsFileAt name → dir ++ [c] = name) →
      SameWalk name node (.arrived place) (t'.walk true dir [c]) := by
    intro dir c place hup hshort hplace
    by_cases hhere : place.IsFileAt name
    · obtain ⟨content, time, rfl⟩ := hw.written
      rw [walk_file hup hshort (hplace hhere ▸ hw.there), hplace hhere]
      exact .there _
    · exact .elsewhere hhere _
  induction hwalks with
  | here dir => exact hw.directoryPlace dir
  | up _ ih => exact ih
  | failed dir cs cause => exact .failed cause _
  | free hup hshort _ => exact hended hup hshort id
  | file hup hshort _ => exact hended hup hshort id
  | directory hup hshort hnode _ ih =>
    obtain ⟨b, hb⟩ := hw.directory hnode
    rw [walk_directory hup hshort hb]
    exact ih
  | lastLink _ _ _ hlast => exact absurd rfl hlast
  | link hup hshort hnode hgoes =>
    rw [walk_link hup hshort (hw.link hnode) hgoes]
    exact .atLink _ _ _

theorem WrittenAt.walkLinks (hw : WrittenAt t t' name node) {place : Place}
    (hplace : place.IsFileAt name) {budget : Nat} {dir : NodeName} {cs : List String}
    (h : t.walkLinks true dir cs budget = .ok place) :
    t'.walkLinks true dir cs budget = .ok (.node name node) := by
  induction budget using Nat.strongRecOn generalizing dir cs with
  | _ budget ih =>
    have hwalk := hw.walk cs dir
    rw [walkLinks_eq_ok] at h ⊢
    generalize t'.walk true dir cs = w' at hwalk ⊢
    rcases h with harrived | ⟨left, stop, target, rest, rfl, hlink, h⟩
    · rw [harrived] at hwalk
      cases hwalk with
      | elsewhere hno => exact absurd hplace hno
      | there => exact Or.inl rfl
    · rw [hlink] at hwalk
      cases hwalk with
      | atLink =>
        exact Or.inr ⟨left, stop, target, rest, rfl, rfl, ih left (Nat.lt_succ_self left) h.1,
          h.2.of_not hplace.not_isDirectory _⟩

theorem locate_eq_ok {followLast : Bool} {p : Path} {place : Place} :
    t.locate followLast p = .ok place ↔
      p.hasNull = false ∧ p.text.utf8ByteSize ≤ maxPath ∧
        t.walkLinks followLast [] p.parts maxLinks = .ok place := by
  unfold locate
  split
  · simp [*]
  · split
    · rename_i hnull hlong
      simp only [reduceCtorEq, false_iff, not_and]
      omega
    · rename_i hnull hlong
      cases hwalk : t.walkLinks followLast [] p.parts maxLinks <;> simp_all

theorem WrittenAt.locate (hw : WrittenAt t t' name node) {place : Place}
    (hplace : place.IsFileAt name) {p : Path} (h : t.locate true p = .ok place) :
    t'.locate true p = .ok (.node name node) := by
  rw [locate_eq_ok] at h ⊢
  exact ⟨h.1, h.2.1, hw.walkLinks hplace h.2.2⟩

/-! ## Writing -/

/-- A place is as the tree has it. -/
def Place.Stands (t : FileTree) : Place → Prop
  | .root => True
  | .node name n => t.node? name = some n
  | .free directory last => t.node? (directory ++ [last]) = none

theorem stands_directoryPlace (t : FileTree) (dir : NodeName) :
    (t.directoryPlace dir).Stands t := by
  unfold directoryPlace
  split
  · rename_i n hn
    exact hn
  · trivial

theorem stands_of_walk {followLast : Bool} {dir : NodeName} {cs : List String} {place : Place}
    (h : t.walk followLast dir cs = .arrived place) : place.Stands t := by
  have hwalks := t.walks followLast dir cs
  rw [h] at hwalks
  clear h
  generalize harrived : Walk.arrived place = w at hwalks
  induction hwalks with
  | here dir =>
    cases harrived
    exact stands_directoryPlace t dir
  | up _ ih => exact ih harrived
  | failed dir cs cause => cases harrived
  | free hup hshort hnode =>
    cases harrived
    exact hnode
  | file hup hshort hnode =>
    cases harrived
    exact hnode
  | directory hup hshort hnode _ ih => exact ih harrived
  | lastLink hup hshort hnode hlast =>
    cases harrived
    exact hnode
  | link hup hshort hnode hgoes => cases harrived

theorem exists_walk_of_walkLinks {followLast : Bool} {budget : Nat} {dir : NodeName}
    {cs : List String} {place : Place} (h : t.walkLinks followLast dir cs budget = .ok place) :
    ∃ dir cs, t.walk followLast dir cs = .arrived place := by
  induction budget using Nat.strongRecOn generalizing dir cs with
  | _ budget ih =>
    rcases walkLinks_eq_ok.mp h with harrived | ⟨left, stop, target, rest, rfl, hlink, h⟩
    · exact ⟨dir, cs, harrived⟩
    · exact ih left (Nat.lt_succ_self left) h.1

theorem stands_of_locate {p : Path} {followLast : Bool} {place : Place}
    (h : t.locate followLast p = .ok place) : place.Stands t := by
  obtain ⟨_, _, hwalk⟩ := exists_walk_of_walkLinks (locate_eq_ok.mp h).2.2
  exact stands_of_walk hwalk

theorem writtenAt_put {old : List UInt8} {before : Double} (content : List UInt8) (time : Double)
    (h : t.node? name = some (.file old before)) :
    WrittenAt t (t.put name (.file content time)) name (.file content time) where
  before := Or.inr ⟨old, before, h⟩
  written := ⟨content, time, rfl⟩
  there := by rw [node?_put, if_pos rfl]
  others := fun other hother => Or.inl (by rw [node?_put, if_neg hother])

theorem writtenAt_add {dir : NodeName} {last : String} (content : List UInt8) (time : Double)
    (h : t.node? (dir ++ [last]) = none) :
    WrittenAt t (t.add dir last (.file content time) time) (dir ++ [last])
      (.file content time) where
  before := Or.inl h
  written := ⟨content, time, rfl⟩
  there := by
    unfold add touch
    have hne : dir ++ [last] ≠ dir := by simp
    split
    · rw [node?_put, if_neg hne, node?_put, if_pos rfl]
    · rw [node?_put, if_pos rfl]
  others := by
    intro other hother
    unfold add touch
    split
    · rename_i a hdir
      rw [node?_put, if_neg (by simp)] at hdir
      by_cases ho : other = dir
      · refine Or.inr ⟨a, time, ho ▸ hdir, ?_⟩
        rw [node?_put, if_pos ho]
      · rw [node?_put, if_neg ho, node?_put, if_neg hother]
        exact Or.inl rfl
    · rw [node?_put, if_neg hother]
      exact Or.inl rfl

/-- A write writes the file to which its path leads, and nothing else. -/
theorem writtenAt_write {time : Double} {p : Path} {content : List UInt8}
    (h : t.write time p content = .ok t') :
    ∃ place name, t.locate true p = .ok place ∧ place.IsFileAt name ∧
      WrittenAt t t' name (.file content time) := by
  unfold write at h
  cases hloc : t.locate true p with
  | error f => rw [hloc] at h; cases h
  | ok place =>
    rw [hloc] at h
    cases place with
    | root => cases h
    | free dir last =>
      cases h
      exact ⟨_, dir ++ [last], rfl, rfl, writtenAt_add content time (stands_of_locate hloc)⟩
    | node name n =>
      cases n with
      | directory time => cases h
      | link target => cases h
      | file old before =>
        cases h
        exact ⟨_, name, rfl, rfl, writtenAt_put content time (stands_of_locate hloc)⟩

/-- **A written file is where its path leads.** -/
theorem locate_write {time : Double} {p : Path} {content : List UInt8}
    (h : t.write time p content = .ok t') :
    ∃ name, t'.locate true p = .ok (.node name (.file content time)) := by
  obtain ⟨place, name, hloc, hplace, hw⟩ := writtenAt_write h
  exact ⟨name, hw.locate hplace hloc⟩

theorem read_of_locate {p : Path} {content : List UInt8} {time : Double}
    (h : t.locate true p = .ok (.node name (.file content time))) : t.read p = .ok content := by
  rw [read, h]
  rfl

theorem stat_of_locate {p : Path} {content : List UInt8} {time : Double}
    (h : t.locate true p = .ok (.node name (.file content time))) :
    t.stat p = .ok ⟨false, time⟩ := by
  rw [stat, h]
  rfl

/-- A file that can be read has a place. -/
theorem locate_of_read {p : Path} {content : List UInt8} (h : t.read p = .ok content) :
    ∃ name time, t.locate true p = .ok (.node name (.file content time)) := by
  unfold read at h
  cases hloc : t.locate true p with
  | error f => rw [hloc] at h; cases h
  | ok place =>
    rw [hloc] at h
    cases place with
    | root => cases h
    | free dir last => cases h
    | node name n =>
      cases n with
      | directory time => cases h
      | link target => cases h
      | file old before =>
        cases h
        exact ⟨name, before, rfl⟩

/-- **Where a path leads to a file or to a free name, it can be written.** -/
theorem write_isOk {p : Path} {place : Place} (h : t.locate true p = .ok place)
    (hplace : place.IsFileAt name) (time : Double) (content : List UInt8) :
    ∃ t', t.write time p content = .ok t' := by
  unfold write
  rw [h]
  cases place with
  | root => cases hplace
  | free dir last => exact ⟨_, rfl⟩
  | node other n =>
    cases n with
    | file old before => exact ⟨_, rfl⟩
    | directory before => cases hplace
    | link target => cases hplace

/-! ## The directory above -/

/-- The root directory is not listed. -/
def Rooted (t : FileTree) : Prop := t.node? [] = none

theorem rooted_empty : FileTree.empty.Rooted := rfl

/-- A directory that a walk may stand in: it and all above it are directories. -/
def Standing (t : FileTree) (dir : NodeName) : Prop :=
  ∀ above, above <+: dir → (t.directoryPlace above).IsDirectory

theorem standing_root (h : t.Rooted) : t.Standing [] := by
  intro above habove
  rw [List.prefix_nil.mp habove, directoryPlace, h]
  trivial

theorem Standing.dropLast {dir : NodeName} (h : t.Standing dir) : t.Standing dir.dropLast :=
  fun _ habove => h _ (habove.trans (List.dropLast_prefix dir))

theorem Standing.child {dir : NodeName} {c : String} {time : Double} (h : t.Standing dir)
    (hnode : t.node? (dir ++ [c]) = some (.directory time)) : t.Standing (dir ++ [c]) := by
  intro above habove
  rcases List.prefix_concat_iff.mp habove with rfl | habove
  · rw [directoryPlace, hnode]
    trivial
  · exact h above habove

/-- What a path leads to when a longer path leads somewhere: a directory, or a link where links
at the end are not followed. -/
def Place.IsPassage (followLast : Bool) (place : Place) : Prop :=
  place.IsDirectory ∨ followLast = false ∧ ∃ name target, place = .node name (.link target)

theorem Place.IsPassage.isDirectory {followLast : Bool} {place : Place}
    (h : place.IsPassage followLast) (hfollow : followLast = true) : place.IsDirectory := by
  rcases h with h | ⟨hno, _⟩
  · exact h
  · exact absurd (hfollow.symm.trans hno) (by decide)

/-- A walk along a path with one more component: it fails, or the shorter walk has arrived, or
both stop at the same link. -/
inductive OneMore (t : FileTree) (followLast : Bool) (last : String) : Walk → Walk → Prop where
  | failed (cause : FileErrorCause) (w : Walk) : OneMore t followLast last (.failed cause) w
  | arrived {place : Place} (h : place.IsPassage followLast) (w : Walk) :
      OneMore t followLast last w (.arrived place)
  | atLink {dir : NodeName} (h : t.Standing dir) (target : String) {rest : List String}
      (hgoes : rest = [] → followLast = true) :
      OneMore t followLast last (.atLink dir target (rest ++ [last])) (.atLink dir target rest)

theorem oneMore_walk {dir : NodeName} (hdir : t.Standing dir) (followLast : Bool) (last : String)
    (cs : List String) :
    OneMore t followLast last (t.walk true dir (cs ++ [last])) (t.walk followLast dir cs) := by
  induction cs generalizing dir with
  | nil => exact .arrived (Or.inl (hdir dir List.prefix_rfl)) _
  | cons c rest ih =>
    by_cases hup : c = ".."
    · subst hup
      exact ih hdir.dropLast
    rw [List.cons_append, walk_cons hup, walk_cons hup]
    split
    · exact .failed _ _
    cases hnode : t.node? (dir ++ [c]) with
    | none =>
      simp only [List.append_eq_nil_iff, List.cons_ne_self, and_false, if_false]
      exact .failed _ _
    | some n =>
      cases n with
      | file content time =>
        simp only [List.append_eq_nil_iff, List.cons_ne_self, and_false, if_false]
        exact .failed _ _
      | directory time => exact ih (hdir.child hnode)
      | link target =>
        simp only [not_true_eq_false, and_false, if_false]
        split
        · rename_i hend
          refine .arrived (Or.inr ⟨?_, dir ++ [c], target, rfl⟩) _
          simpa using hend.2
        · rename_i hgoes
          exact .atLink hdir target fun hend => by simpa [hend] using hgoes

theorem isPassage_walkLinks (hroot : t.Rooted) (followLast : Bool) {last : String} {place : Place}
    {budget : Nat} {dir : NodeName} (hdir : t.Standing dir) {cs : List String}
    (h : t.walkLinks true dir (cs ++ [last]) budget = .ok place) :
    ∃ above, t.walkLinks followLast dir cs budget = .ok above ∧ above.IsPassage followLast := by
  induction budget using Nat.strongRecOn generalizing dir cs with
  | _ budget ih =>
    have hmore := oneMore_walk hdir followLast last cs
    generalize hwalk : t.walk followLast dir cs = w' at hmore
    rcases walkLinks_eq_ok.mp h with hlong | ⟨left, stop, target, rest, rfl, hlong, h⟩
    · rw [hlong] at hmore
      cases hmore with
      | arrived habove => exact ⟨_, walkLinks_eq_ok.mpr (Or.inl hwalk), habove⟩
    · rw [hlong] at hmore
      cases hmore with
      | arrived habove => exact ⟨_, walkLinks_eq_ok.mpr (Or.inl hwalk), habove⟩
      | atLink hstand _ hgoes =>
        -- both go on from the link, the longer one still with one more component
        replace h := h.1
        rw [← List.append_assoc] at h
        have hstart : t.Standing (if Path.rootOf target = .relative then stop else []) := by
          split
          · exact hstand
          · exact standing_root hroot
        obtain ⟨above, habove, hpassage⟩ := ih left (Nat.lt_succ_self left) hstart h
        refine ⟨above, walkLinks_eq_ok.mpr (Or.inr ⟨_, _, _, _, rfl, hwalk, habove, ?_⟩), hpassage⟩
        exact fun hend _ => hpassage.isDirectory (hgoes hend)

theorem utf8ByteSize_intercalate_le (s last : String) (init : List String) :
    (s.intercalate init).utf8ByteSize ≤ (s.intercalate (init ++ [last])).utf8ByteSize := by
  cases init with
  | nil => simp
  | cons c rest =>
    rw [String.intercalate_append_of_ne_nil (by simp) (by simp), String.utf8ByteSize_append,
      String.utf8ByteSize_append]
    omega

/-- The path above another is not longer, but for the dot that the empty path is written as. -/
theorem utf8ByteSize_parent_text {p : Path} (hparts : p.parts ≠ []) :
    p.parent.text.utf8ByteSize ≤ max 1 p.text.utf8ByteSize := by
  have hsize := utf8ByteSize_intercalate_le "/" (p.parts.getLast hparts) p.parts.dropLast
  rw [List.dropLast_concat_getLast hparts] at hsize
  have htext : p.text = p.root.text ++ "/".intercalate p.parts := by
    rw [Path.text, if_neg (fun h => hparts h.2)]
  rw [htext, String.utf8ByteSize_append, Path.text]
  split
  · exact Nat.le_max_left 1 _
  · change (p.root.text ++ "/".intercalate p.parts.dropLast).utf8ByteSize ≤ _
    rw [String.utf8ByteSize_append]
    omega

theorem walkLinks_nil (followLast : Bool) (dir : NodeName) (budget : Nat) :
    t.walkLinks followLast dir [] budget = .ok (t.directoryPlace dir) := by
  cases budget <;> rfl

/-- The path above one that leads somewhere leads to a directory. -/
theorem isPassage_parent (hroot : t.Rooted) {p : Path} (hparts : p.parts ≠ []) {place : Place}
    (h : t.locate true p = .ok place) (followLast : Bool) :
    ∃ above, t.locate followLast p.parent = .ok above ∧ above.IsPassage followLast := by
  obtain ⟨hnull, hlong, hwalk⟩ := locate_eq_ok.mp h
  rw [← List.dropLast_concat_getLast hparts] at hwalk
  obtain ⟨above, habove, hpassage⟩ :=
    isPassage_walkLinks hroot followLast (standing_root hroot) hwalk
  refine ⟨above, locate_eq_ok.mpr ⟨?_, ?_, habove⟩, hpassage⟩
  · rw [Path.hasNull, List.any_eq_false] at hnull ⊢
    exact fun c hc => hnull c (List.dropLast_subset _ hc)
  · have hsize := utf8ByteSize_parent_text hparts
    unfold maxPath at hlong ⊢
    omega

theorem isDirectory_of_locate {p : Path} {place : Place} (h : t.locate true p = .ok place)
    (hplace : place.IsDirectory) : t.isDirectory p = .ok true := by
  rw [isDirectory, stat, h]
  cases place with
  | root => rfl
  | free dir last => cases hplace
  | node name n =>
    cases n with
    | directory time => rfl
    | file content time => cases hplace
    | link target => cases hplace

theorem makeDirectory_of_passage {p : Path} {place : Place} (time : Double)
    (h : t.locate false p = .ok place) (hplace : place.IsPassage false) :
    t.makeDirectory time p = .error (failure .alreadyExists p) := by
  rw [makeDirectory, h]
  cases place with
  | root => rfl
  | node name n => rfl
  | free dir last =>
    rcases hplace with hplace | ⟨_, _, _, hplace⟩ <;> cases hplace

/-- Making a directory that is there changes nothing. -/
theorem makeDirectories_of_passage {p : Path} {place : Place} (time : Double)
    (h : t.locate false p = .ok place) (hplace : place.IsPassage false)
    (hthere : t.isDirectory p = .ok true) : t.makeDirectories time p = (.ok (), t) := by
  have hmake := makeDirectory_of_passage time h hplace
  have haccept : t.acceptDirectory p (failure .alreadyExists p) = .ok () := by
    rw [failure, acceptDirectory, hthere]
  have hparts : p = ⟨p.root, p.parts.reverse.reverse⟩ := by
    rw [List.reverse_reverse]
  rw [makeDirectories]
  rw [hparts] at hmake haccept
  cases hrev : p.parts.reverse with
  | nil =>
    rw [hrev, List.reverse_nil] at hmake haccept
    rw [makeDirectoriesAt, hmake]
    simp only [haccept]
  | cons last before =>
    rw [hrev] at hmake haccept
    rw [makeDirectoriesAt, hmake]
    simp only [haccept]
    rfl

/-- **Where a path leads anywhere, making the directory above it changes nothing.** -/
theorem makeDirectories_parent (hroot : t.Rooted) {p : Path} (hparts : p.parts ≠ [])
    {place : Place} (h : t.locate true p = .ok place) (time : Double) :
    t.makeDirectories time p.parent = (.ok (), t) := by
  obtain ⟨above, habove, hpassage⟩ := isPassage_parent hroot hparts h false
  obtain ⟨dir, hdir, hisDir⟩ := isPassage_parent hroot hparts h true
  refine makeDirectories_of_passage time habove hpassage ?_
  rcases hisDir with hisDir | ⟨hno, _⟩
  · exact isDirectory_of_locate hdir hisDir
  · cases hno

end FileTree

end Baseline
