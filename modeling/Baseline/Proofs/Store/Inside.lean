import Baseline.Proofs.FileTree.Course
import Baseline.Proofs.Store.Naming
import Baseline.Proofs.Store.Opening

/-!
# Whether store files stay under their base directory

The path of a store file continues the base directory by a text that is made of the names of the
integration and the instance, and those may hold slashes and double dots.

* `StoreFile.KeepsWithin` : opening and saving a store change nothing outside a directory.
* `StoreFile.keepsWithin_join` : **so does the store of a text that never goes up too far.**
* `storeFile_inside_iff` : **which names give a store file under the base directory.**
* `storeFile_inside_of_noSlash` : names without slashes do.
* `filePath_escapes` : a name with which a store is saved outside.
-/

set_option autoImplicit false

namespace Baseline

/-! ## Opening and saving -/

namespace FileTree

variable {t t' : FileTree}

/-- A directory of which only the time has changed. -/
def TimeChanged (t t' : FileTree) (name : NodeName) : Prop :=
  ∃ a b, t.node? name = some (.directory a) ∧ t'.node? name = some (.directory b)

/-- A directory to which a path leads, or one above that path. -/
def OnTheWay (t : FileTree) (base : Path) (name : NodeName) : Prop :=
  ∃ init, init <+: base.parts ∧ t.directoryName? ⟨base.root, init⟩ = some name

/-- A prefix of a longer path is one of the shorter path, or goes on beyond that. -/
theorem prefix_append_cases {init parts more : List String} (h : init <+: parts ++ more) :
    init <+: parts ∨ ∃ beyond, beyond ≠ [] ∧ beyond <+: more ∧ init = parts ++ beyond := by
  obtain ⟨rest, heq⟩ := h
  rcases List.append_eq_append_iff.mp heq with ⟨left, rfl, _⟩ | ⟨beyond, rfl, rfl⟩
  · exact Or.inl (List.prefix_append init left)
  · by_cases hnil : beyond = []
    · rw [hnil, List.append_nil]
      exact Or.inl List.prefix_rfl
    · exact Or.inr ⟨beyond, hnil, List.prefix_append beyond rest, rfl⟩

/-- **Directories that are made on the way to something below a path are on the way to that path,
or below it.** -/
theorem MadeOnTheWay.within {base : Path} {more : List String}
    (h : MadeOnTheWay ⟨base.root, base.parts ++ more⟩ t t') (hup : (Course.of more).up = 0)
    (hroot : t'.Rooted) (hlinks : t'.NoLinkBelow base) {name : NodeName}
    (hchanged : t'.node? name ≠ t.node? name) :
    TimeChanged t t' name ∨ t.node? name = none ∧
      (∃ time, t'.node? name = some (.directory time)) ∧
        (t'.OnTheWay base name ∨ t'.Below base name) := by
  cases hbefore : t.node? name with
  | some n =>
    rcases h.kept hbefore with hsame | ⟨a, b, rfl, hb⟩
    · exact absurd (hsame.trans hbefore.symm) hchanged
    · exact Or.inl ⟨a, b, hbefore, hb⟩
  | none =>
    cases hafter : t'.node? name with
    | none => exact absurd (hafter.trans hbefore.symm) hchanged
    | some n =>
      obtain ⟨init, time, hinit, rfl, hloc⟩ := h.made hbefore hafter
      refine Or.inr ⟨rfl, ⟨time, rfl⟩, ?_⟩
      rcases prefix_append_cases hinit with hinit | ⟨beyond, hne, hbeyond, rfl⟩
      · exact Or.inl ⟨init, hinit, directoryName?_of_named (locate_followLast hloc) rfl⟩
      · obtain ⟨D, hbase, hname⟩ :=
          locate_below hroot hlinks hne (Course.up_eq_zero_of_prefix hbeyond hup) hloc
        -- a path that comes back to the base directory leads there
        by_cases hdown : (Course.of beyond).down = []
        · rw [hdown, List.append_nil] at hname
          cases hname
          exact Or.inl ⟨base.parts, List.prefix_rfl, hbase⟩
        · exact Or.inr ⟨D, _, hbase, hdown, hname⟩

theorem Place.IsFileAt.isAt {place : Place} {name other : NodeName} (h : place.IsFileAt name)
    (hat : place.IsAt other) : name = other := by
  cases place with
  | root => cases h
  | free directory last => exact Eq.trans (Eq.symm h) hat
  | node there n =>
    cases n with
    | file content time => exact Eq.trans (Eq.symm h) hat
    | directory time => cases h
    | link target => cases h

/-- **What is written at a path below another is below that.** -/
theorem WrittenAt.within {base : Path} {more : List String} {name : NodeName} {node : FileNode}
    (hw : WrittenAt t t' name node) {place : Place}
    (hloc : t.locate true ⟨base.root, base.parts ++ more⟩ = .ok place)
    (hplace : place.IsFileAt name) (hup : (Course.of more).up = 0)
    (hdown : (Course.of more).down ≠ []) (hroot : t.Rooted) (hlinks : t.NoLinkBelow base)
    {other : NodeName} (hchanged : t'.node? other ≠ t.node? other) :
    TimeChanged t t' other ∨ t.Below base other := by
  by_cases hother : other = name
  · have hmore : more ≠ [] := by
      rintro rfl
      exact hdown rfl
    obtain ⟨D, hbase, hname⟩ := locate_below hroot hlinks hmore hup hloc
    exact Or.inr ⟨D, _, hbase, hdown, hother.trans (hplace.isAt hname)⟩
  · rcases hw.others other hother with hsame | htime
    · exact absurd hsame hchanged
    · exact Or.inl htime

end FileTree

namespace StoreFile

open FileTree

/-- Whether opening and saving a store change nothing outside a directory below which no link
stands, but for the times of directories, and for directories that are made on the way there. -/
structure KeepsWithin (f : StoreFile) (base : Path) : Prop where
  opens : ∀ {t : FileTree} {time now : Double} {name : NodeName}, t.Rooted →
    (f.openStore t time now).tree.NoLinkBelow base →
    (f.openStore t time now).tree.node? name ≠ t.node? name →
    TimeChanged t (f.openStore t time now).tree name ∨ t.node? name = none ∧
      (∃ made, (f.openStore t time now).tree.node? name = some (.directory made)) ∧
        ((f.openStore t time now).tree.OnTheWay base name ∨
          (f.openStore t time now).tree.Below base name)
  saves : ∀ {t : FileTree} {time : Double} {s : Store} {name : NodeName}, t.Rooted →
    t.NoLinkBelow base → (f.save t time s).tree.node? name ≠ t.node? name →
    TimeChanged t (f.save t time s).tree name ∨ t.Below base name

/-- A path continued by a text that leads below it. -/
theorem join_of_descends {s : String} (h : Path.Descends s) (base : Path) :
    base.join s = ⟨base.root, base.parts ++ Path.components s⟩ := by
  unfold Path.join
  rw [if_pos (show (Path.ofText s).root = .relative from h.relative)]
  rfl

/-- **The store of a text that never goes up too far keeps within the directory.** -/
theorem keepsWithin_join {s : String} (h : Path.Descends s) (base : Path) (ttl : Value) :
    KeepsWithin ⟨base.join s, ttl⟩ base where
  opens := by
    intro t time now name hroot hlinks hchanged
    rw [openStore_tree] at hlinks hchanged ⊢
    have hcomponents : Path.components s ≠ [] := by
      intro hnil
      have hdown := h.down
      rw [hnil] at hdown
      exact hdown rfl
    have hparent : (base.join s).parent =
        ⟨base.root, base.parts ++ (Path.components s).dropLast⟩ := by
      rw [join_of_descends h, Path.parent, List.dropLast_append_of_ne_nil hcomponents]
    have hmade := t.makeDirectories_onTheWay time (base.join s).parent
    have hroot' := rooted_makeDirectories hroot time (base.join s).parent
    rw [hparent] at hmade hlinks hchanged hroot' ⊢
    exact hmade.within (Course.up_eq_zero_of_prefix (List.dropLast_prefix _) h.up) hroot' hlinks
      hchanged
  saves := by
    intro t time content name hroot hlinks hchanged
    unfold save at hchanged ⊢
    cases hwrite : t.write time (base.join s) (Text.encodeUtf8 content.snapshot.toText) with
    | error fault =>
      rw [hwrite] at hchanged
      cases fault <;> exact absurd rfl hchanged
    | ok left =>
      rw [hwrite] at hchanged
      obtain ⟨place, written, hloc, hplace, hw⟩ := writtenAt_write hwrite
      rw [join_of_descends h] at hloc
      exact hw.within hloc hplace h.up h.down hroot hlinks hchanged

end StoreFile

/-! ## Store files -/

section Located

variable {w : Surroundings} {name id m : String} {dir : Option String} {ttl : Value}
  {l : StoreLocation} {p : Path}

open StoreLocation

/-- **Which names give a store file under the base directory.**  The file of an instance, and that of
an integration without instances, is under the base directory when nothing is looked up exactly when
the text of the file name leads the base directory below itself.  Where it never goes up too far,
opening and saving the store change nothing outside either. -/
theorem storeFile_inside_iff (hmake : make w name id dir ttl = .ok l)
    (hdefault : w.defaultPath m dir = .ok p) :
    (l.filePath.Inside (w.baseDirectory dir) ↔
        (w.baseDirectory dir).ComesBack (fileName name id)) ∧
      (p.Inside (w.baseDirectory dir) ↔ (w.baseDirectory dir).ComesBack (m ++ ".json")) ∧
      (Path.Descends (fileName name id) → ∀ trust,
        StoreFile.KeepsWithin ⟨l.filePath, trust⟩ (w.baseDirectory dir)) ∧
      (Path.Descends (m ++ ".json") → ∀ trust,
        StoreFile.KeepsWithin ⟨p, trust⟩ (w.baseDirectory dir)) := by
  obtain rfl := make_eq_ok hmake
  obtain rfl := Surroundings.defaultPath_eq_ok hdefault
  exact ⟨Path.inside_join_iff _ _, Path.inside_join_iff _ _,
    fun h trust => StoreFile.keepsWithin_join h _ trust,
    fun h trust => StoreFile.keepsWithin_join h _ trust⟩

/-- A file name without slashes is a component of its own. -/
theorem descends_extension {stem : String} (h : '/' ∉ stem.toList) :
    Path.Descends (stem ++ ".json") := by
  have hextension : 'j' ∈ (stem ++ ".json").toList := by simp
  refine Path.descends_of_noSlash ?_ (ne_of_mem_toList hextension (by decide))
    (ne_of_mem_toList hextension (by decide)) (ne_of_mem_toList hextension (by decide))
  rw [String.toList_append, List.mem_append, not_or]
  exact ⟨h, by decide⟩

/-- **Names without slashes give store files under the base directory**, whatever that is, and
opening and saving them changes nothing outside. -/
theorem storeFile_inside_of_noSlash (hmake : make w name id dir ttl = .ok l)
    (hdefault : w.defaultPath m dir = .ok p) (hname : '/' ∉ name.toList) (hid : '/' ∉ id.toList)
    (hm : '/' ∉ m.toList) :
    l.filePath.Inside (w.baseDirectory dir) ∧ p.Inside (w.baseDirectory dir) ∧
      (∀ trust, StoreFile.KeepsWithin ⟨l.filePath, trust⟩ (w.baseDirectory dir)) ∧
      ∀ trust, StoreFile.KeepsWithin ⟨p, trust⟩ (w.baseDirectory dir) := by
  have hstem : '/' ∉ (name ++ "-" ++ id).toList := by
    simp only [String.toList_append, List.mem_append, not_or]
    exact ⟨⟨hname, by decide⟩, hid⟩
  have hinstance : Path.Descends (fileName name id) := descends_extension hstem
  have hsingle : Path.Descends (m ++ ".json") := descends_extension hm
  obtain rfl := make_eq_ok hmake
  obtain rfl := Surroundings.defaultPath_eq_ok hdefault
  exact ⟨(Path.inside_join_iff _ _).mpr (hinstance.comesBack _),
    (Path.inside_join_iff _ _).mpr (hsingle.comesBack _),
    fun trust => StoreFile.keepsWithin_join hinstance _ trust,
    fun trust => StoreFile.keepsWithin_join hsingle _ trust⟩

end Located

/-! ### A name that begins with a double dot -/

namespace Escaping

def surroundings : Surroundings := ⟨[], ⟨.root, ["tmp"]⟩⟩

/-- The location of an instance of an integration whose name leads up. -/
def location : StoreLocation := ⟨⟨.root, ["base"]⟩, "../x", "a", .int 60⟩

/-- The tree with the base directory. -/
def tree : FileTree := ⟨[(["base"], .directory (.ofWhole 1000))]⟩

theorem make_location :
    StoreLocation.make surroundings "../x" "a" (some "/base") (.int 60) = .ok location := by
  rfl

theorem defaultPath_dots :
    surroundings.defaultPath "a/../b" (some "/base") =
      .ok ⟨.root, ["base", "a", "..", "b.json"]⟩ := by
  rfl

theorem not_comesBack :
    ¬ Path.ComesBack ⟨.root, ["base"]⟩ (StoreLocation.fileName "../x" "a") := by
  unfold Path.ComesBack
  rw [if_pos (by decide)]
  rintro ⟨_, rest, _, hdown⟩
  have hcourse : (Course.of (Path.components (StoreLocation.fileName "../x" "a"))) =
      ⟨1, ["x-a.json"]⟩ := by decide +kernel
  rw [hcourse] at hdown
  have hfirst : some "x-a.json" = some "base" := congrArg List.head? hdown
  exact absurd hfirst (by decide)

end Escaping

open Escaping in
/-- One name goes up from the base directory, and one goes up from a directory below. -/
theorem storeFile_inside_iff_dots :
    StoreLocation.make surroundings "../x" "a" (some "/base") (.int 60) = .ok location ∧
      surroundings.defaultPath "a/../b" (some "/base") =
        .ok ⟨.root, ["base", "a", "..", "b.json"]⟩ ∧
      ¬ location.filePath.Inside ⟨.root, ["base"]⟩ ∧
      Path.Inside ⟨.root, ["base", "a", "..", "b.json"]⟩ ⟨.root, ["base"]⟩ ∧
      StoreFile.KeepsWithin ⟨⟨.root, ["base", "a", "..", "b.json"]⟩, .int 60⟩
        ⟨.root, ["base"]⟩ := by
  have hdescends : Path.Descends ("a/../b" ++ ".json") :=
    ⟨by decide, by decide +kernel, by decide +kernel⟩
  obtain ⟨hinstance, hdefault, _, hkeeps⟩ := storeFile_inside_iff make_location defaultPath_dots
  exact ⟨make_location, defaultPath_dots, fun h => not_comesBack (hinstance.mp h),
    hdefault.mpr (hdescends.comesBack _), hkeeps hdescends (.int 60)⟩

open Escaping in
/-- **A store that is saved outside**: its path is not under the base directory, and saving makes a
file beside that. -/
theorem filePath_escapes :
    StoreLocation.make surroundings "../x" "a" (some "/base") (.int 60) = .ok location ∧
      ¬ location.filePath.Inside (surroundings.baseDirectory (some "/base")) ∧
      tree.node? ["x-a.json"] = none ∧
      ((StoreFile.save tree (.ofWhole 1000) ⟨location.filePath, .int 60⟩ .empty).tree.node?
        ["x-a.json"]).isSome = true :=
  ⟨make_location, fun h => not_comesBack ((Path.inside_join_iff _ _).mp h), rfl,
    by decide +kernel⟩

end Baseline
