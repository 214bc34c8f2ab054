import Baseline.FileTree.Text
import Baseline.Settings.Basic
import Baseline.Yaml.Content

/-!
# The settings file

* `readSettingsFile` : the value that a settings file holds.
* `Settings.load` : the settings of a process, from its settings file and its environment.
* `Settings.loadBy` : the same with another reader of the file and another coercion of the fields.
-/

set_option autoImplicit false

namespace Baseline

/-- The value of the settings file that a path leads to, for a reader of its text. -/
def readSettingsFileBy (markup : String → Except Fault Value) (tree : FileTree) (p : Path) :
    Except Fault Value := do
  if !(← tree.pathExists p) then throw (.configMissing p.text)
  markup (← tree.readText p)

/-- The value of the settings file that a path leads to; a file without content holds an empty
map. -/
def readSettingsFile (tree : FileTree) (p : Path) : Except Fault Value :=
  readSettingsFileBy Yaml.load tree p

/-- The settings of a process, for a reader of settings files and a coercion of the fields. -/
def Settings.loadBy (markup : String → Except Fault Value) (c : Coercion) (tree : FileTree)
    (file : Option Path) (lead : String) (env : Environment) : Except Failure Settings :=
  match file with
  | none => layered c none lead env
  | some p =>
    match readSettingsFileBy markup tree p with
    | .error f => .error (.fault f)
    | .ok v => layered c (some v) lead env

/-- The settings of a process: those of its settings file, if it names one, under those that
the variables with a prefix describe. -/
def Settings.load (tree : FileTree) (file : Option Path) (lead : String) (env : Environment) :
    Except Failure Settings :=
  loadBy Yaml.load .lax tree file lead env

end Baseline
