import Baseline.FileTree.Basic
import Baseline.Text.Utf8

/-!
# Text files

* `FileTree.readText` : the text of a file in UTF-8.
-/

set_option autoImplicit false

namespace Baseline.FileTree

/-- The text of the file that a path leads to. -/
def readText (t : FileTree) (p : Path) : Except Fault String := do
  let bytes ← t.read p
  match Text.decodeUtf8? bytes with
  | some text => return text
  | none => throw (.badUtf8 (Text.undecodable bytes))

end Baseline.FileTree
