import Baseline.Number.Layout
import Baseline.Text.Quoted

/-!
# Failures of the file system

What can go wrong when a path is followed, and the text that reports it.
-/

set_option autoImplicit false

namespace Baseline

/-- Why an operation on files is refused. -/
inductive FileErrorCause where
  | noEntry
  | alreadyExists
  | notDirectory
  | isDirectory
  | nameTooLong
  | linkLoop
deriving DecidableEq, Repr

namespace FileErrorCause

/-- The number of the cause. -/
def code : FileErrorCause → Nat
  | noEntry => 2
  | alreadyExists => 17
  | notDirectory => 20
  | isDirectory => 21
  | nameTooLong => 36
  | linkLoop => 40

/-- The wording of the cause. -/
def wording : FileErrorCause → String
  | noEntry => "No such file or directory"
  | alreadyExists => "File exists"
  | notDirectory => "Not a directory"
  | isDirectory => "Is a directory"
  | nameTooLong => "File name too long"
  | linkLoop => "Too many levels of symbolic links"

end FileErrorCause

/-- A refused operation: its cause, the path as it was given, and for a link the path at which
it was to be made. -/
structure FileError where
  cause : FileErrorCause
  path : String
  link : Option String := none
deriving DecidableEq, Repr

namespace FileError

/-- The report of a refused operation. -/
def message (e : FileError) : String :=
  "[Errno " ++ String.ofList (natChars e.cause.code) ++ "] " ++ e.cause.wording ++ ": " ++
    Text.quoted e.path ++
    (match e.link with
      | some made => " -> " ++ Text.quoted made
      | none => "")

end FileError

end Baseline
