import Baseline.Yaml.Cursor

/-!
# YAML tokens

The pieces that a YAML text consists of.  Indentation shows as tokens that open and close
blocks.
-/

set_option autoImplicit false

namespace Baseline.Yaml

/-- A tag as it is written: a handle that stands for a longer text, if there is one, and the
rest. -/
structure TagName where
  handle : Option String
  suffix : String
deriving DecidableEq, Repr

/-- What a line that starts with a percent sign declares. -/
inductive Directive where
  | version (major minor : Nat)
  | handle (name meaning : String)
  | other
deriving DecidableEq, Repr

/-- A piece of a YAML text.  A scalar is `plain` when it stands without quotes. -/
inductive Token where
  | directive (d : Directive)
  | documentStart
  | documentEnd
  | sequenceBlock
  | mappingBlock
  | blockEnd
  | sequenceOpen
  | sequenceClose
  | mappingOpen
  | mappingClose
  | item
  | comma
  | key
  | value
  | reference (name : String)
  | anchor (name : String)
  | tag (t : TagName)
  | scalar (text : String) (plain : Bool)
deriving DecidableEq, Repr

end Baseline.Yaml
