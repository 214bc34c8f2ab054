import Baseline.Log.Record
import Baseline.Table

/-!
# The tree of loggers

A logger is made when it is first asked for.  The dots of its name tell where it hangs: below the
nearest of the loggers that there are whose name is its own, cut before a dot.

* `Logger` : the level and the outputs of a logger.
* `Logging.ask` : makes a logger, unless it is there.
* `Logging.lineage` : a logger and those above it.
* `Logging.threshold`, `Logging.outputsAlong` : what a logger has from those above it.
-/

set_option autoImplicit false

namespace Baseline

/-- The form of the lines. -/
inductive LineForm where
  | json
  | plain
deriving DecidableEq, Repr

/-- An output of a logger: from which level on it writes, and in which form. -/
structure LogOutput where
  level : Level
  form : LineForm
deriving DecidableEq, Repr

/-- A logger: its own level, if that is not 0, its outputs, and whether its records go on to the
outputs of the loggers above. -/
structure Logger where
  level : Level := 0
  outputs : List LogOutput := []
  passesOn : Bool := true
deriving DecidableEq, Repr

/-- The logging of a process: the loggers that were asked for.  Above them all stands one without a
name, which considers warnings and worse and has no output. -/
structure Logging where
  loggers : Table Logger
deriving DecidableEq, Repr

namespace Logging

/-- Before any logger was asked for. -/
def start : Logging := ⟨[]⟩

/-- Whether there is a logger with a name. -/
def has (c : Logging) (name : String) : Bool := (c.loggers.get? name).isSome

/-- The logger with a name; a new one has nothing of its own. -/
def logger (c : Logging) (name : String) : Logger := (c.loggers.get? name).getD {}

/-- Makes a logger, unless it is there. -/
def ask (c : Logging) (name : String) : Logging := ⟨c.loggers.put name (c.logger name)⟩

/-- Changes a logger. -/
def change (c : Logging) (name : String) (f : Logger → Logger) : Logging :=
  ⟨c.loggers.put name (f (c.logger name))⟩

/-- The loggers above a name, the nearest first; the name is given from its end.  Where there is no
logger with the name before a dot, the search goes on before the character that precedes the dot, so
that of two dots in a row only the later one is looked at. -/
def above (c : Logging) : List Char → List String
  | x :: y :: farther =>
    if x = '.' then
      let name := String.ofList (y :: farther).reverse
      if c.has name then name :: c.above (y :: farther) else c.above farther
    else c.above (y :: farther)
  | _ => []

/-- The names of a logger and of those above it, the nearest first. -/
def lineage (c : Logging) (name : String) : List String := name :: c.above name.toList.reverse

/-- The least level of the records that a logger considers: the nearest level that is given. -/
def threshold (c : Logging) (name : String) : Level :=
  (((c.lineage name).map fun n => (c.logger n).level).find? (· ≠ 0)).getD Level.warning

/-- Whether a record of a logger is considered at all.  The question is asked anew for every record;
no answer is remembered. -/
def considers (c : Logging) (name : String) (level : Level) : Bool :=
  decide (0 < level ∧ c.threshold name ≤ level)

/-- The outputs of loggers, up to the first that does not pass its records on. -/
def outputsAlong (c : Logging) : List String → List LogOutput
  | [] => []
  | name :: rest =>
    (c.logger name).outputs ++ if (c.logger name).passesOn then c.outputsAlong rest else []

end Logging

end Baseline
