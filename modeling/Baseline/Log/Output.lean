import Baseline.Log.Line
import Baseline.Log.Tree

/-!
# Where log records go

All loggers of the collector have names that begin with that of one root logger.  Setting up the
logging gives the root logger a level and at most one output.  A record goes to the outputs of its
logger and of those above; where there are none, warnings and worse are shown all the same.

* `loggerNamed` : the full name of a logger.
* `Logging.configure` : sets up the logging, and `Logging.setUp` does so at the start.
* `Logging.written` : what a record gives.
-/

set_option autoImplicit false

namespace Baseline

/-- The name of the root logger. -/
def rootLogger : String := "collector_sdk"

/-- The full name of a logger: a name that begins with that of the root logger stays, others are put
below it. -/
def loggerNamed (name : String) : String :=
  if rootLogger.toList.isPrefixOf name.toList then name else rootLogger ++ "." ++ name

/-! ## Levels -/

/-- The capitals of a character, as far as they are letters of level names. -/
def levelCapitals (c : Char) : List Char :=
  if c = 'ı' then ['I']
  else if c = 'ſ' then ['S']
  else if c = 'ﬅ' ∨ c = 'ﬆ' then ['S', 'T']
  else [c.toUpper]

/-- What a word in capitals means where a level is expected: mostly a level, but two words name
other things. -/
inductive LevelWord where
  | level (l : Level)
  | template (text : String)
  | styles (shown : String)

/-- The words that mean something, in capitals. -/
def levelWordTable : List (String × LevelWord) := [
  ("NOTSET", .level 0), ("DEBUG", .level Level.debug), ("INFO", .level Level.info),
  ("WARN", .level Level.warning), ("WARNING", .level Level.warning),
  ("ERROR", .level Level.error), ("CRITICAL", .level Level.critical),
  ("FATAL", .level Level.critical),
  ("BASIC_FORMAT", .template "%(levelname)s:%(name)s:%(message)s"),
  ("_STYLES", .styles
    ("\x7b'%': (<class 'logging.PercentStyle'>, '%(levelname)s:%(name)s:%(message)s'), " ++
      "'\x7b': (<class 'logging.StrFormatStyle'>, " ++
      "'\x7blevelname\x7d:\x7bname\x7d:\x7bmessage\x7d'), " ++
      "'$': (<class 'logging.StringTemplateStyle'>, " ++
      "'$\x7blevelname\x7d:$\x7bname\x7d:$\x7bmessage\x7d')\x7d"))]

/-- The level with a name in any letter case; an unknown name means `info`. -/
def levelNamed (name : String) : Except Fault Level :=
  match Table.get? (String.ofList (name.toList.flatMap levelCapitals)) levelWordTable with
  | some (.level l) => .ok l
  | some (.template text) => .error (.unknownLevel (Text.quoted text))
  | some (.styles shown) => .error (.levelNotNumber shown)
  | none => .ok Level.info

/-! ## Set-up -/

/-- Gives a logger a level, and an output in place of those it has; its records go no further. -/
def Logger.configured (l : Logger) (level : Level) (form : Option LineForm) : Logger :=
  let l := { l with level := level, outputs := [] }
  let l := match form with
    | some form => { l with outputs := l.outputs ++ [LogOutput.mk level form] }
    | none => l
  { l with passesOn := false }

namespace Logging

/-- The form of the lines, if there is an output at all. -/
def formOf (json toStderr : Bool) : Option LineForm :=
  if toStderr then some (if json then .json else .plain) else none

/-- Sets up the root logger.  A word that means no level leaves it as it is. -/
def configure (c : Logging) (level : String) (json toStderr : Bool) :
    Except Fault Unit × Logging :=
  let c := c.ask rootLogger
  match levelNamed level with
  | .error f => (.error f, c)
  | .ok level => (.ok (), c.change rootLogger (·.configured level (formOf json toStderr)))

/-- The logging that is set up once. -/
def setUp (level : String) (json toStderr : Bool) : Except Fault Logging :=
  match start.configure level json toStderr with
  | (.error f, _) => .error f
  | (.ok (), c) => .ok c

/-- The level of the root logger. -/
def level (c : Logging) : Level := (c.logger rootLogger).level

/-- The form of the root logger's output, if it has one. -/
def output (c : Logging) : Option LineForm :=
  (c.logger rootLogger).outputs.head?.map (·.form)

/-! ## Records -/

/-- The names that the fields of a record must not have. -/
def takenFields : List String :=
  "asctime" :: LogEvent.ownFields.filter (· ≠ "taskName")

/-- The line of a record in a form. -/
def formatted (now : Moment) (e : LogEvent) : LineForm → Except Fault String
  | .json => e.jsonLine now
  | .plain => e.plainLine now

/-- What a record gives for which there is no output. -/
def lastResort (e : LogEvent) : Except Fault (List String) :=
  if Level.warning ≤ e.level then e.bareLine.map fun line => [line] else .ok []

/-- What a record gives: a line for each output that takes it, or the fault that stands in the way
of one. -/
def written (c : Logging) (now : Moment) (e : LogEvent) : Except Fault (List String) :=
  if !c.considers e.logger e.level then .ok []
  else
    match e.fields.find? fun f => takenFields.contains f.1 with
    | some f => .error (.reservedField f.1)
    | none =>
      match c.outputsAlong (c.lineage e.logger) with
      | [] => lastResort e
      | outputs => (outputs.filter (·.level ≤ e.level)).mapM fun o => formatted now e o.form

/-- The lines that a record gives. -/
def lines (c : Logging) (now : Moment) (r : LogRecord) : Except Fault (List String) :=
  c.written now r.event

/-- The lines that records give one after the other, each through a logger that is asked for. -/
def linesOf (c : Logging) (now : Moment) : List LogRecord → Except Fault (List String)
  | [] => .ok []
  | r :: rest => do
    let c := c.ask r.logger
    let first ← c.lines now r
    let more ← c.linesOf now rest
    return first ++ more

end Logging

end Baseline
