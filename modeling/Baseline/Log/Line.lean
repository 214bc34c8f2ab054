import Baseline.Calendar
import Baseline.Json.Basic
import Baseline.Log.Record
import Baseline.Log.Template
import Baseline.Table

/-!
# Log lines

A record is written as one line: a JSON object that holds its named fields beside the fixed
ones, or plain text without them.

* `LogEvent` : what is written about one record.
* `LogEvent.json` : the object, and `LogEvent.jsonLine` its text.
* `LogEvent.plainLine` : the plain form, and `LogEvent.bareLine` the message alone.
-/

set_option autoImplicit false

namespace Baseline

/-- The name of a level; a level without a name of its own shows its number. -/
def Level.label (l : Level) : String :=
  if l = 0 then "NOTSET"
  else if l = Level.debug then "DEBUG"
  else if l = Level.info then "INFO"
  else if l = Level.warning then "WARNING"
  else if l = Level.error then "ERROR"
  else if l = Level.critical then "CRITICAL"
  else "Level " ++ String.ofList (intChars l)

/-- An exception as a record reports it. -/
structure ReportedException where
  name : String
  text : String

/-- What is written about one record.  Named fields may stand in for the logger, the level and
the message with its arguments. -/
structure LogEvent where
  logger : String
  level : Level
  message : Value
  arguments : List Value
  fields : Table Value
  exception : Option ReportedException
  /-- What else a record has of its own, such as the place, the time and the process it is from. -/
  origin : Table Value

/-- What is written about a record with a fixed message. -/
def LogRecord.event (r : LogRecord) : LogEvent :=
  ⟨r.logger, r.level, .text r.message, [], Table.ofRows r.fields, none, []⟩

namespace LogEvent

/-- The names of fields that describe the record itself and are not passed on. -/
def ownFields : List String := [
  "name", "msg", "args", "created", "filename", "funcName", "levelname", "levelno", "lineno",
  "module", "msecs", "pathname", "process", "processName", "relativeCreated", "stack_info",
  "exc_info", "exc_text", "thread", "threadName", "taskName", "message"]

/-- The line that reports an exception; the key that was not found is shown quoted. -/
def exceptionText (e : ReportedException) : String :=
  let text := if e.name = "KeyError" then Text.quoted e.text else e.text
  if text = "" then e.name else e.name ++ ": " ++ text

/-- Several arguments are taken in order; a single map that is not empty is asked by name. -/
def supply : List Value → Template.Supply
  | [.map (e :: es)] => .ofValue (.map (e :: es))
  | vs => .items vs

/-- The arguments of the message, if there are any. -/
def supply? (e : LogEvent) : Option Template.Supply :=
  match e.fields.get? "args" with
  | some (.list vs) => if vs.isEmpty then none else some (.ofValue (.list vs))
  | some v => if v.isTruthy then some (.ofValue v) else none
  | none => if e.arguments.isEmpty then none else some (supply e.arguments)

/-- The message with its arguments filled in.  A field that takes the place of the filling itself
leaves no message. -/
def messageText (e : LogEvent) : Except Fault String :=
  match e.fields.get? "getMessage" with
  | some v => .error (.notCallable v.fullTypeName)
  | none => do
    let template ← ((e.fields.get? "msg").getD e.message).plain
    match e.supply? with
    | some s => Template.fill template s
    | none => return template

/-! ## Exceptions -/

/-- The part of a value at a position. -/
def partAt (position : Nat) : Value → Except Fault Value
  | .list xs => (xs[position]?.map .ok).getD (.error (.outOfRange "list index out of range"))
  | .text s => charAt s
  | .kind k => charAt k.label
  | .bytes bs =>
    (bs[position]?.map fun b => .ok (.int b.toNat)).getD (.error (.outOfRange "index out of range"))
  | .map es =>
    ((Entries.get? (.int position) es).map .ok).getD
      (.error (.missingKey (String.ofList (natChars position))))
  | v => .error (.notSubscriptable v.fullTypeName)
where
  charAt (s : String) : Except Fault Value :=
    (s.toList[position]?.map fun c => .ok (.text (String.singleton c))).getD (.error .emptyText)

/-- The report that a value gives in the place of an exception: its parts are a class, the exception
and a trace, and only their absence can be reported. -/
def standInText (v : Value) : Except Fault String := do
  let trace ← partAt 2 v
  let _ ← partAt 0 v
  let exception ← partAt 1 v
  match trace, exception with
  | .null, .null => return "NoneType: None"
  | .null, other => throw (.noMember other.fullTypeName "__suppress_context__")
  | other, _ => throw (.noMember other.fullTypeName "tb_frame")

/-- The report of the record's own exception, if it has one. -/
def ownReport (e : LogEvent) : Option String := e.exception.map exceptionText

/-- The report of an exception, if the record has one.  A field may take its place. -/
def reportText? (e : LogEvent) : Except Fault (Option String) :=
  match e.fields.get? "exc_info" with
  | some v => if v.isTruthy then (standInText v).map some else .ok none
  | none => .ok e.ownReport

/-! ## JSON -/

/-- Log lines are spaced, in ASCII only, and keep numbers that are not finite as words. -/
def style : Json.Style where
  comma := ", "
  colon := ": "
  asciiOnly := true
  numbers := { Value.numberLayout with
    nan := "NaN", infinity := "Infinity", minusInfinity := "-Infinity" }

/-- The name of an entry.  A number names by its text, and what JSON has no text for names
nothing. -/
def entryName : Value → Except Fault String
  | .null => .ok "null"
  | .bool b => .ok (if b then "true" else "false")
  | .int n => Value.intText n
  | .float x => .ok (String.ofList (style.numbers.render x))
  | .text s => .ok s
  | .kind k => .ok k.label
  | v => .error (.unnamable v.fullTypeName)

mutual

/-- A value as a document; what JSON cannot hold is written as plain text. -/
def document : Value → Except Fault Json
  | .null => .ok .null
  | .bool b => .ok (.bool b)
  | .int n => do
    let _ ← Value.intText n
    return .int n
  | .float x => .ok (.float x)
  | .text s => .ok (.string s)
  | .kind k => .ok (.string k.label)
  | .list xs => do
    let items ← documents xs
    return .array items
  | .map es => do
    let fields ← documentFields es
    return .object fields
  | v => do
    let s ← v.plain
    return .string s

/-- The items of a list as documents. -/
def documents : List Value → Except Fault (List Json)
  | [] => .ok []
  | v :: rest => do
    let j ← document v
    let js ← documents rest
    return j :: js

/-- The entries of a map as fields. -/
def documentFields : List (Value × Value) → Except Fault (List (String × Json))
  | [] => .ok []
  | (k, v) :: rest => do
    let name ← entryName k
    let j ← document v
    let fields ← documentFields rest
    return (name, j) :: fields

end

/-- The fixed fields of the object that is written about a record. -/
def header (now : Moment) (e : LogEvent) (message : String) (report : Option String) :
    Table Value := [
  ("timestamp", .text now.iso),
  ("level", (e.fields.get? "levelname").getD (.text e.level.label)),
  ("logger", (e.fields.get? "name").getD (.text e.logger)),
  ("message", .text message)] ++ (report.map fun text => ("exception", .text text)).toList

/-- The arguments of the message as the record has them. -/
def argumentValue : List Value → Value
  | [.map (e :: es)] => .map (e :: es)
  | vs => .list vs

/-- All that a record has: what it is made of, and its named fields put into that. -/
def attributes (e : LogEvent) : Table Value :=
  e.fields.foldl (fun t f => t.put f.1 f.2) ([
    ("name", .text e.logger), ("msg", e.message), ("args", argumentValue e.arguments),
    ("levelname", .text e.level.label), ("levelno", .int e.level)] ++ e.origin)

/-- What a record gives when it is asked for one of its fields.  Three names are answered by what
every record has of its own: its class, the references to it, of which there are none, and the table
of all that it has. -/
def answer (all : Table Value) (name : String) (v : Value) : Value :=
  if name = "__class__" then .text "<class 'logging.LogRecord'>"
  else if name = "__weakref__" then .null
  else if name = "__dict__" then .ofFields all
  else v

/-- What a named field adds to the object: nothing if it describes the record itself or is
absent. -/
def addition? (all : Table Value) (name : String) (v : Value) : Option Value :=
  match answer all name v with
  | .null => none
  | w => if ownFields.contains name then none else some w

/-- The object with what a named field adds. -/
def addField (all t : Table Value) (f : String × Value) : Table Value :=
  match addition? all f.1 f.2 with
  | some v => t.put f.1 v
  | none => t

/-- The fields of the object that is written about a record: the fixed ones, and the named ones. -/
def jsonFields (now : Moment) (e : LogEvent) : Except Fault (Table Value) := do
  let message ← e.messageText
  let report ← e.reportText?
  return e.fields.foldl (addField e.attributes) (e.header now message report)

/-- The object that is written about a record. -/
def json (now : Moment) (e : LogEvent) : Except Fault Json := do
  let fields ← e.jsonFields now
  document (.ofFields fields)

/-- The JSON line of a record. -/
def jsonLine (now : Moment) (e : LogEvent) : Except Fault String := do
  let j ← e.json now
  return j.render style

/-! ## Plain text -/

/-- What stands between the parts of a plain line. -/
def partSeparator : String := " - "

/-- A line with the report of an exception below it. -/
def withReport (line : String) (report : Option String) : String :=
  match report with
  | none => line
  | some text =>
    if text = "" then line
    else if line.toList.getLast? = some '\n' then line ++ text
    else line ++ "\n" ++ text

/-- The plain line of a record. -/
def plainLine (now : Moment) (e : LogEvent) : Except Fault String := do
  let message ← e.messageText
  let report ← e.reportText?
  let line := String.intercalate partSeparator [now.plain, e.logger, e.level.label, message]
  return withReport line report

/-- The line of a record for which there is no output: its message. -/
def bareLine (e : LogEvent) : Except Fault String := do
  let message ← e.messageText
  let report ← e.reportText?
  return withReport message report

end LogEvent

end Baseline
