import BlockApp.Log.Level
import BlockApp.Report.Basic

/-!
# Log lines

An event is a line: what happened, which part of the program tells, and the values it is about. Values
that are bound are told with every event until they are cleared.

* `LogContext.add` lets the values that are added win, so no name is there twice.
* Values of some names have columns of their own, in the order of `columnNames`; the others follow, each
  with its name, in the order of their names.
* `traceLines` are lines after the first one: where the program was, and what was raised.
* `Log.lineOf` drops an event below the level that is asked for.
-/

namespace BlockApp

/-- Named values, no two of one name. -/
structure LogContext where
  entries : List (String × Value)
  deriving Repr

namespace LogContext

/-- No values. -/
def empty : LogContext := ⟨[]⟩

/-- The value of a name. -/
def get? (context : LogContext) (name : String) : Option Value := context.entries.lookup name

/-- The values with others, which win. -/
def add (context other : LogContext) : LogContext :=
  ⟨context.entries.filter (fun entry => !other.entries.any (·.1 == entry.1)) ++ other.entries⟩

/-- The values whose names are not among the given ones. -/
def without (context : LogContext) (names : List String) : LogContext :=
  ⟨context.entries.filter fun entry => !names.contains entry.1⟩

/-- The values in the order of their names. -/
def sorted (context : LogContext) : List (String × Value) :=
  context.entries.mergeSort fun a b => a.1 ≤ b.1

end LogContext

/-- An event. -/
structure LogEvent where
  level : LogLevel
  source : String
  message : String
  context : LogContext
  deriving Repr

/-- Why an event cannot be told. -/
inductive LogFault where
  /-- A value has the name of a part that every event has. -/
  | takenName (name : String)
  /-- A value that must be a text is none. -/
  | notText (name : String)
  /-- The record that an event comes from has no source. -/
  | noSource
  deriving Repr, DecidableEq

/-- The characters for which a text is quoted. -/
def quotedFor : List Char := [' ', '\t', '=', '\r', '\n', '"', '\'']

/-- A value in a log line. A text stands bare unless it would not be clear where it ends. -/
def Value.logged : Value → String
  | .text s => if s.toList.any (quotedFor.contains ·) then Text.quoted s else s
  | value => value.shown

/-- A text with blanks after it up to a width. -/
def padded (width : Nat) (text : String) : String :=
  text ++ String.ofList (List.replicate (width - text.length) ' ')

namespace LogEvent

/-- The width of the column of messages. -/
def messageWidth : Nat := 32

/-- The width of the column of levels, that of the longest name of one. -/
def levelWidth : Nat := 9

/-- The line that parts where the program was from what was raised. -/
def rule : String := String.ofList (List.replicate 79 '=')

/-- The names that no value of an event can have, as they are those of its parts. -/
def takenNames : List String := ["event", "self"]

/-- The further name that no value of an event can have that is told. -/
def takenWhenTold : String := "method_name"

/-- The names of values with columns of their own, in order. -/
def columnNames : List String := ["", "timestamp", "level", "event", "logger", "logger_name"]

/-- The names of values that are told after the line, or only say whether something is. -/
def traceNames : List String := ["stack", "exception", "exc_info", "stack_info"]

/-- The source that an event tells. One without a source is told by the root of all sources. -/
def shownSource (event : LogEvent) : String := if event.source = "" then "root" else event.source

/-- The text of a value that must be one, if the value is there. -/
def textOf? (values : LogContext) (name : String) : Except LogFault (Option String) :=
  match values.get? name with
  | none | some .nothing => .ok none
  | some (.text s) => .ok (some s)
  | some _ => .error (.notText name)

/-- The values of an event that is told, those that are bound among them. -/
def values (event : LogEvent) (bound : LogContext) : LogContext :=
  bound.add event.context |>.add
    ⟨[("event", .text event.message), ("logger", .text event.shownSource)]⟩

/-- The column of a value. -/
def column (name : String) (value : Value) : Except LogFault String :=
  match name, value with
  | "timestamp", value => .ok value.plain
  | "level", .text s => .ok s!"[{padded levelWidth s}]"
  | "level", _ => .error (.notText "level")
  | "event", value => .ok (padded messageWidth value.plain)
  | "logger", value | "logger_name", value => .ok s!"[{value.plain}]"
  | name, value => .ok s!"{name}={value.logged}"

/-- The columns of values, without those that are empty. -/
def columns (values : LogContext) : Except LogFault (List String) := do
  let placed := columnNames.filterMap fun name => (values.get? name).map (name, ·)
  let others := (values.without (columnNames ++ traceNames)).sorted
  return (← (placed ++ others).mapM fun (name, value) => column name value).filter (· ≠ "")

/-- The lines after that of an event. -/
def traceLines (values : LogContext) : Except LogFault (List String) := do
  let stack ← textOf? values "stack"
  let raised ← textOf? values "exception"
  let wasRaised := raised.isSome || ((values.get? "exc_info").map (·.isTrue)).getD false
  let parted := if stack.isSome && wasRaised then ["", rule, ""] else []
  return stack.toList ++ parted ++ raised.toList

/-- The line of an event, with values that are bound, and the lines after it. -/
def line (event : LogEvent) (bound : LogContext) : Except LogFault String := do
  let values := event.values bound
  match values.get? "_record" with
  | none | some .nothing => pure ()
  | some _ => throw .noSource
  let columns := " ".intercalate (← columns values)
  return "\n".intercalate (columns :: (← traceLines values))

end LogEvent

/-- What has been set up for logging: the least serious level that is told, and the values that are
bound. -/
structure Log where
  least : LogLevel
  bound : LogContext
  deriving Repr

namespace Log

/-- A log that tells events from a level on. -/
def ofLevel (least : LogLevel) : Log := ⟨least, .empty⟩

/-- Binds values. Those of the same name that were bound before are replaced. -/
def bind (log : Log) (context : LogContext) : Log := { log with bound := log.bound.add context }

/-- Clears the values that are bound. -/
def clear (log : Log) : Log := { log with bound := .empty }

/-- The name of a value of an event that is that of one of its parts. -/
def takenName? (event : LogEvent) (names : List String) : Option String :=
  names.find? fun name => (event.context.get? name).isSome

/-- The line of an event, none if the log does not tell it. -/
def lineOf (log : Log) (event : LogEvent) : Except LogFault (Option String) :=
  match takenName? event LogEvent.takenNames with
  | some name => .error (.takenName name)
  | none =>
    if log.least ≤ event.level then
      match takenName? event [LogEvent.takenWhenTold] with
      | some name => .error (.takenName name)
      | none => some <$> event.line log.bound
    else .ok none

end Log

end BlockApp
