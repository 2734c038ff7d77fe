import CrudQuery.Document.Printer
import CrudQuery.Log.Message

/-! # Loggers

A logger has a threshold, a switch for the console, a formatter, and possibly a handler. A message
that passes the threshold becomes an entry with the time of its emission. A handler gets the entry
and replaces the console; without one, the console gets the line that the formatter makes of it.
-/

namespace CrudQuery.Log

/-- A message with the time at which it was emitted. -/
structure Entry where
  timestamp : Instant
  message : Message

/-- Makes a line of an entry, or fails. -/
abbrev Formatter := Entry → Option String

/-- The settings of a logger. -/
structure Logger where
  level : Float
  console : Bool
  formatter : Formatter
  handler? : Option String

/-- New settings, each of which may be left as it is. -/
structure Changes where
  level? : Option Float
  console? : Option Bool
  formatter? : Option Formatter
  handler? : Option String

/-- A method of the console. -/
inductive ConsoleMethod where
  | log
  | warn
  | error
  | debug
  deriving Repr, DecidableEq

/-- Something that a logger gives out. -/
inductive Output where
  | console (method : ConsoleMethod) (line : String)
  | handler (tag : String) (entry : Entry)

/-- How an emission ends. It fails when a line is needed and the formatter has none. -/
inductive Emission where
  | silent
  | given (output : Output)
  | failed

/-- The name of a method. -/
def ConsoleMethod.name : ConsoleMethod → String
  | log => "log"
  | warn => "warn"
  | error => "error"
  | debug => "debug"

/-- The method for a severity. -/
def ConsoleMethod.ofSeverity : Severity → ConsoleMethod
  | .debug => debug
  | .info => log
  | .warning => warn
  | .error => error

/-- A text filled up with spaces. -/
def paddedLabel (width : Nat) (text : String) : String :=
  text ++ String.ofList (List.replicate (width - text.length) ' ')

/-- The line of the standard formatter: time, severity, the part in brackets unless it has no name,
the text, and the data as JSON. An invalid time has no line. -/
def standardLine : Formatter := fun entry =>
  let message := entry.message
  let context :=
    match message.context? with
    | some name => if name.isEmpty then "" else "[" ++ name ++ "] "
    | none => ""
  let data :=
    match message.data? with
    | some members => " " ++ (Document.object members).compact
    | none => ""
  entry.timestamp.iso?.map fun time =>
    time ++ " " ++ paddedLabel 5 message.severity.label ++ " " ++ context ++ message.text ++ data

/-- A formatter that shows the text alone. -/
def textLine : Formatter := fun entry => some entry.message.text

/-- A formatter that shows the severity and the text. -/
def labelledLine : Formatter := fun entry =>
  some (entry.message.severity.label ++ ":" ++ entry.message.text)

namespace Logger

/-- A new logger shows information and above on the console. -/
def standard : Logger := ⟨Severity.info.level, true, standardLine, none⟩

/-- Takes over the settings that are given. -/
def configure (logger : Logger) (changes : Changes) : Logger where
  level := changes.level?.getD logger.level
  console := changes.console?.getD logger.console
  formatter := changes.formatter?.getD logger.formatter
  handler? := changes.handler?.or logger.handler?

/-- Changes the threshold alone. -/
def setLevel (logger : Logger) (level : Float) : Logger := { logger with level }

/-- Whether a level passes the threshold. -/
def isEnabled (logger : Logger) (level : Float) : Bool := passes logger.level level

/-- Emits a message at some time. -/
def emit (logger : Logger) (now : Instant) (message : Message) : Emission :=
  if logger.isEnabled message.severity.level then
    let entry : Entry := ⟨now, message⟩
    match logger.handler? with
    | some tag => .given (.handler tag entry)
    | none =>
      if logger.console then
        match logger.formatter entry with
        | some line => .given (.console (.ofSeverity message.severity) line)
        | none => .failed
      else .silent
  else .silent

/-- What is asked of a logger. -/
inductive Request where
  | emit (message : Message)
  | configure (changes : Changes)
  | setLevel (level : Float)
  | getLevel
  | isLevelEnabled (level : Float)

/-- What a request is answered with. -/
inductive Reply where
  | nothing
  | emitted (emission : Emission)
  | level (level : Float)
  | enabled (enabled : Bool)

/-- Serves a request. -/
def serve (logger : Logger) (now : Instant) : Request → Logger × Reply
  | .emit message => (logger, .emitted (logger.emit now message))
  | .configure changes => (logger.configure changes, .nothing)
  | .setLevel level => (logger.setLevel level, .nothing)
  | .getLevel => (logger, .level logger.level)
  | .isLevelEnabled level => (logger, .enabled (logger.isEnabled level))

/-- Serves requests one after another. -/
def run (logger : Logger) (now : Instant) : List Request → List Reply
  | [] => []
  | request :: rest =>
    let (next, reply) := logger.serve now request
    reply :: next.run now rest

/-- The logger that the whole library shares, as it is created: it is given no setting. -/
def shared : Logger := standard

end Logger

/-- What a part of the library writes to the shared logger through: the name of the part, if it has
one. -/
structure Facade where
  context? : Option String

/-- What is asked of the shared logger when something is said through a facade. -/
def Facade.request (facade : Facade) (severity : Severity) (text : String)
    (data? : Option (List (String × Document))) : Logger.Request :=
  .emit ⟨severity, text, facade.context?, data?⟩

end CrudQuery.Log
