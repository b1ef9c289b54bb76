import Bearer.Json.Writer
import Bearer.Logging.Record
import Bearer.Settings.Basic
import Bearer.Time.Stamp

/-!
# Setting up the log

A logger writes its records through handlers: to the console, in words or as JSON, and to a file, as
JSON. Setting the log up takes off the handlers of the set-up before, and closes them, and puts new
ones behind the handlers that others have attached. A file that does not open is left out. A set-up
that breaks off leaves the handlers of others alone.
-/
namespace Bearer.Logging

/-- Where a handler writes. -/
inductive Sink where
  /-- Nowhere. -/
  | nowhere
  /-- To the console. -/
  | console (format : Format)
  /-- To a file. -/
  | file (path : String)
deriving DecidableEq, Repr

/-- The format in which records are written, if they are. -/
def Sink.format? : Sink → Option Format
  | .nowhere => none
  | .console f => some f
  | .file _ => some .json

/-- A record as one line: in words, or as JSON. `moment`: when it was made. -/
def Record.line (format : Format) (moment : Int) (r : Record) : String :=
  let at_ := Time.Stamp.text moment
  match format with
  | .text => at_ ++ " - " ++ r.logger ++ " - " ++ r.level.name ++ " - " ++ r.message
  | .json => Json.write .line (.obj
    [("asctime", .str at_), ("name", .str r.logger), ("levelname", .str r.level.name),
      ("message", .str r.message)])

/-- A handler; its number tells it from others of its kind. -/
structure Handler where
  /-- The number. -/
  serial : Nat
  /-- Where it writes. -/
  sink : Sink
deriving DecidableEq, Repr

/-- A logger and what was put on it. -/
structure Setup where
  /-- The handlers of the logger, in their order. -/
  handlers : List Handler := [⟨0, .nowhere⟩]
  /-- Those that the last set-up put on. -/
  installed : List Handler := []
  /-- Those that are closed. -/
  closed : List Handler := []
  /-- The level of the logger. -/
  level : Level := .warning
  /-- Whether its records go on to the loggers above it. -/
  propagates : Bool := true
  /-- The number of the next handler. -/
  next : Nat := 1
deriving DecidableEq, Repr

namespace Setup

/-- The logger with another handler attached. -/
def attach (u : Setup) (sink : Sink) : Setup :=
  { u with handlers := u.handlers ++ [⟨u.next, sink⟩], next := u.next + 1 }

/-- The handlers that settings ask for; `opens` says which files open. -/
def wanted (s : Settings) (opens : String → Bool) (next : Nat) : List Handler :=
  ⟨next, .console s.logFormat⟩ ::
    match s.logFile with
    | some path => if !path.isEmpty && opens path then [⟨next + 1, .file path⟩] else []
    | none => []

/-- Sets the log up. -/
def configure (s : Settings) (opens : String → Bool) (u : Setup) : Setup :=
  let new := wanted s opens u.next
  { handlers := u.handlers.filter (fun h => h ∉ u.installed) ++ new
    installed := new
    closed := u.closed ++ u.installed
    level := s.logLevel
    propagates := false
    next := u.next + 2 }

/-- Begins to set the log up, and breaks off before the new handlers are attached: those of the
set-up before are gone, and only the one for the console is there to be taken off the next time. -/
def breakOff (s : Settings) (u : Setup) : Setup :=
  { u with
    handlers := u.handlers.filter (fun h => h ∉ u.installed)
    installed := [⟨u.next, .console s.logFormat⟩]
    closed := u.closed ++ u.installed
    next := u.next + 1 }

/-- What a set-up tells the log. -/
def report (s : Settings) : Record where
  level := .debug
  logger := rootLogger
  message := "Logging configured: level=" ++ s.logLevel.name ++ " format=" ++ s.logFormat.name

/-- The paths of the files to which a record is written. -/
def filesFor (u : Setup) (r : Record) : List String :=
  if u.level.shows r.level then
    u.handlers.filterMap fun h =>
      match h.sink with
      | .file path => some path
      | _ => none
  else []

end Setup

end Bearer.Logging
