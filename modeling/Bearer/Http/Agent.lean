import Bearer.Http.Client
import Bearer.Settings.Basic

/-!
# Agents

An agent sends requests over a connection, under a name. Both can be given, and otherwise come from
the settings: a name that is empty, or a time to wait that is zero, counts as not given. An agent
closes its connection in the end only if it made it itself, and redirects are never followed.
-/
namespace Bearer.Http

/-- How long to wait for an answer. -/
inductive Timeout where
  /-- Whole seconds. -/
  | whole (n : Int)
  /-- Seconds. -/
  | seconds (x : Float)
  /-- One second for a yes, none for a no. -/
  | flag (b : Bool)

/-- A time to wait, unless it is zero. -/
def Timeout.orNone : Timeout → Option Timeout
  | .whole n => if n = 0 then none else some (.whole n)
  | .flag b => if b then some (.flag b) else none
  | .seconds x => if x == 0.0 then none else some (.seconds x)

/-- A connection. -/
structure Connection where
  /-- How long it waits for an answer. -/
  timeout : Timeout
  /-- Whether it follows redirects. -/
  followsRedirects : Bool := false
  /-- Whether it is closed. -/
  isClosed : Bool := false

/-- An agent. -/
structure Agent where
  /-- What it calls itself. -/
  name : String
  /-- The connection. -/
  connection : Connection
  /-- Whether it made the connection. -/
  owns : Bool

namespace Agent

/-- The name of an agent: the one given, or that of the settings. -/
def nameOr (s : Settings) (given : String) : String :=
  if given.isEmpty then s.userAgent else given

/-- Makes an agent. -/
def make (s : Settings) (connection : Option Connection) (timeout : Option Timeout)
    (name : String) : Agent where
  name := nameOr s name
  connection := connection.getD
    { timeout := (timeout.bind Timeout.orNone).getD (.seconds s.httpTimeout) }
  owns := connection.isNone

/-- The agent when it is no longer used. -/
def close (a : Agent) : Agent :=
  if a.owns then { a with connection := { a.connection with isClosed := true } } else a

end Agent

/-- Whether a client takes requests as an agent does. A bare client has a way of its own. -/
def Client.isAgentLike : Client → Bool
  | .bare => false
  | .agent _ => true
  | .custom => true

end Bearer.Http
