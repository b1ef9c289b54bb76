/-!
# Log levels

The five levels of a log record, from the least to the most severe. A log shows the records that
are at least as severe as its own level.
-/
namespace Bearer.Logging

/-- How severe a record is. -/
inductive Level where
  | debug
  | info
  | warning
  | error
  | critical
deriving DecidableEq, Repr, Inhabited

namespace Level

/-- The name of a level. -/
def name : Level → String
  | .debug => "DEBUG"
  | .info => "INFO"
  | .warning => "WARNING"
  | .error => "ERROR"
  | .critical => "CRITICAL"

/-- The levels from the least severe on. -/
def every : List Level := [.debug, .info, .warning, .error, .critical]

/-- The level of a name in capitals. -/
def ofName? (name : String) : Option Level :=
  every.find? fun l => l.name = name

/-- The rank of a level. -/
def rank : Level → Nat
  | .debug => 10
  | .info => 20
  | .warning => 30
  | .error => 40
  | .critical => 50

/-- Whether a log of the first level shows records of the second. -/
def shows (log record : Level) : Bool :=
  log.rank ≤ record.rank

theorem ofName?_name (l : Level) : ofName? l.name = some l := by
  cases l <;> decide

end Level

/-- How records are written: in words, or as JSON. -/
inductive Format where
  | text
  | json
deriving DecidableEq, Repr, Inhabited

/-- The name of a format. -/
def Format.name : Format → String
  | .text => "text"
  | .json => "json"

/-- The format of a name in lower case. -/
def Format.ofName? (name : String) : Option Format :=
  if name = "text" then some .text else if name = "json" then some .json else none

end Bearer.Logging
