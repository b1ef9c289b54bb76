import Bearer.Logging.Level

/-!
# Log records

What a logger is told: how severe it is, which logger is told, and a message. The loggers of the
library lie below one root.
-/
namespace Bearer.Logging

/-- The logger above all loggers of the library. -/
def rootLogger : String := "twitch_oauth2"

/-- The logger of a part of the library. -/
def loggerOf (part : String) : String :=
  rootLogger ++ "." ++ part

/-- A log record. -/
structure Record where
  /-- How severe it is. -/
  level : Level
  /-- The logger that is told. -/
  logger : String
  /-- What it is told. -/
  message : String
deriving DecidableEq, Repr

end Bearer.Logging
