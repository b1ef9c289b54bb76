import Bearer.Cli.Controls
import Bearer.Cli.Run
import Bearer.Http.Offline

/-!
# The program

The command line on a machine without a network. Comparing scopes needs none; every other command
tells that the server was not reached. The settings come from variables.

What a run wrote before it asks for a line is written at once, and the rest when it has ended. Only
a terminal gets the control sequences that stand in it.
-/
namespace Bearer.Cli

/-- The names of the variables that are read. -/
def variableNames : List String :=
  ["CLIENT_ID", "CLIENT_SECRET", "REDIRECT_URL", "OAUTH2_URL", "OAUTH2_AUTH_URL",
    "OAUTH2_TOKEN_URL", "OAUTH2_VALIDATE_URL", "OAUTH2_REVOKE_URL", "OAUTH2_DEVICE_URL",
    "MOCK_API", "HTTP_TIMEOUT", "USER_AGENT", "LOG_LEVEL", "LOG_FORMAT", "LOG_FILE"].map
    ("TWITCH_" ++ ·)

/-- The variables that are set. -/
def readVariables : IO Variables :=
  variableNames.filterMapM fun name => do
    return (← IO.getEnv name).map fun value => (name, value)

/-- How the program is used. -/
def usageText : String :=
  "Usage: twitch-oauth2 COMMAND [ARGS]...\n\nCommands:\n" ++
    String.join (catalogue.map fun c => "  " ++ c.1 ++ "\n")

/-- What was written behind what has been shown. -/
def unseen (shown out : String) : String :=
  String.ofList (out.toList.drop shown.length)

/-- A line without its end. -/
def withoutEnd (line : String) : String :=
  String.ofList (line.toList.reverse.dropWhile fun c => c = '\n' || c = '\r').reverse

/-- Writes a text to a terminal, or without its control sequences to anything else. -/
def emit (target : IO.FS.Stream) (text : String) : IO Unit := do
  target.putStr (if ← target.isTty then text else Controls.strip text)
  target.flush

/-- Writes how a run ended. -/
def finish (shown : String) (o : Outcome) : IO UInt32 := do
  match o.usage with
  | some .help => IO.print usageText
  | some _ => IO.eprint usageText
  | none => pure ()
  emit (← IO.getStdout) (unseen shown o.out)
  emit (← IO.getStderr) o.err
  return o.exitCode.toUInt32

/-- Answers what a run asks for until it has ended. -/
partial def converse (shown : String) : Progress Http.Offline Float → IO UInt32
  | .done o _ => finish shown o
  | .asking q w => do
    emit (← IO.getStdout) (unseen shown q.out)
    let line ← (← IO.getStdin).getLine
    converse q.out (q.resume (if line.isEmpty then none else some (withoutEnd line)) w)

/-- Runs the command that the arguments name. -/
def runArguments (args : List String) : IO UInt32 := do
  let random ← IO.getRandomBytes (Csrf.defaultLength.toUSize)
  let now := Float.ofNat (← IO.monoMsNow) / 1000.0
  converse "" (start args
    { vars := ← readVariables, random := random.toList, server := ⟨⟩, now := now,
      pollLimit := 0 })

end Bearer.Cli

/-- The program. -/
def main (args : List String) : IO UInt32 :=
  Bearer.Cli.runArguments args
