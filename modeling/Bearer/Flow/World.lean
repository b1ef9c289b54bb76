import Bearer.Answer.Check
import Bearer.Flow.Basic
import Bearer.Flow.Trail
import Bearer.Http.Client
import Bearer.Logging.Record
import Bearer.Time.Clock

/-!
# The world of a flow

A flow reaches a server through a client, reads the settings and a clock, sleeps, and writes a log.
The world keeps trails of all that was sent, logged and slept, so that it can be told what a flow
did.
-/
namespace Bearer

/-- What a flow acts on: a server `σ` and a clock whose readings are `τ`. -/
structure World (σ τ : Type) where
  /-- The server. -/
  server : σ
  /-- The client that reaches it. -/
  client : Http.Client
  /-- The settings. -/
  settings : Answer.Loaded
  /-- What the clock reads. -/
  now : τ
  /-- The requests that were sent. -/
  sent : Trail Http.Request := {}
  /-- What was logged. -/
  log : Trail Logging.Record := {}
  /-- The lengths of the sleeps. -/
  slept : Trail τ := {}
  /-- What the clock reads when a request is answered, from the number of those sent before it and
  what it read when the request was sent. -/
  answeredAt : Nat → τ → τ := fun _ now => now

namespace World

variable {σ τ : Type}

/-- What the clock will read when the next request is answered. -/
def answerTime (w : World σ τ) : τ :=
  w.answeredAt w.sent.newestFirst.length w.now

/-- The world with one more record in the log. -/
def logged (w : World σ τ) (r : Logging.Record) : World σ τ :=
  { w with log := w.log.add r }

/-- The world after the clock has moved by a length. -/
def advanced [Time.Clock τ] (w : World σ τ) (length : τ) : World σ τ :=
  { w with now := Time.Clock.add w.now length }

/-- The world after a sleep. -/
def rested [Time.Clock τ] (w : World σ τ) (length : τ) : World σ τ :=
  { w.advanced length with slept := w.slept.add length }

end World

namespace Flow

variable {σ τ ε : Type}

/-- Writes to the log. -/
def note (level : Logging.Level) (part message : String) : Flow (World σ τ) ε Unit :=
  change fun w => w.logged ⟨level, Logging.loggerOf part, message⟩

/-- The reading of the clock. -/
def now : Flow (World σ τ) ε τ := do
  return (← state).now

/-- Sleeps. -/
def sleep [Time.Clock τ] (length : τ) : Flow (World σ τ) ε Unit :=
  change fun w => w.rested length

/-- What is made of the settings as they come; the flow breaks off if it cannot be made. -/
def prepare {α : Type} (make : Answer.Loaded → Except Escape α) : Flow (World σ τ) ε α := fun w =>
  ((make w.settings).mapError .escape, w)

@[simp] theorem prepare_apply {α : Type} (make : Answer.Loaded → Except Escape α)
    (w : World σ τ) :
    (prepare make : Flow (World σ τ) ε α) w = ((make w.settings).mapError .escape, w) := rfl

theorem prepare_ok {α : Type} {make : Answer.Loaded → Except Escape α} {w : World σ τ} {a : α}
    (h : make w.settings = .ok a) : (prepare make : Flow (World σ τ) ε α) w = (.ok a, w) := by
  rw [prepare_apply, h]
  rfl

theorem prepare_error {α : Type} {make : Answer.Loaded → Except Escape α} {w : World σ τ}
    {e : Escape} (h : make w.settings = .error e) :
    (prepare make : Flow (World σ τ) ε α) w = (.error (.escape e), w) := by
  rw [prepare_apply, h]
  rfl

theorem note_apply (level : Logging.Level) (part message : String) (w : World σ τ) :
    (note level part message : Flow (World σ τ) ε Unit) w =
      (.ok (), w.logged ⟨level, Logging.loggerOf part, message⟩) := rfl

theorem now_apply (w : World σ τ) : (now : Flow (World σ τ) ε τ) w = (.ok w.now, w) := rfl

end Flow

end Bearer
