import Bearer.Flow.World

/-!
# Sending

A request is sent once, and whatever comes back is not followed. What is logged and told of it
names the URL without its query, since the query may hold secrets. Answers are accepted, or not, as
`Answer` says.

* `exchange_sent`: an exchange sends one request, as the client prepares it, or none if the client
  cannot send it.
-/
namespace Bearer

/-- A request that was sent and got no answer. -/
structure SendFault where
  /-- Where it was sent, without the query. -/
  place : String
  /-- What failed. -/
  cause : Http.TransportFailure
deriving DecidableEq

instance : Diagnosable SendFault where
  diagnosis f :=
    ⟨.request, "request to " ++ f.place ++ " failed: " ++ f.cause.message,
      .transport f.cause.kind :: if f.cause.isOfCoding then [.coding] else []⟩

/-- Why a call brought nothing. -/
inductive CallFault where
  /-- It got no answer. -/
  | send (f : SendFault)
  /-- Its answer was not accepted. -/
  | answer (f : AnswerFault)
deriving DecidableEq

instance : Diagnosable CallFault where
  diagnosis
    | .send f => Diagnosable.diagnosis f
    | .answer f => Diagnosable.diagnosis f

namespace Flow

variable {σ τ ε α : Type} [Http.Server σ]

/-- Gives a request to the client and takes what it makes of the reply of the server; the clock goes
on meanwhile. The flow breaks off if the client cannot send the request, or hand over the answer. -/
def exchange (r : Http.Request) : Flow (World σ τ) ε Http.Reply := fun w =>
  if w.client.canSend r then
    let prepared := w.client.prepare r
    let (reply, server) := Http.Server.reply w.server prepared
    ((w.client.receive prepared reply).mapError fun f => .escape (.request f),
      { w with server := server, sent := w.sent.add prepared, now := w.answerTime })
  else (.error (.escape (.request .headerNotAscii)), w)

theorem exchange_sent (r : Http.Request) (w : World σ τ) :
    ((exchange r : Flow (World σ τ) ε Http.Reply) w).2.sent.toList =
      w.sent.toList ++ if w.client.canSend r then [w.client.prepare r] else [] := by
  unfold exchange
  split <;> simp

/-- Where a request goes, without the query. -/
def place {w : Type} (r : Http.Request) : Flow w ε String :=
  match r.url.withQuery none with
  | .ok u => pure u.text
  | .error e => escape (.request (.url e))

/-- Sends a request. -/
def send (r : Http.Request) : Flow (World σ τ) SendFault Http.Response := do
  let place ← place r
  note .debug "client" (r.method ++ " " ++ place)
  match ← exchange r with
  | .answer response =>
    note .debug "client" (r.method ++ " " ++ place ++ " -> " ++ toString response.status)
    return response
  | .failure f => fail ⟨place, f⟩
  | .crash name => escape (.crash name)

/-- Accepts the record of an answer. -/
def accept (k : RecordKind α) (r : Http.Response) : Flow (World σ τ) AnswerFault α := do
  ofExcept (Answer.read (← state).settings k r)

/-- Sends a request whose answer is a record. -/
def call (r : Http.Request) (k : RecordKind α) : Flow (World σ τ) CallFault α := do
  let response ← (send r).mapFault .send
  (accept k response).mapFault .answer

end Flow

end Bearer
