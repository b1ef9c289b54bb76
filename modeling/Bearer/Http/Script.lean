import Bearer.Http.Server

/-!
# Scripted servers

A server that replies from a script. For each path the script holds replies in a queue; a request
takes the first one off, but the last one stays. A path without replies is not found.
-/
namespace Bearer.Http

/-- Replies in queues by path. -/
structure Script where
  /-- The queues. -/
  queues : List (String × List Reply) := []

namespace Script

/-- The queue of a path. -/
def queue (s : Script) (path : String) : List Reply :=
  match s.queues.find? fun q => q.1 = path with
  | some q => q.2
  | none => []

/-- The script with another queue for a path. -/
def setQueue (s : Script) (path : String) (replies : List Reply) : Script :=
  ⟨s.queues.filter (fun q => q.1 ≠ path) ++ [(path, replies)]⟩

/-- The script with a reply put at the end of a queue, or in place of all that is in it. -/
def push (s : Script) (path : String) (reply : Reply) (replace : Bool) : Script :=
  s.setQueue path ((if replace then [] else s.queue path) ++ [reply])

/-- The answer for a path without replies. -/
def notFound : Response where
  status := 404
  headers := [("content-type", "application/json")]
  body := Text.Utf8.encode "\x7b\x22status\x22:404,\x22message\x22:\x22not found\x22\x7d".toList

instance : Server Script where
  reply s r :=
    let path := r.url.plainPath
    match s.queue path with
    | [] => (.answer notFound, s)
    | [last] => (last, s)
    | next :: rest => (next, s.setQueue path rest)

end Script

end Bearer.Http
