import Bearer.Http.Server

/-!
# Without a network

The server as it looks from a place without a network: no request reaches it.
-/
namespace Bearer.Http

/-- A server that cannot be reached. -/
structure Offline where

namespace Offline

/-- How every exchange ends. -/
def unreachable : TransportFailure where
  kind := "ConnectError"
  message := "All connection attempts failed"

instance : Server Offline := ⟨fun s _ => (.failure unreachable, s)⟩

end Offline

end Bearer.Http
