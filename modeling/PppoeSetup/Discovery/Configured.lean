import PppoeSetup.Config.Settings
import PppoeSetup.Discovery.Socket

/-!
# Setups from a configuration
-/

namespace PppoeSetup

open Kernel

/-- A connection that will connect under the configured limit. Its interface is not named yet. -/
def Connection.ofConfig (c : SetupConfig) : Connection := .fresh c.timeout?

/-- A discovery socket on the configured interface, in the configured mode. -/
def DiscoverySocket.ofConfig (c : SetupConfig) : Attempt DiscoverySocket := do
  match c.interface? with
  | none => throw (.config "no interface configured")
  | some name =>
    let socket ← ofFresh (.ofConfig c) name
    if c.nonblocking then
      Attempt.ofFallible (onFailure socket.release (socket.setNonblocking true))
    return socket

end PppoeSetup
