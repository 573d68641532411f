import Mathlib.Tactic.Common
import PppoeSetup.Workbench.Endpoint

/-!
# Without the numbers

What there is to a connection, alone or wrapped, apart from how its descriptors are numbered.
-/

namespace PppoeSetup

/-- The connection without the numbers of its descriptors. -/
def Connection.anonymous (c : Connection) : Connection :=
  { c with session := c.session.map fun _ => 0, discovery := c.discovery.map fun _ => 0 }

def DiscoverySocket.anonymous (d : DiscoverySocket) : DiscoverySocket :=
  { d with connection := d.connection.anonymous, rawFd := 0 }

def Endpoint.anonymous : Endpoint → Endpoint
  | .connection c => .connection c.anonymous
  | .discovery d => .discovery d.anonymous
  | .async a => .async ⟨a.socket.anonymous⟩

@[simp] lemma Connection.state_anonymous (c : Connection) : c.anonymous.state = c.state := by
  obtain ⟨_ | session, _ | discovery, _ | name, address, index, timeout⟩ := c <;> rfl

end PppoeSetup
