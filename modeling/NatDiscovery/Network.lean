import NatDiscovery.LocalAddress
import NatDiscovery.ServerName
import NatDiscovery.Stun.Message

/-!
# `NatDiscovery.Network` — the network as a host sees it

Everything that a resolution asks of its surroundings: the addresses of the host's interfaces, the
names that can be looked up, which sockets can be bound, and what comes back when a datagram is sent.
Datagrams are delivered at once and in order; those to an address where nobody listens are lost.
-/

namespace NatDiscovery

open Stun (Bytes)

/-- A datagram on its way to a socket, with the instant of its arrival. -/
structure Datagram where
  source : Endpoint
  payload : Bytes
  arrival : Nat
  deriving DecidableEq, Repr

/-- A server: where it listens, and what it sends back (from where, and what) when a datagram
arrives from an address. -/
structure Server where
  endpoint : Endpoint
  replies : IpAddr → Bytes → List (Endpoint × Bytes)

/-- The surroundings of a host. -/
structure Network where
  /-- Datagrams can leave the host. -/
  connected : Bool
  interfaces : List InterfaceAddress
  names : Names
  servers : List Server
  /-- The endpoints held by somebody else. -/
  occupied : List Endpoint

namespace Network

/-- A host without a network. -/
def offline : Network :=
  ⟨false, [], fun _ => [], [], []⟩

/-- A socket can be bound to the address: without a network only 127.0.0.0/8. -/
def hasAddress (net : Network) (ip : IpAddr) : Bool :=
  if net.connected then ip.isLoopback || net.interfaces.any (·.ip = ip)
  else
    match ip with
    | .v4 ip => ip.isLoopback
    | .v6 _ => false

/-- Somebody holds the endpoint. -/
def isTaken (net : Network) (e : Endpoint) : Bool :=
  net.occupied.any (· = e) || net.servers.any (·.endpoint = e)

/-- Why a socket cannot be bound, if it cannot. Port 0 is always free. -/
def bindError? (net : Network) (e : Endpoint) : Option NetworkError :=
  if !net.hasAddress e.ip then some .addressNotAvailable
  else if e.port ≠ 0 && net.isTaken e then some .addressInUse
  else none

/-- What comes back to `source` when it sends `payload` to `target` at an instant. A socket hears
itself. Nobody listens on port 0: a socket bound to it has got another port. -/
def answers (net : Network) (source target : Endpoint) (payload : Bytes) (now : Nat) :
    List Datagram :=
  if target.port = 0 then []
  else
    let served := (net.servers.filter (·.endpoint = target)).flatMap fun s =>
      s.replies source.ip payload
    let echoed := if source = target then [(source, payload)] else []
    (served ++ echoed).map fun r => ⟨r.1, r.2, now⟩

end Network

end NatDiscovery
