import NatDiscovery.Endpoint

/-!
# `NatDiscovery.NetworkError` — failures of network operations

A failure is described by its cause. Only one cause matters to a probe task: a port that is already
taken sends it on to the next port.
-/

namespace NatDiscovery

/-- Why a network operation failed. -/
inductive NetworkError where
  /-- No address of the host can be probed. -/
  | noLocalAddress
  /-- Another socket holds the address and port. -/
  | addressInUse
  /-- The host has no such address. -/
  | addressNotAvailable
  /-- Nothing can be sent from this host. -/
  | networkUnreachable
  /-- The port behind the last colon of a server text is not a port. -/
  | invalidPort
  /-- A host name holds a NUL character. -/
  | nulInName
  /-- A host name has no address. -/
  | unknownName
  /-- A server has no address of the wanted family. -/
  | noAddressOfFamily (server : String) (family : Family)
  /-- There is no server to ask. -/
  | noServer
  /-- A server's answer carries no mapped address. -/
  | malformedResponse (server : Endpoint)
  /-- A server did not answer in time. -/
  | noAnswer (server : Endpoint)
  /-- A failure that the system knows by a number. -/
  | system (code : Nat)
  /-- A failure of another kind, known by its name. -/
  | other (kind : String)
  deriving DecidableEq, Repr

namespace NetworkError

/-- The failure behind a system error number. -/
def ofCode : Nat → NetworkError
  | 98 => addressInUse
  | 99 => addressNotAvailable
  | 101 => networkUnreachable
  | code => system code

/-- The address and port are taken, so another port may do. -/
def isAddressInUse : NetworkError → Bool
  | addressInUse => true
  | _ => false

theorem isAddressInUse_iff {e : NetworkError} : e.isAddressInUse = true ↔ e = addressInUse := by
  cases e <;> simp [isAddressInUse]

/-- The wording of a failure. -/
def message : NetworkError → String
  | noLocalAddress => "could not find local IP address"
  | addressInUse => "Address already in use (os error 98)"
  | addressNotAvailable => "Cannot assign requested address (os error 99)"
  | networkUnreachable => "Network is unreachable (os error 101)"
  | invalidPort => "invalid port value"
  | nulInName => "file name contained an unexpected NUL byte"
  | unknownName => "failed to lookup address information: Name or service not known"
  | noAddressOfFamily server family =>
    "stun server " ++ server ++ " has no " ++ family.name ++ " address"
  | noServer => "no stun server"
  | malformedResponse server => "malformed stun response from " ++ server.write
  | noAnswer server => "stun server " ++ server.write ++ " did not answer"
  | system code => "os error " ++ String.ofList (Numeral.write 10 code)
  | other kind => kind

end NetworkError

end NatDiscovery
