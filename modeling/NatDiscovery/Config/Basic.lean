import NatDiscovery.CandidatePorts
import NatDiscovery.Filter
import NatDiscovery.ServerName
import NatDiscovery.Timeouts

/-!
# `NatDiscovery.Config.Basic` — the configuration

What can be configured, the defaults, and what a resolution derives from it: the servers to ask, the
candidate ports, the address filter. The filter on interfaces is configured here for others; a
resolution probes the addresses of every interface.
-/

namespace NatDiscovery

/-- The configuration of a node. -/
structure Config where
  stunServers : List String := []
  udpPort : Option Port := none
  portRange : Option PortRange := none
  enableLoopbackCandidate : Bool := false
  interfaces : Filter String := {}
  ips : Filter String := {}
  nodeIp : Option IpAddr := none
  nodeIpAutoGenerated : Bool := false
  useExternalIp : Bool := false
  timeouts : Timeouts := {}
  deriving DecidableEq, Repr

namespace Config

/-- The servers asked when none are configured. -/
def defaultServers : List String :=
  ["stun.l.google.com:19302", "stun1.l.google.com:19302"]

/-- The servers to ask. -/
def servers (c : Config) : List String :=
  if c.stunServers.isEmpty then defaultServers else c.stunServers

/-- The ports to probe from. -/
def ports (c : Config) (draws : Draws) : Except ConfigError (List Port) :=
  candidatePorts draws c.portRange c.udpPort

/-- The filter on interface names, when there is one. -/
def interfaceFilter (c : Config) : Option (Filter String) :=
  c.interfaces.set?

/-- The filter on addresses, when there is one. -/
def addressFilter (c : Config) : Except ConfigError (Option (Filter Cidr)) :=
  c.ips.addressFilter

end Config

end NatDiscovery
