import NatDiscovery.Config.Basic
import NatDiscovery.Json.Printer

/-!
# `NatDiscovery.Config.Encode` — a configuration as JSON

Every field is written, in the order of the configuration; a value that is not set is null.
-/

namespace NatDiscovery

/-- A value that may be missing. -/
def encodeOption {α : Type} (encode : α → Json) : Option α → Json
  | none => .null
  | some x => encode x

/-- A port. -/
def encodePort (p : Port) : Json :=
  .natural p.toNat

/-- An address as text. -/
def encodeIp (ip : IpAddr) : Json :=
  .text (some ip.toText)

/-- A port range. -/
def PortRange.toJson (r : PortRange) : Json :=
  .ofFields [("start", encodePort r.start), ("end", encodePort r.stop)]

/-- An include and an exclude list. -/
def Filter.toJson (f : Filter String) : Json :=
  .ofFields [("includes", .ofStrings f.includes), ("excludes", .ofStrings f.excludes)]

/-- A span of time. -/
def Duration.toJson (d : Duration) : Json :=
  .ofFields [("secs", .natural d.secs.toNat), ("nanos", .natural d.nanos.toNat)]

/-- A time budget. -/
def Timeouts.toJson (t : Timeouts) : Json :=
  .ofFields [("initial", t.initial.toJson), ("grace", t.grace.toJson), ("probe", t.probe.toJson)]

/-- A configuration. -/
def Config.toJson (c : Config) : Json :=
  .ofFields [
    ("stun_servers", .ofStrings c.stunServers),
    ("udp_port", encodeOption encodePort c.udpPort),
    ("port_range", encodeOption PortRange.toJson c.portRange),
    ("enable_loopback_candidate", .bool c.enableLoopbackCandidate),
    ("interfaces", c.interfaces.toJson),
    ("ips", c.ips.toJson),
    ("node_ip", encodeOption encodeIp c.nodeIp),
    ("node_ip_auto_generated", .bool c.nodeIpAutoGenerated),
    ("use_external_ip", .bool c.useExternalIp),
    ("timeouts", c.timeouts.toJson)]

/-- A configuration as JSON text. -/
def Config.write (c : Config) : String :=
  c.toJson.write

end NatDiscovery
