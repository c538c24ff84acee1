import NatDiscovery.Endpoint
import NatDiscovery.Text.Quoted

/-!
# `NatDiscovery.ConfigError` — faults of a configuration

A configuration can be well-formed and still ask for something that makes no sense. Both faults are
found before anything touches the network.
-/

namespace NatDiscovery

/-- What is wrong with a configuration. -/
inductive ConfigError where
  /-- A text in an address list is not an address block. The text is kept as it was given. -/
  | invalidCidr (text : String)
  /-- A port range has no port. -/
  | invalidPortRange (start stop : Port)
  deriving DecidableEq, Repr

namespace ConfigError

/-- Why a text is not an address block. -/
def cidrCause : String := "invalid IP address syntax"

/-- The wording of a fault. -/
def message : ConfigError → String
  | invalidCidr text => "invalid CIDR " ++ Quoted.quote text ++ ": " ++ cidrCause
  | invalidPortRange start stop =>
    "invalid port range: start is " ++ String.ofList (Endpoint.writePort start) ++ " but end is "
      ++ String.ofList (Endpoint.writePort stop)

/-- The wording of what lies beneath a fault. -/
def causes : ConfigError → List String
  | invalidCidr _ => [cidrCause]
  | invalidPortRange _ _ => []

end ConfigError

end NatDiscovery
