import NatDiscovery.Collector
import NatDiscovery.Config.Basic
import NatDiscovery.Reflector

/-!
# `NatDiscovery.Resolution` — from a configuration to mappings

A resolution reads the address filter, chooses the ports, selects the local addresses, and collects
the mappings of those that the filter lets pass. Faults are found in this order, and before any probe
starts; whatever the probes do afterwards, there is a report.

## Contents
- `ResolveError`
- `resolve`: with any behaviour of probes
- `discover`: on a network
- `Config.nodeIpOverride`, `withNodeIpFallback`, `Config.advertisement`, `advertise`: the list that a
  node advertises
-/

namespace NatDiscovery

open Stun (TransactionId)

/-- Why a resolution failed. -/
inductive ResolveError where
  | config (cause : ConfigError)
  | network (cause : NetworkError)
  | clock (cause : ClockError)
  deriving DecidableEq, Repr

namespace ResolveError

/-- The wording of a failure. -/
def message : ResolveError → String
  | config cause => "invalid configuration: " ++ cause.message
  | network cause => cause.message
  | clock .outOfRange => "overflow when adding duration to instant"

/-- The wording of what lies beneath a failure, the nearest first. -/
def causes : ResolveError → List String
  | config cause => cause.message :: cause.causes
  | network _ => []
  | clock _ => []

end ResolveError

/-! ## With any behaviour of probes -/

/-- Resolves the mappings of a host with these interface addresses. -/
def resolve (config : Config) (interfaces : List InterfaceAddress) (draws : Draws)
    (prober : Prober) (clock : Clock := .hourOld) : Except ResolveError Report :=
  match config.addressFilter with
  | .error e => .error (.config e)
  | .ok filter =>
    match config.ports draws with
    | .error e => .error (.config e)
    | .ok ports =>
      match selectLocal interfaces config.enableLoopbackCandidate none with
      | none => .error (.network .noLocalAddress)
      | some locals =>
        match collect prober ports config.timeouts (locals.filter (Filter.passes filter)) clock with
        | .error e => .error (.clock e)
        | .ok report => .ok report

/-! ## On a network -/

/-- The report of a resolution, and the requests that its probes sent: to which server, and from
which address. -/
structure Discovery where
  report : Report
  requests : List (Endpoint × IpAddr)

/-- The texts of the mappings found. -/
def Discovery.texts (d : Discovery) : List String :=
  d.report.mappings.map Mapping.write

/-- Resolves the mappings of a host on a network. -/
def discover (net : Network) (ids : Nat → TransactionId) (draws : Draws) (config : Config)
    (clock : Clock := .hourOld) : Except ResolveError Discovery :=
  let timeout := config.timeouts.probe.millis
  match resolve config net.interfaces draws
      (Reflector.prober net timeout ids config.servers) clock with
  | .error e => .error e
  | .ok report =>
    .ok ⟨report,
      Reflector.requestsUpTo net timeout ids config.servers report.elapsed report.probes⟩

/-! ## What a node advertises -/

/-- The configured node address, when it overrides what a node would advertise otherwise. One that
was generated does so only when external addresses are wanted. -/
def Config.nodeIpOverride (c : Config) : Option IpAddr :=
  c.nodeIp.filter fun _ => c.useExternalIp || !c.nodeIpAutoGenerated

/-- The resolved texts, or the node address when there are none. -/
def withNodeIpFallback (resolved : List String) (nodeIp : IpAddr) : List String :=
  if resolved.isEmpty then [nodeIp.write] else resolved

/-- The list that a node advertises, if it overrides anything, given what was resolved for it. -/
def Config.advertisement (c : Config) (resolved : List String) : Option (List String) :=
  c.nodeIpOverride.map fun nodeIp =>
    if c.useExternalIp then withNodeIpFallback resolved nodeIp else [nodeIp.write]

/-- The list that a node on a network advertises, and the requests sent to find it. The network is
asked only for an override with external addresses. -/
def advertise (net : Network) (ids : Nat → TransactionId) (draws : Draws) (config : Config)
    (clock : Clock := .hourOld) :
    Except ResolveError (Option (List String) × List (Endpoint × IpAddr)) :=
  if config.nodeIpOverride.isSome && config.useExternalIp then
    match discover net ids draws config clock with
    | .error e => .error e
    | .ok d => .ok (config.advertisement d.texts, d.requests)
  else .ok (config.advertisement [], [])

end NatDiscovery
