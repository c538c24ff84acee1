import NatDiscovery.Distinct
import NatDiscovery.Filter

/-!
# `NatDiscovery.LocalAddress` — the local addresses worth probing

A host reports its addresses interface by interface. Probing is for IPv4: an IPv4-mapped IPv6
address counts as its IPv4 address, other IPv6 addresses and 0.0.0.0 are passed over, and each
address counts once. Loopback addresses come last and only on request, unless they are all there is.

## Contents
- `candidate?`: the IPv4 address that an interface address stands for
- `Candidates`, `Candidates.add`: the candidates seen so far, loopback kept apart
- `selectLocal`: the addresses to probe
-/

namespace NatDiscovery

/-- An address of an interface, with the interface's name. -/
structure InterfaceAddress where
  interface : String
  ip : IpAddr
  deriving DecidableEq, Repr

/-- The IPv4 address that an interface address stands for, when it can be probed. -/
def candidate? (ip : IpAddr) : Option Ipv4 :=
  let v4 :=
    match ip with
    | .v4 ip => some ip
    | .v6 ip => ip.mapped?
  v4.filter fun ip => !ip.isUnspecified

/-- The candidates seen so far, in the order of their first occurrence. -/
structure Candidates where
  plain : List IpAddr := []
  loopback : List IpAddr := []

/-- The candidates after one more address. -/
def Candidates.add (c : Candidates) (ip : Ipv4) : Candidates :=
  if ip.isLoopback then { c with loopback := addNew c.loopback (.v4 ip) }
  else { c with plain := addNew c.plain (.v4 ip) }

/-- The candidates after one more interface address, which a filter on names may hold back. -/
def Candidates.see (filter : Option (Filter String)) (c : Candidates) (i : InterfaceAddress) :
    Candidates :=
  if filter.all (·.allowsName i.interface) then
    match candidate? i.ip with
    | some ip => c.add ip
    | none => c
  else c

/-- The local addresses to probe, or none when there is no candidate. -/
def selectLocal (interfaces : List InterfaceAddress) (loopback : Bool)
    (filter : Option (Filter String)) : Option (List IpAddr) :=
  let c := interfaces.foldl (Candidates.see filter) {}
  let chosen := if loopback then c.plain ++ c.loopback else c.plain
  if chosen.isEmpty then
    if c.loopback.isEmpty then none else some c.loopback
  else some chosen

end NatDiscovery
