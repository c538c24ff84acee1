import NatDiscovery.Config.Basic
import NatDiscovery.Json.Reader

/-!
# `NatDiscovery.Config.Decode` — a configuration from JSON

A record is written as an object or as an array. In an object the fields come in any order, each at
most once, and unknown ones are passed over; in an array the values come in the order of the fields.
A field that may be missing then has its default. `Record` reads both spellings and gives the values
of the fields in order.

## Contents
- `Record`, `Record.values?`
- `decodeBool`, `decodeNatural`, `decodeString`, …: the values of fields
- `decodeDuration`, `decodePortRange`, `decodeFilter`, `decodeTimeouts`
- `Config.ofJson?`, `Config.ofString?`
-/

namespace NatDiscovery

/-- The shape of a record. -/
structure Record where
  /-- The names of the fields in order. -/
  fields : List String
  /-- Fields with other names are passed over. -/
  othersAllowed : Bool := true

namespace Record

/-- The values of all members with this name. -/
def valuesOf (members : List (Option (List Char) × Json)) (field : String) : List Json :=
  members.filterMap fun m => if m.1 = some field.toList then some m.2 else none

/-- The value of a field that is there at most once. -/
def member? (members : List (Option (List Char) × Json)) (field : String) : Option (Option Json) :=
  match valuesOf members field with
  | [] => some none
  | [value] => some (some value)
  | _ => none

/-- The member's name spells whole characters, and is a field unless others are passed over. -/
def allowsName (r : Record) (name : Option (List Char)) : Bool :=
  match name with
  | none => false
  | some cs => r.othersAllowed || r.fields.any (·.toList = cs)

/-- The values of the fields in order, none for a missing one. -/
def values? (r : Record) : Json → Option (List (Option Json))
  | .object members =>
    if members.all fun m => r.allowsName m.1 then r.fields.mapM (member? members) else none
  | .array items =>
    if items.length ≤ r.fields.length then
      some (items.map some ++ List.replicate (r.fields.length - items.length) none)
    else none
  | _ => none

end Record

/-! ## Values of fields -/

/-- A field that has a default. -/
def orDefault {α : Type} (default : α) (decode : Json → Option α) : Option Json → Option α
  | none => some default
  | some j => decode j

/-- A value that may be null. -/
def decodeOption {α : Type} (decode : Json → Option α) : Json → Option (Option α)
  | .null => some none
  | j => (decode j).map some

/-- A truth value. -/
def decodeBool : Json → Option Bool
  | .bool b => some b
  | _ => none

/-- A natural number below a bound. -/
def decodeNatural (bound : Nat) : Json → Option Nat
  | .natural n => if n < bound then some n else none
  | _ => none

/-- A port. -/
def decodePort (j : Json) : Option Port :=
  (decodeNatural 65536 j).map UInt16.ofNat

/-- A text. -/
def decodeText : Json → Option (List Char)
  | .text t => t
  | _ => none

/-- A text as a string. -/
def decodeString (j : Json) : Option String :=
  (decodeText j).map String.ofList

/-- A list of strings. -/
def decodeStrings : Json → Option (List String)
  | .array items => items.mapM decodeString
  | _ => none

/-- An address. -/
def decodeIp (j : Json) : Option IpAddr :=
  (decodeText j).bind IpAddr.ofText?

/-! ## Records -/

/-- Spans: both fields are needed, and there are no others. -/
def durationRecord : Record := ⟨["secs", "nanos"], false⟩

/-- A span of time. A whole second of nanoseconds or more carries over. -/
def decodeDuration (j : Json) : Option Duration := do
  match ← durationRecord.values? j with
  | [some secs, some nanos] =>
    Duration.ofParts? (← decodeNatural UInt64.size secs) (← decodeNatural UInt32.size nanos)
  | _ => none

/-- Port ranges: both fields are needed. -/
def portRangeRecord : Record := ⟨["start", "end"], true⟩

/-- A port range. -/
def decodePortRange (j : Json) : Option PortRange := do
  match ← portRangeRecord.values? j with
  | [some start, some stop] => return ⟨← decodePort start, ← decodePort stop⟩
  | _ => none

/-- Include and exclude lists. -/
def filterRecord : Record := ⟨["includes", "excludes"], true⟩

/-- An include and an exclude list. -/
def decodeFilter (j : Json) : Option (Filter String) := do
  match ← filterRecord.values? j with
  | [includes, excludes] =>
    return ⟨← orDefault [] decodeStrings includes, ← orDefault [] decodeStrings excludes⟩
  | _ => none

/-- Time budgets. -/
def timeoutsRecord : Record := ⟨["initial", "grace", "probe"], true⟩

/-- A time budget. -/
def decodeTimeouts (j : Json) : Option Timeouts := do
  let default : Timeouts := {}
  match ← timeoutsRecord.values? j with
  | [initial, grace, probe] =>
    return ⟨← orDefault default.initial decodeDuration initial,
      ← orDefault default.grace decodeDuration grace,
      ← orDefault default.probe decodeDuration probe⟩
  | _ => none

/-- Configurations. -/
def configRecord : Record :=
  ⟨["stun_servers", "udp_port", "port_range", "enable_loopback_candidate", "interfaces", "ips",
    "node_ip", "node_ip_auto_generated", "use_external_ip", "timeouts"], true⟩

/-- The configuration that a value describes. -/
def Config.ofJson? (j : Json) : Option Config := do
  match ← configRecord.values? j with
  | [stunServers, udpPort, portRange, loopback, interfaces, ips, nodeIp, autoGenerated, external,
      timeouts] =>
    return {
      stunServers := ← orDefault [] decodeStrings stunServers
      udpPort := ← orDefault none (decodeOption decodePort) udpPort
      portRange := ← orDefault none (decodeOption decodePortRange) portRange
      enableLoopbackCandidate := ← orDefault false decodeBool loopback
      interfaces := ← orDefault {} decodeFilter interfaces
      ips := ← orDefault {} decodeFilter ips
      nodeIp := ← orDefault none (decodeOption decodeIp) nodeIp
      nodeIpAutoGenerated := ← orDefault false decodeBool autoGenerated
      useExternalIp := ← orDefault false decodeBool external
      timeouts := ← orDefault {} decodeTimeouts timeouts }
  | _ => none

/-- The configuration that a JSON text describes. -/
def Config.ofString? (s : String) : Option Config :=
  (Json.ofText? s.toList).bind Config.ofJson?

end NatDiscovery
