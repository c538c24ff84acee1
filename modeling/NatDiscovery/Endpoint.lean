import NatDiscovery.Ip.Text

/-!
# `NatDiscovery.Endpoint` — socket addresses

An endpoint is an IP address with a port, and for IPv6 a scope, which is part of its identity: two
endpoints that differ in the scope alone are different. The text is `1.2.3.4:80` or `[::1]:80`, with
the scope behind a percent sign when it is not zero.
-/

namespace NatDiscovery

/-- A UDP port. Port 0 asks the host to choose one. -/
abbrev Port := UInt16

/-- A socket address. -/
inductive Endpoint where
  | v4 (ip : Ipv4) (port : Port)
  | v6 (ip : Ipv6) (port : Port) (scope : UInt32)
  deriving DecidableEq, Repr

namespace Endpoint

/-- The endpoint of an address and a port, without a scope. -/
def of : IpAddr → Port → Endpoint
  | .v4 ip, port => .v4 ip port
  | .v6 ip, port => .v6 ip port 0

/-- The address of an endpoint. -/
def ip : Endpoint → IpAddr
  | .v4 ip _ => .v4 ip
  | .v6 ip _ _ => .v6 ip

/-- The port of an endpoint. -/
def port : Endpoint → Port
  | .v4 _ port => port
  | .v6 _ port _ => port

/-- The family of an endpoint. -/
def family (e : Endpoint) : Family :=
  e.ip.family

@[simp] theorem ip_of (a : IpAddr) (p : Port) : (of a p).ip = a := by
  cases a <;> rfl

@[simp] theorem port_of (a : IpAddr) (p : Port) : (of a p).port = p := by
  cases a <;> rfl

@[simp] theorem family_of (a : IpAddr) (p : Port) : (of a p).family = a.family := by
  simp [family]

/-! ## Reading -/

/-- The numerals that are ports behind an address: any number of leading zeros. -/
def portForm : Numeral.Form :=
  ⟨10, none, 65536, true⟩

/-- The numerals that are scopes. -/
def scopeForm : Numeral.Form :=
  ⟨10, none, 4294967296, true⟩

/-- A colon and a port at the head of a text. -/
def readPort (cs : List Char) : Option (Port × List Char) := do
  let cs ← expect ':' cs
  let (port, cs) ← portForm.read cs
  return (UInt16.ofNat port, cs)

/-- A percent sign and a scope at the head of a text; no scope is scope 0. -/
def readScope (cs : List Char) : UInt32 × List Char :=
  match (expect '%' cs).bind scopeForm.read with
  | some (scope, rest) => (UInt32.ofNat scope, rest)
  | none => (0, cs)

/-- An IPv4 endpoint at the head of a text. -/
def readHead4 (cs : List Char) : Option (Endpoint × List Char) := do
  let (ip, cs) ← Ipv4.readHead .strict cs
  let (port, cs) ← readPort cs
  return (.v4 ip port, cs)

/-- An IPv6 endpoint at the head of a text. -/
def readHead6 (cs : List Char) : Option (Endpoint × List Char) := do
  let cs ← expect '[' cs
  let (ip, cs) ← Ipv6.readHead .strict cs
  let (scope, cs) := readScope cs
  let cs ← expect ']' cs
  let (port, cs) ← readPort cs
  return (.v6 ip port scope, cs)

/-- The endpoint that a text spells. -/
def ofText? (cs : List Char) : Option Endpoint :=
  (wholly (readHead4 cs)).or (wholly (readHead6 cs))

/-- The endpoint that a string spells. -/
def ofString? (s : String) : Option Endpoint :=
  ofText? s.toList

/-! ## Writing -/

/-- A port in decimal. -/
def writePort (port : Port) : List Char :=
  Numeral.write 10 port.toNat

/-- The text of an endpoint. -/
def toText : Endpoint → List Char
  | .v4 ip port => ip.write ++ ':' :: writePort port
  | .v6 ip port scope =>
    let zone := if scope = 0 then [] else '%' :: Numeral.write 10 scope.toNat
    '[' :: (ip.write ++ zone ++ ']' :: ':' :: writePort port)

/-- The text of an endpoint as a string. -/
def write (e : Endpoint) : String :=
  String.ofList e.toText

instance : ToString Endpoint := ⟨write⟩

end Endpoint

end NatDiscovery
