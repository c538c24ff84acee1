import NatDiscovery.Ip.Basic
import NatDiscovery.Text.Numeral

/-!
# `NatDiscovery.Ip.Text` — IP addresses as text

Two dialects of address text are in use, and one reader serves both. Addresses on their own and in
socket addresses follow `Dialect.strict`: no octet starts with a superfluous zero, and `::` stands
for at least one group of zeros. The addresses of address blocks follow `Dialect.lenient`: leading
zeros are allowed, and `::` may stand for no group at all.

An IPv6 text is a head of groups, then, unless the head has all eight, `::` and a tail of groups.
The last two groups of the head or the tail may be written as an IPv4 address, but not before `::`.

Addresses are written in the usual short form: groups in lower-case hexadecimal, the first of the
longest runs of two or more zero groups as `::`, and an IPv4-mapped address with its IPv4 part
dotted.

## Contents
- `Dialect`, `Ipv4.readHead`, `Ipv6.readHead`: an address at the head of a text
- `IpAddr.ofString?`: a text that is an address
- `Ipv4.write`, `Ipv6.write`, `IpAddr.toText`
-/

namespace NatDiscovery

/-- What an address text may look like. -/
structure Dialect where
  /-- Octets may start with zeros. -/
  leadingZeros : Bool
  /-- The least number of groups that `::` stands for. -/
  leastGap : Nat

/-- The text of an address on its own. -/
def Dialect.strict : Dialect := ⟨false, 1⟩

/-- The text of the address of a block. -/
def Dialect.lenient : Dialect := ⟨true, 0⟩

/-- The text behind the character `x`, when `x` comes first. -/
def expect (x : Char) : List Char → Option (List Char)
  | [] => none
  | c :: cs => if c = x then some cs else none

@[simp] theorem expect_cons_self (x : Char) (cs : List Char) : expect x (x :: cs) = some cs := by
  simp [expect]

/-! ## Reading IPv4 -/

/-- The numerals that are octets. -/
def Dialect.octet (dialect : Dialect) : Numeral.Form :=
  ⟨10, some 3, 256, dialect.leadingZeros⟩

/-- An octet at the head of a text. -/
def readOctet (dialect : Dialect) (cs : List Char) : Option (UInt8 × List Char) :=
  (dialect.octet.read cs).map fun r => (UInt8.ofNat r.1, r.2)

/-- An IPv4 address at the head of a text. -/
def Ipv4.readHead (dialect : Dialect) (cs : List Char) : Option (Ipv4 × List Char) := do
  let (a, cs) ← readOctet dialect cs
  let cs ← expect '.' cs
  let (b, cs) ← readOctet dialect cs
  let cs ← expect '.' cs
  let (c, cs) ← readOctet dialect cs
  let cs ← expect '.' cs
  let (d, cs) ← readOctet dialect cs
  return (⟨a, b, c, d⟩, cs)

/-! ## Reading IPv6 -/

/-- The numerals that are groups: up to four hexadecimal digits. -/
def groupForm : Numeral.Form :=
  ⟨16, some 4, 65536, true⟩

/-- A group at the head of a text. -/
def readGroup (cs : List Char) : Option (UInt16 × List Char) :=
  (groupForm.read cs).map fun r => (UInt16.ofNat r.1, r.2)

/-- A run of groups, as it was found at the head of a text. -/
structure GroupRun where
  groups : List UInt16
  /-- The last two groups were written as an IPv4 address. -/
  dotted : Bool
  /-- The text behind the run. -/
  rest : List Char

/-- Groups separated by colons, at most `limit` of them, the colon before the first one included
when `colon` says so. An IPv4 address is taken for two groups where there is room for two, and ends
the run. -/
def readGroups (dialect : Dialect) : (limit : Nat) → (colon : Bool) → List Char → GroupRun
  | 0, _, cs => ⟨[], false, cs⟩
  | limit + 1, colon, cs =>
    match if colon then expect ':' cs else some cs with
    | none => ⟨[], false, cs⟩
    | some body =>
      match if 0 < limit then Ipv4.readHead dialect body else none with
      | some (ip, rest) => ⟨ip.groups, true, rest⟩
      | none =>
        match readGroup body with
        | none => ⟨[], false, cs⟩
        | some (g, rest) =>
          let run := readGroups dialect limit true rest
          ⟨g :: run.groups, run.dotted, run.rest⟩

/-- The address of the groups before and after `::`. -/
def Ipv6.ofHeadTail? (head tail : List UInt16) : Option Ipv6 :=
  let groups := head ++ List.replicate (8 - head.length - tail.length) 0 ++ tail
  if h : groups.length = 8 then some ⟨groups, h⟩ else none

/-- An IPv6 address at the head of a text. -/
def Ipv6.readHead (dialect : Dialect) (cs : List Char) : Option (Ipv6 × List Char) := do
  let head := readGroups dialect 8 false cs
  -- All eight groups are there, and what follows is not part of the address.
  if h : head.groups.length = 8 then
    return (⟨head.groups, h⟩, head.rest)
  -- The last 32 bits cannot come before a gap.
  if head.dotted then
    none
  let cs ← expect ':' head.rest
  let cs ← expect ':' cs
  -- The tail leaves room for the gap.
  let tail := readGroups dialect (8 - head.groups.length - dialect.leastGap) false cs
  let ip ← Ipv6.ofHeadTail? head.groups tail.groups
  return (ip, tail.rest)

/-! ## A whole text -/

/-- What a reader found at the head of a text, when nothing is left behind it. -/
def wholly {α : Type} : Option (α × List Char) → Option α
  | some (x, []) => some x
  | _ => none

/-- The address that a text spells. -/
def IpAddr.ofText? (cs : List Char) : Option IpAddr :=
  ((wholly (Ipv4.readHead .strict cs)).map IpAddr.v4).or
    ((wholly (Ipv6.readHead .strict cs)).map IpAddr.v6)

/-- The address that a string spells. -/
def IpAddr.ofString? (s : String) : Option IpAddr :=
  IpAddr.ofText? s.toList

/-! ## Writing -/

/-- An octet in decimal. -/
def writeOctet (o : UInt8) : List Char :=
  Numeral.write 10 o.toNat

/-- A group in hexadecimal. -/
def writeGroup (g : UInt16) : List Char :=
  Numeral.write 16 g.toNat

/-- The four octets with points between them. -/
def Ipv4.write (ip : Ipv4) : List Char :=
  writeOctet ip.a ++ '.' :: (writeOctet ip.b ++ '.' :: (writeOctet ip.c ++ '.' :: writeOctet ip.d))

/-- Groups with colons between them. -/
def writeGroups : List UInt16 → List Char
  | [] => []
  | [g] => writeGroup g
  | g :: gs => writeGroup g ++ ':' :: writeGroups gs

/-- The number of zero groups at the head of a list. -/
def leadingZeroGroups : List UInt16 → Nat
  | [] => 0
  | g :: gs => if g = 0 then leadingZeroGroups gs + 1 else 0

/-- Start and length of the first of the longest runs of zero groups. -/
def longestZeroRun : List UInt16 → Nat × Nat
  | [] => (0, 0)
  | g :: gs =>
    let here := leadingZeroGroups (g :: gs)
    let later := longestZeroRun gs
    if here < later.2 then (later.1 + 1, later.2) else (0, here)

/-- The short form of an address. -/
def Ipv6.write (ip : Ipv6) : List Char :=
  match ip.mapped? with
  | some ip => "::ffff:".toList ++ ip.write
  | none =>
    let run := longestZeroRun ip.groups
    if 1 < run.2 then
      writeGroups (ip.groups.take run.1) ++ ':' :: ':' :: writeGroups (ip.groups.drop (run.1 + run.2))
    else
      writeGroups ip.groups

/-- The text of an address. -/
def IpAddr.toText : IpAddr → List Char
  | .v4 ip => ip.write
  | .v6 ip => ip.write

/-- The text of an address as a string. -/
def IpAddr.write (ip : IpAddr) : String :=
  String.ofList ip.toText

instance : ToString IpAddr := ⟨IpAddr.write⟩

end NatDiscovery
