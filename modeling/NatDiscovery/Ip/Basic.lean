/-!
# `NatDiscovery.Ip.Basic` — IP addresses

An IPv4 address is four octets, an IPv6 address eight groups of sixteen bits. The two families are
kept apart everywhere: an IPv4 address and its IPv4-mapped IPv6 form are different addresses, and
only `Ipv6.mapped?` leads from one to the other.

## Contents
- `Ipv4`, `Ipv6`, `IpAddr`, `Family`
- `Ipv4.value`, `Ipv6.value`: the address as a number, most significant bits first
- `Ipv6.ofIpv4`, `Ipv6.mapped?`: the IPv4-mapped form
-/

namespace NatDiscovery

/-- The two address families. -/
inductive Family where
  | v4
  | v6
  deriving DecidableEq, Repr

/-- The name of the family in messages. -/
def Family.name : Family → String
  | .v4 => "IPv4"
  | .v6 => "IPv6"

/-- The number of bits of an address. -/
def Family.width : Family → Nat
  | .v4 => 32
  | .v6 => 128

/-- Four octets. -/
structure Ipv4 where
  a : UInt8
  b : UInt8
  c : UInt8
  d : UInt8
  deriving DecidableEq, Repr

/-- Eight groups of sixteen bits. -/
structure Ipv6 where
  groups : List UInt16
  length_eq : groups.length = 8 := by rfl
  deriving DecidableEq, Repr

/-- An address of either family. -/
inductive IpAddr where
  | v4 (ip : Ipv4)
  | v6 (ip : Ipv6)
  deriving DecidableEq, Repr

/-! ## IPv4 -/

/-- The octets in order. -/
def Ipv4.octets (ip : Ipv4) : List UInt8 :=
  [ip.a, ip.b, ip.c, ip.d]

/-- The address as a number of 32 bits. -/
def Ipv4.value (ip : Ipv4) : Nat :=
  ((ip.a.toNat * 256 + ip.b.toNat) * 256 + ip.c.toNat) * 256 + ip.d.toNat

/-- An address of 127.0.0.0/8. -/
def Ipv4.isLoopback (ip : Ipv4) : Bool :=
  ip.a == 127

/-- The address 0.0.0.0. -/
def Ipv4.isUnspecified (ip : Ipv4) : Bool :=
  ip == ⟨0, 0, 0, 0⟩

theorem Ipv4.value_lt (ip : Ipv4) : ip.value < UInt32.size := by
  have ha := ip.a.toNat_lt
  have hb := ip.b.toNat_lt
  have hc := ip.c.toNat_lt
  have hd := ip.d.toNat_lt
  simp only [Ipv4.value, UInt32.size]
  omega

/-! ## IPv6 -/

/-- The address of eight groups. -/
def Ipv6.of (g₀ g₁ g₂ g₃ g₄ g₅ g₆ g₇ : UInt16) : Ipv6 :=
  ⟨[g₀, g₁, g₂, g₃, g₄, g₅, g₆, g₇], rfl⟩

/-- The address as a number of 128 bits. -/
def Ipv6.value (ip : Ipv6) : Nat :=
  ip.groups.foldl (fun n g => n * 65536 + g.toNat) 0

/-- The group of two octets. -/
def groupOf (high low : UInt8) : UInt16 :=
  UInt16.ofNat (high.toNat * 256 + low.toNat)

/-- The upper octet of a group. -/
def highOctet (g : UInt16) : UInt8 :=
  UInt8.ofNat (g.toNat / 256)

/-- The lower octet of a group. -/
def lowOctet (g : UInt16) : UInt8 :=
  UInt8.ofNat (g.toNat % 256)

/-- The two groups that carry an IPv4 address. -/
def Ipv4.groups (ip : Ipv4) : List UInt16 :=
  [groupOf ip.a ip.b, groupOf ip.c ip.d]

/-- The IPv4-mapped form of an IPv4 address. -/
def Ipv6.ofIpv4 (ip : Ipv4) : Ipv6 :=
  ⟨[0, 0, 0, 0, 0, 0xFFFF] ++ ip.groups, rfl⟩

/-- The IPv4 address of which this is the IPv4-mapped form. -/
def Ipv6.mapped? (ip : Ipv6) : Option Ipv4 :=
  match ip.groups with
  | [0, 0, 0, 0, 0, 0xFFFF, g, h] => some ⟨highOctet g, lowOctet g, highOctet h, lowOctet h⟩
  | _ => none

/-- The address ::1. -/
def Ipv6.isLoopback (ip : Ipv6) : Bool :=
  ip.groups == [0, 0, 0, 0, 0, 0, 0, 1]

theorem groupOf_highOctet_lowOctet (g : UInt16) : groupOf (highOctet g) (lowOctet g) = g := by
  have hg := g.toNat_lt
  apply UInt16.toNat_inj.1
  simp only [groupOf, highOctet, lowOctet, UInt8.toNat_ofNat', UInt16.toNat_ofNat']
  omega

theorem highOctet_groupOf (h l : UInt8) : highOctet (groupOf h l) = h := by
  have hh := h.toNat_lt
  have hl := l.toNat_lt
  apply UInt8.toNat_inj.1
  simp only [groupOf, highOctet, UInt8.toNat_ofNat', UInt16.toNat_ofNat']
  omega

theorem lowOctet_groupOf (h l : UInt8) : lowOctet (groupOf h l) = l := by
  have hh := h.toNat_lt
  have hl := l.toNat_lt
  apply UInt8.toNat_inj.1
  simp only [groupOf, lowOctet, UInt8.toNat_ofNat', UInt16.toNat_ofNat']
  omega

/-- Only the IPv4-mapped form of an address leads back to it. -/
theorem Ipv6.mapped?_eq_some_iff {ip : Ipv6} {v4 : Ipv4} :
    ip.mapped? = some v4 ↔ ip = .ofIpv4 v4 := by
  constructor
  · intro h
    unfold mapped? at h
    split at h
    · rename_i g k hgroups
      obtain rfl := Option.some.inj h
      obtain ⟨groups, length_eq⟩ := ip
      subst hgroups
      simp only [ofIpv4, Ipv4.groups, groupOf_highOctet_lowOctet]
      rfl
    · injection h
  · rintro rfl
    simp only [mapped?, ofIpv4, Ipv4.groups, List.cons_append, List.nil_append, highOctet_groupOf,
      lowOctet_groupOf]

/-! ## Both families -/

/-- The family of an address. -/
def IpAddr.family : IpAddr → Family
  | .v4 _ => .v4
  | .v6 _ => .v6

/-- The address as a number, below two to the width of its family. -/
def IpAddr.value : IpAddr → Nat
  | .v4 ip => ip.value
  | .v6 ip => ip.value

/-- An address of 127.0.0.0/8, or ::1. -/
def IpAddr.isLoopback : IpAddr → Bool
  | .v4 ip => ip.isLoopback
  | .v6 ip => ip.isLoopback

end NatDiscovery
