import NatDiscovery.ConfigError
import NatDiscovery.Text.Blank

/-!
# `NatDiscovery.Cidr` — address blocks

A block is written as an address and a length, `10.0.0.0/8`. It holds the addresses of the same
family from its first to its last; bits of the written address beyond the length do not matter. The
address follows the lenient dialect, and the length may have leading zeros in as many digits as the
longest length of the family has.

## Contents
- `Cidr`, `Cidr.first`, `Cidr.last`, `Cidr.contains`
- `Cidr.ofText?`: a text that is a block
- `Cidr.parse`: a text that is a block once trimmed, or the fault that quotes it
-/

namespace NatDiscovery

/-- An address and the number of leading bits that count. -/
structure Cidr where
  address : IpAddr
  length : Nat
  length_le : length ≤ address.family.width
  deriving DecidableEq, Repr

namespace Cidr

/-- The number of addresses in the block. -/
def size (c : Cidr) : Nat :=
  Nat.pow 2 (c.address.family.width - c.length)

/-- The least address of the block, as a number. -/
def first (c : Cidr) : Nat :=
  c.address.value / c.size * c.size

/-- The greatest address of the block, as a number. -/
def last (c : Cidr) : Nat :=
  c.first + (c.size - 1)

/-- The address lies in the block. -/
def contains (c : Cidr) (ip : IpAddr) : Bool :=
  c.address.family == ip.family && c.first ≤ ip.value && ip.value ≤ c.last

theorem size_pos (c : Cidr) : 0 < c.size :=
  Nat.two_pow_pos _

/-! ## Reading -/

/-- The numerals that are lengths of the family. -/
def lengthForm : Family → Numeral.Form
  | .v4 => ⟨10, some 2, 33, true⟩
  | .v6 => ⟨10, some 3, 129, true⟩

theorem lengthForm_bound (f : Family) : (lengthForm f).bound = f.width + 1 := by
  cases f <;> rfl

/-- The block of an address whose length comes next in the text. -/
def readLength (address : IpAddr) (cs : List Char) : Option (Cidr × List Char) := do
  let cs ← expect '/' cs
  match h : (lengthForm address.family).read cs with
  | none => none
  | some (length, rest) =>
    some (⟨address, length, by
      have := Numeral.Form.read_lt h
      rw [lengthForm_bound] at this
      omega⟩, rest)

/-- The block that a text spells. -/
def ofText? (cs : List Char) : Option Cidr :=
  (wholly ((Ipv4.readHead .lenient cs).bind fun r => readLength (.v4 r.1) r.2)).or
    (wholly ((Ipv6.readHead .lenient cs).bind fun r => readLength (.v6 r.1) r.2))

/-- The block that a text spells apart from blanks around it. -/
def parse (s : String) : Except ConfigError Cidr :=
  match ofText? (trim s.toList) with
  | some c => .ok c
  | none => .error (.invalidCidr s)

end Cidr

end NatDiscovery
