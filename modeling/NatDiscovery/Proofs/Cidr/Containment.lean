import Mathlib.Algebra.Group.Nat.Defs
import Mathlib.Data.List.Induction
import NatDiscovery.Cidr

/-!
# `Proofs.Cidr.Containment` — a block holds the addresses that share its first bits

`Cidr.contains` compares numbers: an address lies between the first and the last one of a block.
Here the same is said **bit by bit**. The bits of an address are those of its octets or groups, the
most significant one first, and a block of length `n` holds the addresses of its family whose first
`n` bits are those of the written address (`Cidr.contains_iff`). Bits beyond the length do not
matter, be it none of them or all.

The way from one to the other is that the first bits of a number are the bits of its quotient by a
power of two (`take_bitsOf`), and an interval of the block's size holds the numbers with one quotient.

## Contents
- `bitsOf`, `bitsOf_add`, `bitsOf_inj`, `take_bitsOf`: the bits of a number
- `bitsOf_ofWords`, `IpAddr.bits`, `IpAddr.bits_eq`: the bits of an address
- `Cidr.Covers`, `Cidr.contains_iff`
-/

namespace NatDiscovery

/-! ## The bits of a number -/

/-- The last `width` bits of a number, most significant first. -/
def bitsOf : (width : Nat) → Nat → List Bool
  | 0, _ => []
  | width + 1, n => bitsOf width (n / 2) ++ [n % 2 == 1]

@[simp] theorem length_bitsOf (width n : Nat) : (bitsOf width n).length = width := by
  induction width generalizing n with
  | zero => rfl
  | succ width ih => rw [bitsOf, List.length_append, ih, List.length_singleton]

/-- The bits of a number put together from an upper and a lower part. -/
theorem bitsOf_add (m k n : Nat) {d : Nat} (hd : d < 2 ^ k) :
    bitsOf (m + k) (n * 2 ^ k + d) = bitsOf m n ++ bitsOf k d := by
  induction k generalizing d with
  | zero =>
      obtain rfl : d = 0 := Nat.lt_one_iff.mp hd
      rw [Nat.pow_zero, Nat.mul_one, bitsOf, List.append_nil]
      rfl
  | succ k ih =>
      -- The last bit is that of the lower part, and the others are the case before.
      have hpow : n * 2 ^ (k + 1) = 2 * (n * 2 ^ k) := by
        rw [Nat.pow_succ, ← Nat.mul_assoc, Nat.mul_comm]
      have hhalf : (n * 2 ^ (k + 1) + d) / 2 = n * 2 ^ k + d / 2 := by omega
      have hlast : (n * 2 ^ (k + 1) + d) % 2 = d % 2 := by omega
      have hd : d / 2 < 2 ^ k := by
        rw [Nat.pow_succ] at hd
        omega
      rw [← Nat.add_assoc, bitsOf, bitsOf, hhalf, hlast, ih hd, List.append_assoc]

/-- Different numbers have different bits. -/
theorem bitsOf_inj {width x y : Nat} (hx : x < 2 ^ width) (hy : y < 2 ^ width) :
    bitsOf width x = bitsOf width y ↔ x = y := by
  refine ⟨?_, fun h => h ▸ rfl⟩
  induction width generalizing x y with
  | zero =>
      intro _
      rw [Nat.lt_one_iff.mp hx, Nat.lt_one_iff.mp hy]
  | succ width ih =>
      intro h
      rw [Nat.pow_succ] at hx hy
      obtain ⟨hhalf, hlast⟩ := List.append_inj' h rfl
      have hhalf : x / 2 = y / 2 := ih (by omega) (by omega) hhalf
      have hlast : (x % 2 == 1) = (y % 2 == 1) := List.head_eq_of_cons_eq hlast
      rw [Bool.eq_iff_iff, beq_iff_eq, beq_iff_eq] at hlast
      omega

/-- The first bits of a number are those of its quotient. -/
theorem take_bitsOf (m k n : Nat) : (bitsOf (m + k) n).take m = bitsOf m (n / 2 ^ k) := by
  have hsplit : n / 2 ^ k * 2 ^ k + n % 2 ^ k = n := by
    rw [Nat.mul_comm]
    exact Nat.div_add_mod n (2 ^ k)
  conv_lhs => rw [← hsplit, bitsOf_add m k _ (Nat.mod_lt n (Nat.two_pow_pos k))]
  exact List.take_left' (length_bitsOf m _)

/-- Numbers agree on their first bits when they have the same quotient. -/
theorem take_bitsOf_eq_iff {m k x y : Nat} (hx : x < 2 ^ (m + k)) (hy : y < 2 ^ (m + k)) :
    (bitsOf (m + k) x).take m = (bitsOf (m + k) y).take m ↔ x / 2 ^ k = y / 2 ^ k := by
  rw [Nat.pow_add] at hx hy
  rw [take_bitsOf, take_bitsOf]
  exact bitsOf_inj (Nat.div_lt_of_lt_mul (by rwa [Nat.mul_comm] at hx))
    (Nat.div_lt_of_lt_mul (by rwa [Nat.mul_comm] at hy))

/-! ## The bits of an address -/

/-- The number that words of so many bits spell, most significant first. -/
def ofWords (width : Nat) (words : List Nat) : Nat :=
  words.foldl (fun n word => n * 2 ^ width + word) 0

theorem ofWords_concat (width : Nat) (words : List Nat) (word : Nat) :
    ofWords width (words ++ [word]) = ofWords width words * 2 ^ width + word :=
  List.foldl_append ..

theorem bitsOf_ofWords {width : Nat} {words : List Nat} (h : ∀ word ∈ words, word < 2 ^ width) :
    bitsOf (words.length * width) (ofWords width words) = words.flatMap (bitsOf width) := by
  induction words using List.reverseRecOn with
  | nil => rw [List.length_nil, Nat.zero_mul]; rfl
  | append_singleton words word ih =>
      have hword := h word (List.mem_append_right _ List.mem_cons_self)
      rw [List.length_append, List.length_singleton, Nat.add_mul, Nat.one_mul, ofWords_concat,
        bitsOf_add _ _ _ hword, ih fun w hw => h w (List.mem_append_left _ hw),
        List.flatMap_append, List.flatMap_singleton]

theorem ofWords_lt {width : Nat} {words : List Nat} (h : ∀ word ∈ words, word < 2 ^ width) :
    ofWords width words < 2 ^ (words.length * width) := by
  induction words using List.reverseRecOn with
  | nil => rw [List.length_nil, Nat.zero_mul]; exact Nat.one_pos
  | append_singleton words word ih =>
      have hword := h word (List.mem_append_right _ List.mem_cons_self)
      have hwords := ih fun w hw => h w (List.mem_append_left _ hw)
      rw [ofWords_concat, List.length_append, List.length_singleton, Nat.add_mul, Nat.one_mul,
        Nat.pow_add]
      calc ofWords width words * 2 ^ width + word
          < (ofWords width words + 1) * 2 ^ width := by rw [Nat.add_one_mul]; omega
        _ ≤ 2 ^ (words.length * width) * 2 ^ width := Nat.mul_le_mul_right _ hwords

namespace IpAddr

/-- The bits of an address, octet by octet or group by group, the most significant one first. -/
def bits : IpAddr → List Bool
  | .v4 ip => ip.octets.flatMap fun o => bitsOf 8 o.toNat
  | .v6 ip => ip.groups.flatMap fun g => bitsOf 16 g.toNat

/-- The octets or groups as numbers. -/
def words : IpAddr → List Nat
  | .v4 ip => ip.octets.map UInt8.toNat
  | .v6 ip => ip.groups.map UInt16.toNat

/-- The number of bits of an octet or a group. -/
def wordWidth : IpAddr → Nat
  | .v4 _ => 8
  | .v6 _ => 16

theorem words_lt (ip : IpAddr) : ∀ word ∈ ip.words, word < 2 ^ ip.wordWidth := by
  intro word hword
  cases ip with
  | v4 ip =>
      obtain ⟨o, -, rfl⟩ := List.mem_map.mp hword
      exact o.toNat_lt
  | v6 ip =>
      obtain ⟨g, -, rfl⟩ := List.mem_map.mp hword
      exact g.toNat_lt

theorem length_words_mul (ip : IpAddr) :
    ip.words.length * ip.wordWidth = ip.family.width := by
  cases ip with
  | v4 ip => rfl
  | v6 ip =>
      rw [words, List.length_map, ip.length_eq]
      rfl

theorem ofWords_words (ip : IpAddr) : ofWords ip.wordWidth ip.words = ip.value := by
  cases ip with
  | v4 ip =>
      show (((0 * 256 + ip.a.toNat) * 256 + ip.b.toNat) * 256 + ip.c.toNat) * 256 + ip.d.toNat = _
      rw [Nat.zero_mul, Nat.zero_add]
      rfl
  | v6 ip => exact List.foldl_map

theorem value_lt (ip : IpAddr) : ip.value < 2 ^ ip.family.width := by
  rw [← ofWords_words, ← length_words_mul]
  exact ofWords_lt ip.words_lt

/-- The bits of an address are those of its number. -/
theorem bits_eq (ip : IpAddr) : ip.bits = bitsOf ip.family.width ip.value := by
  rw [← ofWords_words, ← length_words_mul, bitsOf_ofWords ip.words_lt]
  cases ip with
  | v4 ip => exact (List.flatMap_map ..).symm
  | v6 ip => exact (List.flatMap_map ..).symm

end IpAddr

/-! ## Containment -/

namespace Cidr

/-- The address is of the block's family and has its first bits. -/
def Covers (c : Cidr) (ip : IpAddr) : Prop :=
  c.address.family = ip.family ∧ c.address.bits.take c.length = ip.bits.take c.length

instance (c : Cidr) (ip : IpAddr) : Decidable (c.Covers ip) :=
  inferInstanceAs (Decidable (_ ∧ _))

/-- An interval that starts at a multiple of its size holds the numbers with one quotient. -/
theorem between_iff {s x y : Nat} (hs : 0 < s) :
    x / s * s ≤ y ∧ y ≤ x / s * s + (s - 1) ↔ x / s = y / s := by
  rw [eq_comm (a := x / s), Nat.div_eq_iff hs, Nat.add_sub_assoc hs]

/-- **A block holds the addresses of its family that share its first bits.** -/
theorem contains_iff (c : Cidr) (ip : IpAddr) : c.contains ip = true ↔ c.Covers ip := by
  obtain ⟨k, hk⟩ := Nat.exists_eq_add_of_le c.length_le
  have hsize : c.size = 2 ^ k := by
    show 2 ^ (c.address.family.width - c.length) = _
    rw [hk, Nat.add_sub_cancel_left]
  simp only [contains, Covers, Bool.and_eq_true, beq_iff_eq, decide_eq_true_eq, and_assoc]
  refine and_congr_right ?_
  intro hfamily
  rw [first, last, first, between_iff c.size_pos, hsize, IpAddr.bits_eq, IpAddr.bits_eq, ← hfamily,
    hk]
  have haddress := c.address.value_lt
  have hip := ip.value_lt
  rw [← hfamily] at hip
  rw [hk] at haddress hip
  exact (take_bitsOf_eq_iff haddress hip).symm

end Cidr

end NatDiscovery
