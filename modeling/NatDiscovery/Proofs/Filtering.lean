import NatDiscovery.Proofs.Cidr.Containment
import NatDiscovery.Proofs.Cidr.Spelling
import NatDiscovery.Proofs.Faults

/-!
# `Proofs.Filtering` — what a filter lets pass

A filter of either kind admits what an inclusion hits, or, without inclusions, what no exclusion
hits (`Filter.Admits`). For names a hit is the same name. For addresses it is a block with the same
first bits, and the blocks come as texts: whatever their spelling, a filter on addresses is read, and
admits what the blocks say (`allowsIp_of_spelled`). Leaving the filter out when there are no texts is
a shortcut that changes nothing.

## Contents
- `Filter.Admits`, `Filter.allows_iff`, `Filter.allowsName_iff`: the precedence of the lists
- `Filter.SpelledBy`, `Filter.blocks_of_spelled`: the blocks behind the texts
- `Filter.passes_addressFilter`: the shortcut
- `allowsIp_of_spelled`: filters on addresses
-/

namespace NatDiscovery

namespace Filter

/-! ## The precedence of the lists -/

section Precedence

variable {α : Type}

/-- An inclusion hits, or no exclusion does and there are no inclusions. -/
def Admits (f : Filter α) (hits : α → Prop) : Prop :=
  if f.includes = [] then ∀ x ∈ f.excludes, ¬hits x else ∃ x ∈ f.includes, hits x

theorem allows_iff {f : Filter α} {test : α → Bool} {hits : α → Prop}
    (h : ∀ x, test x = true ↔ hits x) : f.allows test = true ↔ f.Admits hits := by
  unfold Admits
  split
  · rename_i hnone
    simp only [allows_of_no_includes hnone, Bool.not_eq_true', List.any_eq_false, h]
  · rename_i hsome
    simp only [allows_of_includes hsome, List.any_eq_true, h]

theorem allowsName_iff {f : Filter String} {name : String} :
    f.allowsName name = true ↔ f.Admits (· = name) :=
  allows_iff fun _ => beq_iff_eq

end Precedence

/-! ## The blocks behind the texts -/

/-- The texts spell the blocks, each its own. -/
def SpelledBy (f : Filter Cidr) (texts : Filter String) : Prop :=
  List.Forall₂ Cidr.SpelledBy f.includes texts.includes ∧
    List.Forall₂ Cidr.SpelledBy f.excludes texts.excludes

theorem mapM_parse_of_spelled {cs : List Cidr} {texts : List String}
    (h : List.Forall₂ Cidr.SpelledBy cs texts) : texts.mapM Cidr.parse = .ok cs := by
  induction h with
  | nil => rfl
  | cons hc _ ih =>
      rw [List.mapM_cons, Cidr.parse_of_spelled hc, ih]
      rfl

/-- **A filter is read from all spellings of its blocks.** -/
theorem blocks_of_spelled {f : Filter Cidr} {texts : Filter String} (h : f.SpelledBy texts) :
    texts.blocks = .ok f := by
  unfold blocks
  rw [mapM_parse_of_spelled h.1, mapM_parse_of_spelled h.2]
  rfl

/-- Without texts there is no filter, which lets pass what a filter without blocks does. -/
theorem passes_addressFilter {f : Filter Cidr} {texts : Filter String}
    (h : texts.blocks = .ok f) :
    ∃ g, texts.addressFilter = .ok g ∧ ∀ ip, passes g ip = f.allowsIp ip := by
  rw [addressFilter_eq]
  split
  · rename_i hnone
    have hempty : f = {} := by
      unfold blocks at h
      rw [hnone.1, hnone.2] at h
      injection h with h
      exact h.symm
    subst hempty
    exact ⟨none, rfl, fun _ => rfl⟩
  · exact ⟨some f, by rw [h]; rfl, fun _ => rfl⟩

end Filter

/-! ## Filters on addresses -/

theorem Cidr.contains_eq_false_of_family {c : Cidr} {ip : IpAddr}
    (h : c.address.family ≠ ip.family) : c.contains ip = false := by
  rw [Bool.eq_false_iff, Ne, c.contains_iff]
  intro hcovers
  exact h hcovers.1

/-- **A filter on addresses, from its texts to its answers.** Texts that spell blocks, among them the
    address and the length as they are usually written, are read as these blocks. The filter admits
    the addresses that share the first bits of an inclusion, or of no exclusion where there are no
    inclusions; an address of the other family shares none with a block. Whether the filter is left
    out for want of texts makes no difference. -/
theorem allowsIp_of_spelled (f : Filter Cidr) (texts : Filter String) (h : f.SpelledBy texts) :
    texts.blocks = .ok f ∧
    (∀ ip, f.allowsIp ip = true ↔ f.Admits fun c => c.Covers ip) ∧
    (∃ g, texts.addressFilter = .ok g ∧ ∀ ip, Filter.passes g ip = f.allowsIp ip) ∧
    (∀ (c : Cidr) (ip : IpAddr), c.address.family ≠ ip.family → c.contains ip = false) ∧
    (∀ (c : Cidr) (front back : List Char), (∀ x ∈ front, isBlank x = true) →
      (∀ x ∈ back, isBlank x = true) →
      c.SpelledBy (String.ofList
        (front ++ (c.address.toText ++ '/' :: Numeral.write 10 c.length) ++ back))) := by
  have hblocks := Filter.blocks_of_spelled h
  refine ⟨hblocks, ?_, Filter.passes_addressFilter hblocks, ?_, ?_⟩
  · intro ip
    exact Filter.allows_iff fun c => c.contains_iff ip
  · intro c ip hfamily
    exact Cidr.contains_eq_false_of_family hfamily
  · intro c front back hfront hback
    exact c.spelledBy_written hfront hback

/-- Blocks of both families, with bits set beyond their lengths. -/
def hostBitsFilter : Filter Cidr where
  includes := [⟨.v4 ⟨10, 1, 255, 3⟩, 9, by decide⟩,
    ⟨.v6 (.of 0xFD00 0 0 0 0 0 0x0102 0x0304), 7, by decide⟩]
  excludes := [⟨.v4 ⟨10, 1, 0, 0⟩, 16, by decide⟩]

/-- Unusual spellings of them, with zeros in front, an address of mixed form, and blanks of several
    kinds. -/
def hostBitsTexts : Filter String where
  includes := ["\u3000010.1.255.3/09\t", "FD00:0::1.2.3.4/007"]
  excludes := [" 10.1.0.0/16 "]

theorem hostBitsFilter_spelledBy : hostBitsFilter.SpelledBy hostBitsTexts := by
  have hblank (c : Char) (h : isBlank c = true) : ∀ x ∈ [c], isBlank x = true := by
    intro x hx
    rw [List.mem_singleton.mp hx]
    exact h
  have hfront : (⟨10, 1, 255, 3⟩ : Ipv4).SpelledBy "010.1.255.3".toList := by
    refine ⟨"010".toList, ['1'], "255".toList, ['3'], rfl, ?_⟩
    decide +kernel
  have hpair : (⟨1, 2, 3, 4⟩ : Ipv4).SpelledBy "1.2.3.4".toList := by
    refine ⟨['1'], ['2'], ['3'], ['4'], rfl, ?_⟩
    decide +kernel
  have hplain : (⟨10, 1, 0, 0⟩ : Ipv4).SpelledBy "10.1.0.0".toList := by
    refine ⟨"10".toList, ['1'], ['0'], ['0'], rfl, ?_⟩
    decide +kernel
  have hfirst : groupForm.Spells (0xFD00 : UInt16).toNat "FD00".toList := by
    decide +kernel
  have hsecond : groupForm.Spells (0 : UInt16).toNat ['0'] := by
    decide +kernel
  have hbefore : SideSpelledBy false [0xFD00, 0] ("FD00".toList ++ ':' :: ['0']) :=
    .some (.cons hfirst (.single hsecond))
  have hgroups : (Ipv6.of 0xFD00 0 0 0 0 0 0x0102 0x0304).groups =
      [0xFD00, 0] ++ List.replicate 4 0 ++ (⟨1, 2, 3, 4⟩ : Ipv4).groups := rfl
  have hmixed : (Ipv6.of 0xFD00 0 0 0 0 0 0x0102 0x0304).SpelledBy
      (("FD00".toList ++ ':' :: ['0']) ++ ':' :: ':' :: "1.2.3.4".toList) :=
    .gap hgroups (by decide) hbefore (.some (.dotted hpair))
  refine ⟨.cons ?_ (.cons ?_ .nil), .cons ?_ .nil⟩
  · exact ⟨['\u3000'], _, "09".toList, ['\t'], rfl, hblank _ rfl, hblank _ rfl, hfront,
      by decide +kernel⟩
  · exact ⟨[], _, "007".toList, [], rfl, List.forall_mem_nil _, List.forall_mem_nil _, hmixed,
      by decide +kernel⟩
  · exact ⟨[' '], _, "16".toList, [' '], rfl, hblank _ rfl, hblank _ rfl, hplain,
      by decide +kernel⟩

/-- Nine bits of 10.1.255.3 are shared by 10.127.0.1 and not by 10.128.0.1. The IPv4-mapped form of
    the address itself is of the other family, and the exclusion does not matter. -/
theorem allowsIp_of_spelled_hostBits :
    hostBitsFilter.SpelledBy hostBitsTexts ∧
      hostBitsTexts.blocks = .ok hostBitsFilter ∧
      hostBitsFilter.allowsIp (.v4 ⟨10, 127, 0, 1⟩) = true ∧
      hostBitsFilter.allowsIp (.v4 ⟨10, 128, 0, 1⟩) = false ∧
      hostBitsFilter.allowsIp (.v4 ⟨10, 1, 0, 1⟩) = true ∧
      hostBitsFilter.allowsIp (.v6 (.ofIpv4 ⟨10, 1, 255, 3⟩)) = false := by
  obtain ⟨hblocks, hallows, -⟩ :=
    allowsIp_of_spelled hostBitsFilter hostBitsTexts hostBitsFilter_spelledBy
  simp only [← Bool.not_eq_true, hallows, Filter.Admits]
  exact ⟨hostBitsFilter_spelledBy, hblocks, by decide, by decide, by decide, by decide⟩

end NatDiscovery
