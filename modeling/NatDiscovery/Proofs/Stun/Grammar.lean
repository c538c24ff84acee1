import NatDiscovery.Stun.Message

/-!
# `Proofs.Stun.Grammar` — the datagrams that carry a mapped address

A response is read by a walk over the attributes of its body. Here the walk is set against **a
grammar of octets**: how an attribute stands in a body (`Opens`), the bodies that lead to a mapped
address (`Leads`) and those that break off before any (`BreaksOff`). Every body does one of the two,
and the walk finds out which (`firstMapped_eq_some_iff`, `firstMapped_eq_none_iff`). It makes
progress with every attribute and stays within the announced body (`readResponse_iff_leads`).

What a value has to look like is left to `Attribute.wellFormed`; nothing here depends on the forms
but that the two types with a mapped address hold an address.

## Contents
- `numberOf`, `bytesOf_two`: numbers of two octets
- `Attribute.octets`, `Opens`, `splitAttribute_eq_some_iff`: an attribute at the head of a body
- `Leads`, `BreaksOff`, `leads_or_breaksOff`: the bodies
- `firstMapped`, `Leads.firstMapped_eq`, `BreaksOff.firstMapped_eq`: the walk
- `Framed`, `readResponse_of_framed`, `readResponse_iff_leads`: the datagrams
-/

namespace NatDiscovery.Stun

/-! ## Numbers of two octets -/

/-- The number that octets spell, most significant first. -/
def numberOf (octets : Bytes) : Nat :=
  octets.foldl (fun n octet => n * 256 + octet.toNat) 0

theorem toNat_groupOf (high low : UInt8) :
    (groupOf high low).toNat = high.toNat * 256 + low.toNat := by
  have hhigh := high.toNat_lt
  have hlow := low.toNat_lt
  simp only [groupOf, UInt16.toNat_ofNat']
  omega

/-- A group is the number of its two octets. -/
theorem numberOf_pair (high low : UInt8) : numberOf [high, low] = (groupOf high low).toNat := by
  rw [toNat_groupOf]
  simp [numberOf]

theorem bytesOf_two (n : Nat) : bytesOf 2 n = [UInt8.ofNat (n / 256), UInt8.ofNat n] :=
  rfl

/-- A number of sixteen bits is read back from its two octets. -/
theorem toNat_groupOf_ofNat {n : Nat} (h : n < 65536) :
    (groupOf (UInt8.ofNat (n / 256)) (UInt8.ofNat n)).toNat = n := by
  simp only [toNat_groupOf, UInt8.toNat_ofNat']
  omega

/-- A group is read back from its two octets. -/
theorem groupOf_toNat (g : UInt16) :
    groupOf (UInt8.ofNat (g.toNat / 256)) (UInt8.ofNat g.toNat) = g :=
  UInt16.toNat_inj.mp (toNat_groupOf_ofNat g.toNat_lt)

theorem bytesOf_toNat_groupOf (high low : UInt8) :
    bytesOf 2 (groupOf high low).toNat = [high, low] := by
  have hhigh := high.toNat_lt
  have hlow := low.toNat_lt
  rw [bytesOf_two, toNat_groupOf]
  congr 1
  · apply UInt8.toNat_inj.mp
    simp only [UInt8.toNat_ofNat']
    omega
  · congr 1
    apply UInt8.toNat_inj.mp
    simp only [UInt8.toNat_ofNat']
    omega

/-! ## An attribute at the head of a body -/

/-- The octets of an attribute, without any behind its value. -/
def Attribute.octets (a : Attribute) : Bytes :=
  bytesOf 2 a.type.toNat ++ bytesOf 2 a.value.length ++ a.value

/-- The number of octets that fill the value up to a multiple of four. -/
def Attribute.filling (a : Attribute) : Nat :=
  padded a.value.length - a.value.length

/-- The body opens with an attribute, and `rest` is behind it. Octets that do not matter fill the
    value up; the body may end among them. -/
def Opens (body : Bytes) (a : Attribute) (rest : Bytes) : Prop :=
  a.value.length < 65536 ∧ ∃ filler : Bytes, body = a.octets ++ filler ++ rest ∧
    (filler.length = a.filling ∨ filler.length < a.filling ∧ rest = [])

theorem le_padded (n : Nat) : n ≤ padded n := by
  unfold padded
  omega

/-- The value of an attribute, what fills it up, and what is behind that. -/
theorem exists_filler {behind : Bytes} {n : Nat} (h : n ≤ behind.length) :
    ∃ filler : Bytes, behind = behind.take n ++ filler ++ behind.drop (padded n) ∧
      (filler.length = padded n - n ∨
        filler.length < padded n - n ∧ behind.drop (padded n) = []) := by
  have hle := le_padded n
  have hdrop : behind.drop (padded n) = (behind.drop n).drop (padded n - n) := by
    rw [List.drop_drop]
    congr 1
    omega
  refine ⟨(behind.drop n).take (padded n - n), ?_, ?_⟩
  · rw [hdrop, List.append_assoc, List.take_append_drop, List.take_append_drop]
  · rw [List.length_take, List.length_drop, List.drop_eq_nil_iff]
    omega

/-- **An attribute is split off exactly where a body opens with it.** -/
theorem splitAttribute_eq_some_iff {body rest : Bytes} {a : Attribute} :
    splitAttribute body = some (a, rest) ↔ Opens body a rest := by
  constructor
  · intro h
    unfold splitAttribute at h
    split at h
    · rename_i t₁ t₂ l₁ l₂ behind
      simp only [Option.ite_none_right_eq_some, Option.some.injEq, Prod.mk.injEq] at h
      obtain ⟨hfits, rfl, rfl⟩ := h
      have hlength : (behind.take (groupOf l₁ l₂).toNat).length = (groupOf l₁ l₂).toNat :=
        List.length_take_of_le hfits
      obtain ⟨filler, hbehind, hfill⟩ := exists_filler hfits
      simp only [Opens, Attribute.octets, Attribute.filling, hlength, bytesOf_toNat_groupOf]
      refine ⟨(groupOf l₁ l₂).toNat_lt, filler, ?_, hfill⟩
      simp only [List.cons_append, List.nil_append]
      rw [← hbehind]
    · injection h
  · rintro ⟨hlength, filler, rfl, hfill⟩
    have hdrop : (a.value ++ filler ++ rest).drop (padded a.value.length) = rest := by
      have hle := le_padded a.value.length
      unfold Attribute.filling at hfill
      rcases hfill with hfull | ⟨hshort, rfl⟩
      · apply List.drop_left'
        rw [List.length_append]
        omega
      · rw [List.drop_eq_nil_iff, List.append_nil, List.length_append]
        omega
    have htake : (a.value ++ filler ++ rest).take a.value.length = a.value := by
      rw [List.append_assoc]
      exact List.take_left
    simp only [Attribute.octets, bytesOf_two, List.cons_append, List.nil_append, splitAttribute,
      toNat_groupOf_ofNat hlength, groupOf_toNat, htake, hdrop]
    rw [if_pos]
    rw [List.length_append, List.length_append]
    omega

/-- An attribute takes at least the four octets of its type and length. -/
theorem Opens.length_le {body rest : Bytes} {a : Attribute} (h : Opens body a rest) :
    rest.length + 4 ≤ body.length :=
  splitAttribute_length (splitAttribute_eq_some_iff.mpr h)

/-! ## The bodies -/

variable {mask body rest : Bytes} {a : Attribute} {x : Endpoint}

/-- The type is one of the two that carry the mapped address. -/
def Attribute.IsMapped (a : Attribute) : Prop :=
  a.type = mappedAddress ∨ a.type = maskedMappedAddress

/-- The attribute carries a mapped address: as it is, or under the mask. -/
def Attribute.Carries (mask : Bytes) (a : Attribute) (x : Endpoint) : Prop :=
  a.type = mappedAddress ∧ readAddress a.value = some x ∨
    a.type = maskedMappedAddress ∧ readAddress (unmask mask a.value) = some x

/-- **The bodies that lead to a mapped address**: well-formed attributes of other types, then a
    well-formed one that carries it. What comes behind does not matter. -/
inductive Leads (mask : Bytes) (x : Endpoint) : Bytes → Prop where
  | here {body rest : Bytes} {a : Attribute} (opens : Opens body a rest)
      (formed : a.wellFormed mask = true) (carries : a.Carries mask x) : Leads mask x body
  | later {body rest : Bytes} {a : Attribute} (opens : Opens body a rest)
      (formed : a.wellFormed mask = true) (other : ¬a.IsMapped) (leads : Leads mask x rest) :
      Leads mask x body

/-- **The bodies that break off**: before any mapped address they end, or an attribute is cut off or
    malformed. -/
inductive BreaksOff (mask : Bytes) : Bytes → Prop where
  | cutOff {body : Bytes} (nothing : ∀ a rest, ¬Opens body a rest) : BreaksOff mask body
  | malformed {body rest : Bytes} {a : Attribute} (opens : Opens body a rest)
      (ill : a.wellFormed mask = false) : BreaksOff mask body
  | later {body rest : Bytes} {a : Attribute} (opens : Opens body a rest)
      (formed : a.wellFormed mask = true) (other : ¬a.IsMapped) (breaks : BreaksOff mask rest) :
      BreaksOff mask body

theorem Attribute.mapped?_eq_some_iff : a.mapped? mask = some x ↔ a.Carries mask x := by
  have hne : maskedMappedAddress ≠ mappedAddress := by decide
  unfold Attribute.mapped? Attribute.Carries
  by_cases hplain : a.type = mappedAddress
  · simp [hplain, hne.symm]
  · by_cases hmasked : a.type = maskedMappedAddress
    · simp [hmasked, hne]
    · simp [hplain, hmasked]

/-- Attributes of other types carry nothing. -/
theorem Attribute.mapped?_eq_none (h : ¬a.IsMapped) : a.mapped? mask = none := by
  unfold Attribute.IsMapped at h
  rw [not_or] at h
  unfold Attribute.mapped?
  rw [if_neg h.1, if_neg h.2]

/-- Those of the two types do, if they are well formed. -/
theorem Attribute.exists_carries (h : a.IsMapped) (formed : a.wellFormed mask = true) :
    ∃ x, a.Carries mask x := by
  unfold Attribute.wellFormed at formed
  rcases h with htype | htype
  · rw [htype] at formed
    obtain ⟨x, hx⟩ := Option.isSome_iff_exists.mp formed
    exact ⟨x, Or.inl ⟨htype, hx⟩⟩
  · rw [htype] at formed
    obtain ⟨x, hx⟩ := Option.isSome_iff_exists.mp formed
    exact ⟨x, Or.inr ⟨htype, hx⟩⟩

/-- **Every body leads to a mapped address or breaks off.** Each attribute brings the end of the
    body closer. -/
theorem leads_or_breaksOff (mask body : Bytes) :
    (∃ x, Leads mask x body) ∨ BreaksOff mask body := by
  induction hlength : body.length using Nat.strongRecOn generalizing body with
  | _ length ih =>
      by_cases hopens : ∃ a rest, Opens body a rest
      · obtain ⟨a, rest, opens⟩ := hopens
        cases hformed : a.wellFormed mask with
        | false => exact Or.inr (.malformed opens hformed)
        | true =>
            by_cases hmapped : a.IsMapped
            · obtain ⟨x, carries⟩ := Attribute.exists_carries hmapped hformed
              exact Or.inl ⟨x, .here opens hformed carries⟩
            · have hless := opens.length_le
              rcases ih rest.length (by omega) rest rfl with ⟨x, leads⟩ | breaks
              · exact Or.inl ⟨x, .later opens hformed hmapped leads⟩
              · exact Or.inr (.later opens hformed hmapped breaks)
      · refine Or.inr (.cutOff ?_)
        intro a rest opens
        exact hopens ⟨a, rest, opens⟩

/-! ## The walk -/

/-- The mapped address that a walk over the attributes of a body finds first. -/
def firstMapped (mask body : Bytes) : Option Endpoint :=
  (attributes mask body).findSome? (Attribute.mapped? mask)

theorem attributes_of_opens (h : Opens body a rest) :
    attributes mask body = if a.wellFormed mask then a :: attributes mask rest else [] := by
  have hsplit := splitAttribute_eq_some_iff.mpr h
  rw [attributes]
  split
  · rename_i hnone
    rw [hsplit] at hnone
    injection hnone
  · rename_i a' rest' hsome
    rw [hsplit] at hsome
    injection hsome with hsome
    injection hsome with ha hrest
    subst ha hrest
    rfl

theorem attributes_of_cutOff (h : ∀ a rest, ¬Opens body a rest) : attributes mask body = [] := by
  rw [attributes]
  split
  · rfl
  · rename_i a rest hsome
    exact absurd (splitAttribute_eq_some_iff.mp hsome) (h a rest)

/-- The walk takes an attribute for every four octets at most. -/
theorem length_attributes_le (mask body : Bytes) :
    4 * (attributes mask body).length ≤ body.length := by
  induction hlength : body.length using Nat.strongRecOn generalizing body with
  | _ length ih =>
      by_cases hopens : ∃ a rest, Opens body a rest
      · obtain ⟨a, rest, opens⟩ := hopens
        have hless := opens.length_le
        have hrest := ih rest.length (by omega) rest rfl
        rw [attributes_of_opens opens]
        split
        · rw [List.length_cons]
          omega
        · exact Nat.zero_le _
      · rw [attributes_of_cutOff fun a rest opens => hopens ⟨a, rest, opens⟩]
        exact Nat.zero_le _

theorem Leads.firstMapped_eq (h : Leads mask x body) : firstMapped mask body = some x := by
  induction h with
  | here opens formed carries =>
      rw [firstMapped, attributes_of_opens opens, if_pos formed, List.findSome?_cons,
        Attribute.mapped?_eq_some_iff.mpr carries]
  | later opens formed other _ ih =>
      rw [firstMapped, attributes_of_opens opens, if_pos formed, List.findSome?_cons,
        Attribute.mapped?_eq_none other]
      exact ih

theorem BreaksOff.firstMapped_eq (h : BreaksOff mask body) : firstMapped mask body = none := by
  induction h with
  | cutOff nothing =>
      rw [firstMapped, attributes_of_cutOff nothing]
      rfl
  | malformed opens ill =>
      rw [firstMapped, attributes_of_opens opens, ill]
      rfl
  | later opens formed other _ ih =>
      rw [firstMapped, attributes_of_opens opens, if_pos formed, List.findSome?_cons,
        Attribute.mapped?_eq_none other]
      exact ih

/-- **The walk finds the address that a body leads to.** -/
theorem firstMapped_eq_some_iff : firstMapped mask body = some x ↔ Leads mask x body := by
  refine ⟨?_, Leads.firstMapped_eq⟩
  intro h
  rcases leads_or_breaksOff mask body with ⟨y, leads⟩ | breaks
  · rw [leads.firstMapped_eq] at h
    injection h with h
    exact h ▸ leads
  · rw [breaks.firstMapped_eq] at h
    injection h

/-- **It finds none where a body breaks off.** -/
theorem firstMapped_eq_none_iff : firstMapped mask body = none ↔ BreaksOff mask body := by
  refine ⟨?_, BreaksOff.firstMapped_eq⟩
  intro h
  rcases leads_or_breaksOff mask body with ⟨y, leads⟩ | breaks
  · rw [leads.firstMapped_eq] at h
    injection h
  · exact breaks

/-! ## The datagrams -/

/-- The length of the body that a datagram announces. -/
def bodyLength (datagram : Bytes) : Nat :=
  numberOf ((datagram.drop 2).take 2)

/-- The cookie and the transaction id of a datagram, which are the mask. -/
def maskOf (datagram : Bytes) : Bytes :=
  (datagram.drop 4).take 16

/-- The body that a datagram announces. -/
def bodyOf (datagram : Bytes) : Bytes :=
  (datagram.drop 20).take (bodyLength datagram)

/-- The datagram has a header of twenty octets, is of the type of responses, and holds the whole
    body that it announces. -/
structure Framed (datagram : Bytes) : Prop where
  headed : 20 ≤ datagram.length
  typed : datagram.take 2 = [0x01, 0x01]
  whole : 20 + bodyLength datagram ≤ datagram.length

theorem groupOf_eq_bindingResponse_iff {t₁ t₂ : UInt8} :
    groupOf t₁ t₂ = bindingResponse ↔ t₁ = 0x01 ∧ t₂ = 0x01 := by
  constructor
  · intro h
    have hhigh := congrArg highOctet h
    have hlow := congrArg lowOctet h
    rw [highOctet_groupOf] at hhigh
    rw [lowOctet_groupOf] at hlow
    exact ⟨hhigh, hlow⟩
  · rintro ⟨rfl, rfl⟩
    rfl

theorem bodyLength_cons (t₁ t₂ l₁ l₂ : UInt8) (behind : Bytes) :
    bodyLength (t₁ :: t₂ :: l₁ :: l₂ :: behind) = (groupOf l₁ l₂).toNat :=
  numberOf_pair l₁ l₂

/-- What framing means for a datagram with at least its type and length. -/
theorem framed_cons_iff {t₁ t₂ l₁ l₂ : UInt8} {behind : Bytes} :
    Framed (t₁ :: t₂ :: l₁ :: l₂ :: behind) ↔
      (behind.take 16).length = 16 ∧ groupOf t₁ t₂ = bindingResponse ∧
        (groupOf l₁ l₂).toNat ≤ (behind.drop 16).length := by
  rw [groupOf_eq_bindingResponse_iff, List.length_take, List.length_drop]
  constructor
  · rintro ⟨headed, typed, whole⟩
    rw [bodyLength_cons] at whole
    simp only [List.length_cons] at headed whole
    simp only [List.take_succ_cons, List.take_zero, List.cons.injEq, and_true] at typed
    exact ⟨by omega, typed, by omega⟩
  · rintro ⟨headed, ⟨rfl, rfl⟩, whole⟩
    refine ⟨?_, rfl, ?_⟩
    · simp only [List.length_cons]
      omega
    · rw [bodyLength_cons]
      simp only [List.length_cons]
      omega

/-- **A framed datagram is answered by the walk over its body.** -/
theorem readResponse_of_framed {datagram : Bytes} (h : Framed datagram) :
    readResponse datagram = firstMapped (maskOf datagram) (bodyOf datagram) := by
  unfold readResponse
  split
  · rename_i t₁ t₂ l₁ l₂ behind
    rw [if_pos (framed_cons_iff.mp h), firstMapped, bodyOf, bodyLength_cons]
    rfl
  · rename_i hshort
    have headed := h.headed
    rcases datagram with _ | ⟨t₁, _ | ⟨t₂, _ | ⟨l₁, _ | ⟨l₂, behind⟩⟩⟩⟩
    · simp at headed
    · simp at headed
    · simp at headed
    · simp at headed
    · exact absurd rfl (hshort t₁ t₂ l₁ l₂ behind)

/-- No other datagram is answered. -/
theorem readResponse_of_not_framed {datagram : Bytes} (h : ¬Framed datagram) :
    readResponse datagram = none := by
  unfold readResponse
  split
  · exact if_neg fun hframed => h (framed_cons_iff.mpr hframed)
  · rfl

section Behind

variable {datagram datagram' : Bytes}

/-- Octets that lie within the first `k` are the same in all datagrams that begin alike. -/
theorem take_drop_congr {k i n : Nat} (h : datagram'.take k = datagram.take k) (hle : i + n ≤ k) :
    (datagram'.drop i).take n = (datagram.drop i).take n := by
  have hwithin : ∀ d : Bytes, (d.drop i).take n = ((d.take k).drop i).take n := by
    intro d
    rw [List.drop_take, List.take_take, Nat.min_eq_left (by omega)]
  rw [hwithin datagram', h, ← hwithin datagram]

variable (hwhole : 20 + bodyLength datagram ≤ datagram.length)
  (hsame : datagram'.take (20 + bodyLength datagram) = datagram.take (20 + bodyLength datagram))

include hsame

theorem bodyLength_congr : bodyLength datagram' = bodyLength datagram := by
  unfold bodyLength
  rw [take_drop_congr hsame (by omega)]

include hwhole

/-- What is behind the body does not matter for the framing. -/
theorem framed_congr : Framed datagram' ↔ Framed datagram := by
  have hlength := congrArg List.length hsame
  rw [List.length_take, List.length_take, Nat.min_eq_left hwhole] at hlength
  have htyped : datagram'.take 2 = datagram.take 2 := take_drop_congr (i := 0) hsame (by omega)
  constructor
  · rintro ⟨headed, typed, whole⟩
    exact ⟨by omega, by rw [← htyped]; exact typed, hwhole⟩
  · rintro ⟨headed, typed, whole⟩
    refine ⟨by omega, by rw [htyped]; exact typed, ?_⟩
    rw [bodyLength_congr hsame]
    omega

/-- Nor does it matter for the answer. -/
theorem readResponse_congr : readResponse datagram' = readResponse datagram := by
  by_cases hframed : Framed datagram
  · have hmask : maskOf datagram' = maskOf datagram := take_drop_congr hsame (by omega)
    have hbody : bodyOf datagram' = bodyOf datagram := by
      unfold bodyOf
      rw [bodyLength_congr hsame]
      exact take_drop_congr hsame (Nat.le_refl _)
    rw [readResponse_of_framed hframed,
      readResponse_of_framed ((framed_congr hwhole hsame).mpr hframed), hmask, hbody]
  · rw [readResponse_of_not_framed hframed,
      readResponse_of_not_framed fun h => hframed ((framed_congr hwhole hsame).mp h)]

end Behind

/-- **The grammar of responses.** A datagram is answered with an address exactly where it has a
    header, the type of responses and the whole body that it announces, and the body leads to that
    address. It is not answered exactly where it lacks one of these or the body breaks off. The walk
    goes at least four octets on with every attribute, and reads nothing but the mask and the body:
    what comes behind the body can be changed, extended or removed. -/
theorem readResponse_iff_leads (datagram : Bytes) :
    (∀ x, readResponse datagram = some x ↔
      20 ≤ datagram.length ∧ datagram.take 2 = [0x01, 0x01] ∧
        20 + bodyLength datagram ≤ datagram.length ∧
        Leads (maskOf datagram) x (bodyOf datagram)) ∧
    (readResponse datagram = none ↔
      ¬Framed datagram ∨ BreaksOff (maskOf datagram) (bodyOf datagram)) ∧
    (∀ body a rest, Opens body a rest → rest.length + 4 ≤ body.length) ∧
    4 * (attributes (maskOf datagram) (bodyOf datagram)).length ≤ bodyLength datagram ∧
    (∀ datagram', Framed datagram → Framed datagram' → maskOf datagram' = maskOf datagram →
      bodyOf datagram' = bodyOf datagram → readResponse datagram' = readResponse datagram) ∧
    ∀ datagram', 20 + bodyLength datagram ≤ datagram.length →
      datagram'.take (20 + bodyLength datagram) = datagram.take (20 + bodyLength datagram) →
      readResponse datagram' = readResponse datagram := by
  refine ⟨?_, ?_, fun _ _ _ opens => opens.length_le, ?_, ?_, ?_⟩
  · intro x
    rw [← firstMapped_eq_some_iff]
    constructor
    · intro h
      by_cases hframed : Framed datagram
      · rw [readResponse_of_framed hframed] at h
        exact ⟨hframed.headed, hframed.typed, hframed.whole, h⟩
      · rw [readResponse_of_not_framed hframed] at h
        injection h
    · rintro ⟨headed, typed, whole, h⟩
      rw [readResponse_of_framed ⟨headed, typed, whole⟩]
      exact h
  · rw [← firstMapped_eq_none_iff]
    by_cases hframed : Framed datagram
    · rw [readResponse_of_framed hframed, or_iff_right (not_not_intro hframed)]
    · exact iff_of_true (readResponse_of_not_framed hframed) (Or.inl hframed)
  · have hlength := length_attributes_le (maskOf datagram) (bodyOf datagram)
    have hbody : (bodyOf datagram).length ≤ bodyLength datagram := List.length_take_le _ _
    omega
  · intro datagram' hframed hframed' hmask hbody
    rw [readResponse_of_framed hframed, readResponse_of_framed hframed', hmask, hbody]
  · intro datagram' hwhole hsame
    exact readResponse_congr hwhole hsame

/-- A response with an attribute of an unknown type, three octets long and filled up with one, and
    behind it the mapped address 203.0.113.7:40000 under the mask. -/
def maskedResponse : Bytes :=
  [0x01, 0x01, 0x00, 0x14, 0x21, 0x12, 0xA4, 0x42, 1, 2, 3, 4, 5, 6, 7, 8, 9, 10, 11, 12,
    0x7F, 0xFF, 0x00, 0x03, 1, 2, 3, 0xAA,
    0x00, 0x20, 0x00, 0x08, 0, 1, 0xBD, 0x52, 0xEA, 0x12, 0xD5, 0x45]

/-- The response is answered with that address, and so it is with octets behind its body. Without
    its last octet it is not answered. -/
theorem readResponse_maskedResponse :
    readResponse maskedResponse = some (.v4 ⟨203, 0, 113, 7⟩ 40000) ∧
      readResponse (maskedResponse ++ [1, 2, 3]) = readResponse maskedResponse ∧
      readResponse maskedResponse.dropLast = none := by
  obtain ⟨hanswer, -, -, -, -, hbehind⟩ := readResponse_iff_leads maskedResponse
  obtain ⟨-, hsilent, -⟩ := readResponse_iff_leads maskedResponse.dropLast
  refine ⟨?_, hbehind _ (by decide) (by decide), ?_⟩
  · rw [hanswer]
    refine ⟨by decide, by decide, by decide, ?_⟩
    have hfirst : Opens (bodyOf maskedResponse) ⟨0x7FFF, [1, 2, 3]⟩
        [0x00, 0x20, 0x00, 0x08, 0, 1, 0xBD, 0x52, 0xEA, 0x12, 0xD5, 0x45] :=
      splitAttribute_eq_some_iff.mp (by decide)
    have hsecond : Opens [0x00, 0x20, 0x00, 0x08, 0, 1, 0xBD, 0x52, 0xEA, 0x12, 0xD5, 0x45]
        ⟨maskedMappedAddress, [0, 1, 0xBD, 0x52, 0xEA, 0x12, 0xD5, 0x45]⟩ [] :=
      splitAttribute_eq_some_iff.mp (by decide)
    refine .later hfirst (by decide) ?_ (.here hsecond (by decide) (Or.inr ⟨rfl, by decide⟩))
    rintro (htype | htype) <;> exact absurd htype (by decide)
  · rw [hsilent]
    exact Or.inl fun h => absurd h.whole (by decide)

end NatDiscovery.Stun
