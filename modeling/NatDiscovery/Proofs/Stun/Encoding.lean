import Mathlib.Data.List.Basic
import NatDiscovery.Proofs.Stun.Grammar

/-!
# `Proofs.Stun.Encoding` — the address that a response was made for is read back

A server answers with the address that it saw, plain or under the mask, and may put attributes in
front that the reader does not know. Here such **responses are made** (`Response`), and the walk
over them ends at the address: the unknown attributes are stepped over with all that fills them up
(`Leads.unknowns`), and the value of the address is read (`readAddress_addressValue`), once the mask
is off (`unmask_maskedValue`).

## Contents
- `octetsOf`, `octetsOfIp`: the octets of groups and addresses
- `addressValue`, `maskedValue`: the values that carry an address, and what is read of them
- `UnknownAttribute`, `Leads.unknowns`: the attributes in front
- `AddressForm`, `AddressForm.leads`: the attribute with the address
- `Response`, `readResponse_datagram`: the responses
-/

namespace NatDiscovery.Stun

/-! ## The octets of addresses -/

/-- The octets of a group, upper first. -/
def octetsOf (g : UInt16) : Bytes :=
  [highOctet g, lowOctet g]

/-- The octets of an address in order. -/
def octetsOfIp : IpAddr → Bytes
  | .v4 ip => ip.octets
  | .v6 ip => ip.groups.flatMap octetsOf

theorem length_flatMap_octetsOf (groups : List UInt16) :
    (groups.flatMap octetsOf).length = 2 * groups.length := by
  induction groups with
  | nil => rfl
  | cons g groups ih =>
      rw [List.flatMap_cons, List.length_append, ih, List.length_cons]
      simp only [octetsOf, List.length_cons, List.length_nil]
      omega

/-- Groups are read back from their octets. -/
theorem groupsOf_octetsOf (groups : List UInt16) : groupsOf (groups.flatMap octetsOf) = groups := by
  induction groups with
  | nil => rfl
  | cons g groups ih =>
      rw [List.flatMap_cons]
      show groupOf (highOctet g) (lowOctet g) :: groupsOf (groups.flatMap octetsOf) = g :: groups
      rw [groupOf_highOctet_lowOctet, ih]

theorem length_octetsOfIp (ip : IpAddr) :
    (octetsOfIp ip).length = 4 ∨ (octetsOfIp ip).length = 16 := by
  cases ip with
  | v4 ip => exact Or.inl rfl
  | v6 ip =>
      right
      show (ip.groups.flatMap octetsOf).length = 16
      rw [length_flatMap_octetsOf, ip.length_eq]

/-! ## Values with an address -/

/-- The octet that stands for a family. -/
def familyOctet : Family → UInt8
  | .v4 => 1
  | .v6 => 2

/-- The value that carries an address as it is: a zero octet, the family, the port, the address. -/
def addressValue (ip : IpAddr) (port : Port) : Bytes :=
  0 :: familyOctet ip.family :: (bytesOf 2 port.toNat ++ octetsOfIp ip)

/-- The value that carries an address under a mask. The port is combined with the head of the mask,
    and so is the address. -/
def maskedValue (mask : Bytes) (ip : IpAddr) (port : Port) : Bytes :=
  0 :: familyOctet ip.family ::
    (xorBytes mask (bytesOf 2 port.toNat) ++ xorBytes mask (octetsOfIp ip))

theorem readAddress_addressValue (ip : IpAddr) (port : Port) :
    readAddress (addressValue ip port) = some (.of ip port) := by
  cases ip with
  | v4 ip =>
      show some (Endpoint.v4 ip (groupOf (UInt8.ofNat (port.toNat / 256)) (UInt8.ofNat port.toNat)))
        = some (.v4 ip port)
      rw [groupOf_toNat]
  | v6 ip =>
      have hgroups : (groupsOf (ip.groups.flatMap octetsOf)).take 8 = ip.groups := by
        rw [groupsOf_octetsOf]
        exact List.take_of_length_le (Nat.le_of_eq ip.length_eq)
      have hlength := ip.length_eq
      simp only [addressValue, octetsOfIp, IpAddr.family, familyOctet, bytesOf_two,
        List.cons_append, List.nil_append, readAddress, hgroups, groupOf_toNat]
      rw [dif_pos hlength]
      rfl

/-- The mask comes off by putting it on again. -/
theorem xorBytes_xorBytes {mask value : Bytes} (h : value.length ≤ mask.length) :
    xorBytes mask (xorBytes mask value) = value := by
  induction value generalizing mask with
  | nil => rfl
  | cons octet value ih =>
      cases mask with
      | nil => simp at h
      | cons m mask =>
          have hrest : xorBytes mask (xorBytes mask value) = value :=
            ih (Nat.le_of_succ_le_succ h)
          show (octet ^^^ m ^^^ m) :: xorBytes mask (xorBytes mask value) = octet :: value
          rw [UInt8.xor_assoc, UInt8.xor_self, UInt8.xor_zero, hrest]

theorem length_xorBytes {mask value : Bytes} (h : value.length ≤ mask.length) :
    (xorBytes mask value).length = value.length := by
  rw [xorBytes, List.length_zipWith, Nat.min_eq_left h]

section Masked

variable {mask : Bytes} (hmask : mask.length = 16) (ip : IpAddr) (port : Port)

include hmask

theorem length_port_le : (bytesOf 2 port.toNat).length ≤ mask.length := by
  rw [length_bytesOf, hmask]
  omega

theorem length_octetsOfIp_le : (octetsOfIp ip).length ≤ mask.length := by
  rcases length_octetsOfIp ip with hip | hip
  · omega
  · omega

theorem length_maskedValue : (maskedValue mask ip port).length = 4 + (octetsOfIp ip).length := by
  rw [maskedValue, List.length_cons, List.length_cons, List.length_append,
    length_xorBytes (length_port_le hmask port), length_xorBytes (length_octetsOfIp_le hmask ip),
    length_bytesOf]
  omega

/-- A masked value is a plain one once the mask is off. -/
theorem unmask_maskedValue : unmask mask (maskedValue mask ip port) = addressValue ip port := by
  have hport := length_port_le hmask port
  have htwo : (xorBytes mask (bytesOf 2 port.toNat)).length = 2 := by
    rw [length_xorBytes hport, length_bytesOf]
  obtain ⟨p₁, p₂, hp⟩ : ∃ p₁ p₂, xorBytes mask (bytesOf 2 port.toNat) = [p₁, p₂] :=
    List.length_eq_two.mp htwo
  calc unmask mask (maskedValue mask ip port)
      = 0 :: familyOctet ip.family ::
          (xorBytes mask [p₁, p₂] ++ xorBytes mask (xorBytes mask (octetsOfIp ip))) := by
        rw [maskedValue, hp]
        rfl
    _ = addressValue ip port := by
        rw [← hp, xorBytes_xorBytes hport, xorBytes_xorBytes (length_octetsOfIp_le hmask ip)]
        rfl

end Masked

/-! ## The attributes in front -/

/-- An attribute of a type that the reader does not know, and what fills it up. -/
structure UnknownAttribute extends Attribute where
  filler : Bytes
  unknown : contentOf type = .free
  filled : filler.length = toAttribute.filling

/-- The octets of an unknown attribute, up to a multiple of four. -/
def UnknownAttribute.block (u : UnknownAttribute) : Bytes :=
  u.toAttribute.octets ++ u.filler

theorem UnknownAttribute.length_block (u : UnknownAttribute) :
    u.block.length = 4 + u.value.length + u.filler.length := by
  rw [block, Attribute.octets, List.length_append, List.length_append, List.length_append,
    length_bytesOf, length_bytesOf]

/-- Attributes of unknown types are well formed, whatever they hold. -/
theorem UnknownAttribute.wellFormed (u : UnknownAttribute) (mask : Bytes) :
    u.toAttribute.wellFormed mask = true := by
  rw [Attribute.wellFormed, u.unknown]
  rfl

/-- They are of neither type that carries a mapped address, since both are known. -/
theorem UnknownAttribute.not_isMapped (u : UnknownAttribute) : ¬u.toAttribute.IsMapped := by
  have hunknown := u.unknown
  rintro (htype | htype)
  · rw [htype] at hunknown
    injection hunknown
  · rw [htype] at hunknown
    injection hunknown

section Front

variable {mask rest : Bytes} {x : Endpoint} (h : Leads mask x rest)

include h

/-- Where a body leads is not changed by an unknown attribute in front. -/
theorem Leads.unknown (u : UnknownAttribute) (hlength : u.block.length < 65536) :
    Leads mask x (u.block ++ rest) := by
  have hvalue : u.value.length < 65536 := by
    rw [u.length_block] at hlength
    omega
  have opens : Opens (u.block ++ rest) u.toAttribute rest :=
    ⟨hvalue, u.filler, rfl, Or.inl u.filled⟩
  exact .later opens (u.wellFormed mask) u.not_isMapped h

/-- Nor by any number of them. -/
theorem Leads.unknowns (before : List UnknownAttribute)
    (hlength : (before.flatMap UnknownAttribute.block).length < 65536) :
    Leads mask x (before.flatMap UnknownAttribute.block ++ rest) := by
  induction before with
  | nil => exact h
  | cons u before ih =>
      rw [List.flatMap_cons, List.length_append] at hlength
      rw [List.flatMap_cons, List.append_assoc]
      exact (ih (by omega)).unknown u (by omega)

end Front

/-! ## The attribute with the address -/

/-- The two ways to carry an address. -/
inductive AddressForm where
  | plain
  | masked
  deriving DecidableEq, Repr

/-- The attribute that carries an address in one of the forms. -/
def AddressForm.carrier (mask : Bytes) (ip : IpAddr) (port : Port) : AddressForm → Attribute
  | .plain => ⟨mappedAddress, addressValue ip port⟩
  | .masked => ⟨maskedMappedAddress, maskedValue mask ip port⟩

/-- An attribute that carries an address is well formed. -/
theorem Attribute.Carries.wellFormed {mask : Bytes} {a : Attribute} {x : Endpoint}
    (h : a.Carries mask x) : a.wellFormed mask = true := by
  unfold Attribute.wellFormed
  rcases h with ⟨htype, hread⟩ | ⟨htype, hread⟩
  · rw [htype]
    exact Option.isSome_iff_exists.mpr ⟨x, hread⟩
  · rw [htype]
    exact Option.isSome_iff_exists.mpr ⟨x, hread⟩

section Carrier

variable {mask : Bytes} (hmask : mask.length = 16) (form : AddressForm) (ip : IpAddr) (port : Port)

include hmask

theorem AddressForm.length_value :
    (form.carrier mask ip port).value.length = 4 + (octetsOfIp ip).length := by
  cases form with
  | plain =>
      show (addressValue ip port).length = _
      rw [addressValue, List.length_cons, List.length_cons, List.length_append, length_bytesOf]
      omega
  | masked => exact length_maskedValue hmask ip port

theorem AddressForm.carries : (form.carrier mask ip port).Carries mask (.of ip port) := by
  cases form with
  | plain => exact Or.inl ⟨rfl, readAddress_addressValue ip port⟩
  | masked =>
      refine Or.inr ⟨rfl, ?_⟩
      show readAddress (unmask mask (maskedValue mask ip port)) = some (.of ip port)
      rw [unmask_maskedValue hmask, readAddress_addressValue]

/-- The attribute needs no filler, so whatever comes behind it is not a part of it. -/
theorem AddressForm.opens (tail : Bytes) :
    Opens ((form.carrier mask ip port).octets ++ tail) (form.carrier mask ip port) tail := by
  have hvalue := form.length_value hmask ip port
  have hip := length_octetsOfIp ip
  refine ⟨by omega, [], ?_, Or.inl ?_⟩
  · rw [List.append_nil]
  · rw [Attribute.filling, hvalue]
    rcases hip with hip | hip
    · rw [hip]
      rfl
    · rw [hip]
      rfl

theorem AddressForm.leads (tail : Bytes) :
    Leads mask (.of ip port) ((form.carrier mask ip port).octets ++ tail) := by
  have carries := form.carries hmask ip port
  exact .here (form.opens hmask ip port tail) carries.wellFormed carries

end Carrier

/-! ## The responses -/

/-- A response: cookie and transaction id, unknown attributes, an address in one of the forms, and
    any octets behind it. -/
structure Response where
  cookie : Bytes
  cookie_length : cookie.length = 4
  id : TransactionId
  before : List UnknownAttribute
  form : AddressForm
  ip : IpAddr
  port : Port
  tail : Bytes

namespace Response

/-- The mask of a response, from the fifth octet of its datagram on. -/
def mask (r : Response) : Bytes :=
  r.cookie ++ r.id.bytes

/-- The octets behind the header. -/
def body (r : Response) : Bytes :=
  r.before.flatMap UnknownAttribute.block ++
    ((r.form.carrier r.mask r.ip r.port).octets ++ r.tail)

/-- The octets of a response. -/
def datagram (r : Response) : Bytes :=
  bytesOf 2 bindingResponse.toNat ++ bytesOf 2 r.body.length ++ r.mask ++ r.body

variable (r : Response) (beyond : Bytes)

theorem length_mask : r.mask.length = 16 := by
  rw [mask, List.length_append, r.cookie_length, r.id.length_eq]

theorem datagram_append : r.datagram ++ beyond =
    0x01 :: 0x01 :: UInt8.ofNat (r.body.length / 256) :: UInt8.ofNat r.body.length ::
      (r.mask ++ (r.body ++ beyond)) := by
  rw [datagram, List.append_assoc, List.append_assoc, List.append_assoc]
  rfl

theorem maskOf_datagram : maskOf (r.datagram ++ beyond) = r.mask := by
  rw [datagram_append]
  exact List.take_left' r.length_mask

variable (hfits : r.body.length < 65536)

include hfits

theorem bodyLength_datagram : bodyLength (r.datagram ++ beyond) = r.body.length := by
  rw [datagram_append, bodyLength_cons, toNat_groupOf_ofNat hfits]

theorem bodyOf_datagram : bodyOf (r.datagram ++ beyond) = r.body := by
  rw [bodyOf, bodyLength_datagram r beyond hfits, datagram_append]
  show ((r.mask ++ (r.body ++ beyond)).drop 16).take r.body.length = r.body
  rw [List.drop_left' r.length_mask, List.take_left]

theorem framed_datagram : Framed (r.datagram ++ beyond) := by
  have hlength : (r.datagram ++ beyond).length = 20 + r.body.length + beyond.length := by
    rw [datagram_append]
    simp only [List.length_cons, List.length_append, r.length_mask]
    omega
  refine ⟨by omega, ?_, ?_⟩
  · rw [datagram_append]
    rfl
  · rw [bodyLength_datagram r beyond hfits]
    omega

theorem leads_body : Leads r.mask (.of r.ip r.port) r.body := by
  have hcarrier := r.form.leads r.length_mask r.ip r.port r.tail
  refine hcarrier.unknowns r.before ?_
  rw [body, List.length_append] at hfits
  omega

end Response

/-- **The address that a response was made for is read back**, whatever the cookie, the transaction
    id, the unknown attributes in front, the octets behind the address and those behind the body. -/
theorem readResponse_datagram (r : Response) (beyond : Bytes) (hfits : r.body.length ≤ 65535) :
    readResponse (r.datagram ++ beyond) = some (.of r.ip r.port) := by
  have hlt := Nat.lt_succ_of_le hfits
  rw [readResponse_of_framed (r.framed_datagram beyond hlt), r.maskOf_datagram beyond,
    r.bodyOf_datagram beyond hlt]
  exact (r.leads_body hlt).firstMapped_eq

/-- A response for [2001:db8::1]:40000 under the mask. An unknown attribute of three octets stands
    in front, a cut-off one behind. -/
def maskedIpv6Response : Response where
  cookie := [0x21, 0x12, 0xA4, 0x42]
  cookie_length := rfl
  id := ⟨[1, 2, 3, 4, 5, 6, 7, 8, 9, 10, 11, 12], rfl⟩
  before :=
    [{ type := 0x7FFF, value := [1, 2, 3], filler := [0xAA], unknown := rfl, filled := rfl }]
  form := .masked
  ip := .v6 (.of 0x2001 0x0DB8 0 0 0 0 0 1)
  port := 40000
  tail := [0x00, 0x01, 0xFF]

/-- It is read back, also with octets behind the body. -/
theorem readResponse_maskedIpv6Response :
    readResponse ([0x01, 0x01, 0x00, 0x23, 0x21, 0x12, 0xA4, 0x42,
      1, 2, 3, 4, 5, 6, 7, 8, 9, 10, 11, 12,
      0x7F, 0xFF, 0x00, 0x03, 1, 2, 3, 0xAA,
      0x00, 0x20, 0x00, 0x14, 0, 2, 0xBD, 0x52, 0x01, 0x13, 0xA9, 0xFA,
      1, 2, 3, 4, 5, 6, 7, 8, 9, 10, 11, 13,
      0x00, 0x01, 0xFF] ++ [7, 7]) =
      some (.v6 (.of 0x2001 0x0DB8 0 0 0 0 0 1) 40000 0) :=
  readResponse_datagram maskedIpv6Response [7, 7] (by decide)

end NatDiscovery.Stun
