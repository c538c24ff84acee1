import NatDiscovery.Endpoint

/-!
# `NatDiscovery.Stun.Attribute` — the attributes of a message

An attribute is a type, a length and a value, padded so that the next one starts at a multiple of
four. The values of known types have a form, `Content`; an attribute of an unknown type is well
formed whatever it holds. Two types carry the mapped address of the asker: plain, and with a mask
taken from the head of the message.

## Contents
- `Attribute`, `splitAttribute`: the attribute at the head of a body, and what follows it
- `readAddress`, `unmask`: addresses in values
- `Content`, `contentOf`, `Attribute.wellFormed`: the form of the values of known types
- `attributes`: the well-formed attributes up to the first malformed one
- `Attribute.mapped?`: the mapped address that an attribute carries
-/

namespace NatDiscovery.Stun

/-- Octets as they are sent. -/
abbrev Bytes := List UInt8

/-- A type and a value. -/
structure Attribute where
  type : UInt16
  value : Bytes
  deriving DecidableEq, Repr

/-! ## Splitting a body -/

/-- A length rounded up to a multiple of four. -/
def padded (length : Nat) : Nat :=
  (length + 3) / 4 * 4

/-- The attribute at the head of a body and the body behind it. The padding of the last attribute
may be cut off, its value may not. -/
def splitAttribute : Bytes → Option (Attribute × Bytes)
  | t₁ :: t₂ :: l₁ :: l₂ :: rest =>
    let length := (groupOf l₁ l₂).toNat
    if length ≤ rest.length then
      some (⟨groupOf t₁ t₂, rest.take length⟩, rest.drop (padded length))
    else none
  | _ => none

/-- An attribute takes at least the four octets of its type and length. -/
theorem splitAttribute_length {body rest : Bytes} {a : Attribute}
    (h : splitAttribute body = some (a, rest)) : rest.length + 4 ≤ body.length := by
  unfold splitAttribute at h
  split at h
  · simp only [Option.ite_none_right_eq_some, Option.some.injEq, Prod.mk.injEq] at h
    obtain ⟨_, _, rfl⟩ := h
    simp only [List.length_drop, List.length_cons]
    omega
  · simp at h

/-! ## Addresses -/

/-- Octets taken two by two as groups; an odd one at the end is left out. -/
def groupsOf : Bytes → List UInt16
  | h :: l :: rest => groupOf h l :: groupsOf rest
  | _ => []

/-- The endpoint in a value: a zero octet, the family, the port, the address. -/
def readAddress : Bytes → Option Endpoint
  | 0 :: 1 :: p₁ :: p₂ :: a :: b :: c :: d :: _ => some (.v4 ⟨a, b, c, d⟩ (groupOf p₁ p₂))
  | 0 :: 2 :: p₁ :: p₂ :: rest =>
    let groups := (groupsOf rest).take 8
    if h : groups.length = 8 then some (.v6 ⟨groups, h⟩ (groupOf p₁ p₂) 0) else none
  | _ => none

/-- Octets combined with those of a mask. -/
def xorBytes (mask value : Bytes) : Bytes :=
  List.zipWith (· ^^^ ·) value mask

/-- A value with the mask taken off its port and its address. Both start at the mask's head. -/
def unmask (mask : Bytes) : Bytes → Bytes
  | zero :: family :: p₁ :: p₂ :: rest =>
    zero :: family :: (xorBytes mask [p₁, p₂] ++ xorBytes mask rest)
  | value => value

/-! ## The form of values -/

/-- What the value of a type has to look like. -/
inductive Content where
  /-- Anything. -/
  | free
  /-- At least so many octets. -/
  | atLeast (size : Nat)
  /-- Text in UTF-8. -/
  | text
  /-- Four octets, then text in UTF-8. -/
  | codedText
  /-- An address. -/
  | address
  /-- An address under the mask. -/
  | maskedAddress
  /-- A number, a length, and so many octets. -/
  | sized
  /-- A length and so many octets, twice, then twelve octets. -/
  | accessToken

/-- The form of the values of a type; types that are not known have none. -/
def contentOf (type : UInt16) : Content :=
  match type.toNat with
  | 0x0001 => .address        -- mapped address
  | 0x0002 => .address        -- response address
  | 0x0003 => .atLeast 4      -- change request
  | 0x0004 => .address        -- source address
  | 0x0005 => .address        -- changed address
  | 0x0006 => .text           -- user name
  | 0x0007 => .text           -- password
  | 0x0008 => .atLeast 20     -- message integrity
  | 0x0009 => .codedText      -- error code
  | 0x000B => .address        -- reflected from
  | 0x000C => .atLeast 2      -- channel number
  | 0x000D => .atLeast 4      -- lifetime
  | 0x0012 => .maskedAddress  -- peer address
  | 0x0014 => .text           -- realm
  | 0x0015 => .text           -- nonce
  | 0x0016 => .maskedAddress  -- relayed address
  | 0x0017 => .atLeast 1      -- requested address family
  | 0x0018 => .atLeast 1      -- even port
  | 0x0019 => .atLeast 1      -- requested transport
  | 0x001B => .accessToken    -- access token
  | 0x001C => .atLeast 32     -- message integrity, 256 bits
  | 0x001D => .sized          -- password algorithm
  | 0x001E => .atLeast 32     -- user hash
  | 0x0020 => .maskedAddress  -- mapped address under the mask
  | 0x0022 => .atLeast 8      -- reservation token
  | 0x0024 => .atLeast 4      -- priority
  | 0x0027 => .atLeast 2      -- response port
  | 0x002A => .atLeast 4      -- connection
  | 0x8000 => .atLeast 1      -- additional address family
  | 0x8001 => .codedText      -- address error code
  | 0x8003 => .text           -- alternate domain
  | 0x8004 => .atLeast 8      -- ICMP report
  | 0x8020 => .maskedAddress  -- mapped address under the mask, older type
  | 0x8022 => .text           -- software
  | 0x8023 => .address        -- alternate server
  | 0x8025 => .atLeast 4      -- transmit counter
  | 0x8027 => .atLeast 4      -- cache timeout
  | 0x8028 => .atLeast 4      -- fingerprint
  | 0x8029 => .atLeast 8      -- controlled agent
  | 0x802A => .atLeast 8      -- controlling agent
  | 0x802B => .address        -- response origin
  | 0x802C => .address        -- other address
  | 0x802D => .atLeast 4      -- congestion check
  | 0x802E => .text           -- authorization server
  | _ => .free

/-- The octets are text in UTF-8. -/
def isText (value : Bytes) : Bool :=
  (ByteArray.mk value.toArray).validateUTF8

/-- The octets behind a length and as many octets as it says. -/
def skipSized : Bytes → Option Bytes
  | l₁ :: l₂ :: rest =>
    let length := (groupOf l₁ l₂).toNat
    if length ≤ rest.length then some (rest.drop length) else none
  | _ => none

/-- The value has the form. -/
def Content.fits (mask : Bytes) : Content → Bytes → Bool
  | .free, _ => true
  | .atLeast size, value => size ≤ value.length
  | .text, value => isText value
  | .codedText, value => 4 ≤ value.length && isText (value.drop 4)
  | .address, value => (readAddress value).isSome
  | .maskedAddress, value => (readAddress (unmask mask value)).isSome
  | .sized, value => 2 ≤ value.length && (skipSized (value.drop 2)).isSome
  | .accessToken, value => ((skipSized value).bind skipSized).any (12 ≤ ·.length)

/-- The attribute is of an unknown type, or its value has the form of its type. -/
def Attribute.wellFormed (mask : Bytes) (a : Attribute) : Bool :=
  (contentOf a.type).fits mask a.value

/-! ## The attributes of a body -/

/-- The attributes of a body up to the first that is malformed or cut off. -/
def attributes (mask : Bytes) (body : Bytes) : List Attribute :=
  match h : splitAttribute body with
  | none => []
  | some (a, rest) =>
    have : rest.length < body.length := by
      have := splitAttribute_length h
      omega
    if a.wellFormed mask then a :: attributes mask rest else []
termination_by body.length

/-- The type of a mapped address. -/
def mappedAddress : UInt16 := 0x0001

/-- The type of a mapped address under the mask. -/
def maskedMappedAddress : UInt16 := 0x0020

/-- The mapped address that an attribute carries. -/
def Attribute.mapped? (mask : Bytes) (a : Attribute) : Option Endpoint :=
  if a.type = mappedAddress then readAddress a.value
  else if a.type = maskedMappedAddress then readAddress (unmask mask a.value)
  else none

end NatDiscovery.Stun
