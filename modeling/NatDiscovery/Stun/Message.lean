import NatDiscovery.Stun.Attribute

/-!
# `NatDiscovery.Stun.Message` — requests and responses

A message is a type, the length of its body, a cookie of four octets, a transaction id of twelve,
and a body of attributes. A request to be told one's mapped address has no attributes. A response is
read for the mapped address alone: it must be of the right type and hold the whole body that it
announces; cookie and id are not checked, but serve as the mask of masked addresses.

## Contents
- `TransactionId`, `Message`, `Message.encode`
- `request`: the message that asks for the mapped address
- `readResponse`: the mapped address that a datagram carries
-/

namespace NatDiscovery.Stun

/-- The twelve octets that tell one transaction from another. -/
structure TransactionId where
  bytes : Bytes
  length_eq : bytes.length = 12
  deriving DecidableEq

/-- The octets of a number, most significant first, as many as asked for. -/
def bytesOf : (size : Nat) → Nat → Bytes
  | 0, _ => []
  | size + 1, n => bytesOf size (n / 256) ++ [UInt8.ofNat n]

@[simp] theorem length_bytesOf (size n : Nat) : (bytesOf size n).length = size := by
  induction size generalizing n with
  | zero => rfl
  | succ size ih => simp [bytesOf, ih]

/-- The transaction id of a number, of which the lower 96 bits count. -/
def TransactionId.ofNat (n : Nat) : TransactionId :=
  ⟨bytesOf 12 n, length_bytesOf 12 n⟩

/-- A message. -/
structure Message where
  type : UInt16
  cookie : Bytes
  id : TransactionId
  attributes : List Attribute

/-- The octets of an attribute, padded with zeros. -/
def Attribute.encode (a : Attribute) : Bytes :=
  bytesOf 2 a.type.toNat ++ bytesOf 2 a.value.length ++ a.value
    ++ List.replicate (padded a.value.length - a.value.length) 0

/-- The octets of a message. -/
def Message.encode (m : Message) : Bytes :=
  let body := m.attributes.flatMap Attribute.encode
  bytesOf 2 m.type.toNat ++ bytesOf 2 body.length ++ m.cookie ++ m.id.bytes ++ body

/-- The type of a binding request. -/
def bindingRequest : UInt16 := 0x0001

/-- The type of a successful binding response. -/
def bindingResponse : UInt16 := 0x0101

/-- The cookie of the messages sent. -/
def cookie : Bytes := [0x21, 0x12, 0xA4, 0x42]

/-- The octets that ask for the mapped address. -/
def request (id : TransactionId) : Bytes :=
  Message.encode ⟨bindingRequest, cookie, id, []⟩

/-- The mapped address that a datagram carries: that of the first attribute which has one. -/
def readResponse : Bytes → Option Endpoint
  | t₁ :: t₂ :: l₁ :: l₂ :: rest =>
    -- Cookie and transaction id, whatever they are.
    let mask := rest.take 16
    let body := rest.drop 16
    let length := (groupOf l₁ l₂).toNat
    if mask.length = 16 ∧ groupOf t₁ t₂ = bindingResponse ∧ length ≤ body.length then
      (attributes mask (body.take length)).findSome? (Attribute.mapped? mask)
    else none
  | _ => none

end NatDiscovery.Stun
