import NatDiscovery.Ip.Text

/-!
# `NatDiscovery.Mapping` — external addresses and whose they are

A mapping says that a local address is seen from outside as an external one. A table holds at most
one mapping for each external address; the first to arrive stays. Once anything has been resolved,
the local addresses that were not are mapped to themselves, except where that address is taken as
the external address of another one.

## Contents
- `Mapping`, `Mapping.identity`, `Mapping.write`
- `MappingTable`, `owner?`, `insert`, `fillIdentity`
- `owner?_insert`: what an insertion does to the view `owner?`
-/

namespace NatDiscovery

/-- The local address is seen as the external one. -/
structure Mapping where
  external : IpAddr
  internal : IpAddr
  deriving DecidableEq, Repr

namespace Mapping

/-- A local address that stands for itself. -/
def identity (ip : IpAddr) : Mapping :=
  ⟨ip, ip⟩

/-- The external address, a slash, and the local one. -/
def toText (m : Mapping) : List Char :=
  m.external.toText ++ '/' :: m.internal.toText

/-- The text of a mapping as a string. -/
def write (m : Mapping) : String :=
  String.ofList m.toText

end Mapping

/-- Mappings in order of arrival, one for each external address. -/
structure MappingTable where
  mappings : List Mapping := []
  unique : (mappings.map Mapping.external).Nodup := by simp

namespace MappingTable

/-- The local address that an external one belongs to. -/
def owner? (t : MappingTable) (external : IpAddr) : Option IpAddr :=
  (t.mappings.find? (·.external = external)).map Mapping.internal

/-- The table holds nothing. -/
def isEmpty (t : MappingTable) : Bool :=
  t.mappings.isEmpty

/-- The external address has an owner. -/
def holds (t : MappingTable) (external : IpAddr) : Bool :=
  t.mappings.any (·.external = external)

/-- The local address owns an external one. -/
def owns (t : MappingTable) (internal : IpAddr) : Bool :=
  t.mappings.any (·.internal = internal)

theorem holds_eq_false {t : MappingTable} {external : IpAddr} :
    t.holds external = false ↔ external ∉ t.mappings.map Mapping.external := by
  simp [holds]

/-- The mapping's external address has no owner yet. -/
def accepts (t : MappingTable) (m : Mapping) : Bool :=
  !t.holds m.external

/-- The table with one more mapping, unless its external address has an owner already. -/
def insert (t : MappingTable) (m : Mapping) : MappingTable :=
  if h : t.holds m.external = false then
    ⟨t.mappings ++ [m], by
      rw [List.map_append, List.nodup_append]
      refine ⟨t.unique, by simp, ?_⟩
      intro a ha b hb
      rcases List.mem_singleton.1 hb with rfl
      rintro rfl
      exact holds_eq_false.1 h ha⟩
  else t

/-- The table once a local address has been mapped to itself, unless it owns an external address or
is one. -/
def claim (t : MappingTable) (ip : IpAddr) : MappingTable :=
  if t.owns ip then t else t.insert (.identity ip)

/-- The table once every local address of a list has been seen to, one after the other. -/
def fillIdentity (t : MappingTable) (locals : List IpAddr) : MappingTable :=
  locals.foldl claim t

/-! ## The view of the operations -/

theorem ext {t u : MappingTable} (h : t.mappings = u.mappings) : t = u := by
  cases t
  cases u
  cases h
  rfl

theorem holds_iff_owner? {t : MappingTable} {external : IpAddr} :
    t.holds external = (t.owner? external).isSome := by
  rw [Bool.eq_iff_iff]
  simp [holds, owner?]

/-- A taken external address stays as it is. -/
theorem insert_of_holds {t : MappingTable} {m : Mapping} (h : t.holds m.external = true) :
    t.insert m = t := by
  simp [insert, h]

/-- A free external address gets its mapping at the end. -/
theorem mappings_insert_of_not_holds {t : MappingTable} {m : Mapping}
    (h : t.holds m.external = false) : (t.insert m).mappings = t.mappings ++ [m] := by
  simp [insert, h]

/-- The first mapping of an external address decides its owner. -/
theorem owner?_insert (t : MappingTable) (m : Mapping) (external : IpAddr) :
    (t.insert m).owner? external =
      (t.owner? external).or (if m.external = external then some m.internal else none) := by
  by_cases h : t.holds m.external = true
  · rw [insert_of_holds h]
    rw [holds_iff_owner?] at h
    by_cases he : m.external = external
    · subst he
      obtain ⟨o, ho⟩ := Option.isSome_iff_exists.1 h
      simp [ho]
    · simp [he]
  · rw [Bool.not_eq_true] at h
    rw [owner?, mappings_insert_of_not_holds h, List.find?_append]
    cases ho : t.mappings.find? (·.external = external) with
    | some o => simp [owner?, ho]
    | none =>
      by_cases he : m.external = external <;> simp [owner?, ho, he]

end MappingTable

end NatDiscovery
