import Mathlib.Data.List.Induction
import Mathlib.Data.List.Infix
import Mathlib.Data.List.Nodup
import NatDiscovery.Proofs.Arrivals

/-!
# `Proofs.Table.Filling` — identities fill what is free

Filling goes through a list of local addresses one by one, and each of them looks at a table that
those before it have changed. The looks come out as if all of them had been at the table as it was:
an identity that is added on the way has its own address on both sides, so it takes **no address but
that one**, and an address that comes a second time finds itself taken.

Hence the entries after filling depend on the table before and on which addresses are in the list,
not on their order or number (`fillIdentity_fills`). That is so for every table, also one in which
the same address is a local address here and an external one there.

## Contents
- `owner?_eq_some_iff`, `perm_of_mem_iff`: entries and owners
- `Free`, `claim_of_free`, `claim_of_not_free`: one local address
- `not_free_fillIdentity`, `fillIdentity_of_not_free`: what has been filled is full
- `fillIdentity_distinct`, `mem_mappings_fillIdentity`, `fillIdentity_fills`: a list of them
-/

namespace NatDiscovery

namespace MappingTable

variable {t u : MappingTable}

/-! ## Entries and owners -/

theorem nodup_mappings (t : MappingTable) : t.mappings.Nodup :=
  t.unique.of_map

/-- The owner of an external address is the local address of its entry. -/
theorem owner?_eq_some_iff {external owner : IpAddr} :
    t.owner? external = some owner ↔ ⟨external, owner⟩ ∈ t.mappings := by
  rw [owner?, Option.map_eq_some_iff]
  constructor
  · rintro ⟨⟨_, _⟩, hfind, rfl⟩
    have hexternal := List.find?_some hfind
    rw [decide_eq_true_eq] at hexternal
    exact hexternal ▸ List.mem_of_find?_eq_some hfind
  · intro hmem
    have hsome : (t.mappings.find? (·.external = external)).isSome := by
      rw [List.find?_isSome]
      exact ⟨_, hmem, by simp⟩
    obtain ⟨m, hfind⟩ := Option.isSome_iff_exists.mp hsome
    have hexternal := List.find?_some hfind
    rw [decide_eq_true_eq] at hexternal
    -- There is only one entry for the external address.
    have hm := List.inj_on_of_nodup_map t.unique (List.mem_of_find?_eq_some hfind) hmem hexternal
    exact ⟨m, hfind, by rw [hm]⟩

/-- Tables with the same entries differ in their order only. -/
theorem perm_of_mem_iff (h : ∀ m, m ∈ t.mappings ↔ m ∈ u.mappings) :
    t.mappings.Perm u.mappings :=
  (List.perm_ext_iff_of_nodup t.nodup_mappings u.nodup_mappings).mpr h

/-! ## One local address -/

/-- The local address neither owns an external address nor is one. -/
def Free (t : MappingTable) (ip : IpAddr) : Prop :=
  ip ∉ t.mappings.map Mapping.internal ∧ ip ∉ t.mappings.map Mapping.external

instance (t : MappingTable) (ip : IpAddr) : Decidable (t.Free ip) :=
  inferInstanceAs (Decidable (_ ∧ _))

theorem free_iff {ip : IpAddr} : t.Free ip ↔ (!t.owns ip && !t.holds ip) = true := by
  simp [Free, owns, holds]

/-- A free local address gets itself. -/
theorem claim_of_free {ip : IpAddr} (h : t.Free ip) :
    (t.claim ip).mappings = t.mappings ++ [.identity ip] := by
  rw [free_iff, Bool.and_eq_true, Bool.not_eq_true', Bool.not_eq_true'] at h
  rw [claim, if_neg (Bool.eq_false_iff.mp h.1)]
  exact mappings_insert_of_not_holds h.2

/-- One that is not free adds nothing. -/
theorem claim_of_not_free {ip : IpAddr} (h : ¬t.Free ip) : t.claim ip = t := by
  apply claim_of_taken
  rw [free_iff] at h
  cases howns : t.owns ip with
  | true => exact Or.inl rfl
  | false => exact Or.inr (by simpa [howns] using h)

/-- Entries stay where they are. -/
theorem prefix_claim (t : MappingTable) (ip : IpAddr) : t.mappings <+: (t.claim ip).mappings := by
  by_cases h : t.Free ip
  · rw [claim_of_free h]
    exact List.prefix_append ..
  · rw [claim_of_not_free h]

/-- Whoever has been seen to is not free any more. -/
theorem not_free_claim (t : MappingTable) (ip : IpAddr) : ¬(t.claim ip).Free ip := by
  by_cases h : t.Free ip
  · intro hfree
    apply hfree.2
    rw [claim_of_free h, List.map_append, List.mem_append]
    exact Or.inr List.mem_cons_self
  · rwa [claim_of_not_free h]

/-- A table with more entries leaves less free. -/
theorem Free.of_prefix {ip : IpAddr} (h : u.Free ip) (hstay : t.mappings <+: u.mappings) :
    t.Free ip :=
  ⟨fun hmem => h.1 ((hstay.map _).subset hmem), fun hmem => h.2 ((hstay.map _).subset hmem)⟩

/-! ## A list of local addresses -/

theorem fillIdentity_append (t : MappingTable) (locals locals' : List IpAddr) :
    t.fillIdentity (locals ++ locals') = (t.fillIdentity locals).fillIdentity locals' :=
  List.foldl_append

theorem fillIdentity_concat (t : MappingTable) (locals : List IpAddr) (ip : IpAddr) :
    t.fillIdentity (locals ++ [ip]) = (t.fillIdentity locals).claim ip :=
  List.foldl_concat ..

theorem prefix_fillIdentity (t : MappingTable) (locals : List IpAddr) :
    t.mappings <+: (t.fillIdentity locals).mappings := by
  induction locals generalizing t with
  | nil => exact List.prefix_refl _
  | cons ip locals ih => exact (t.prefix_claim ip).trans (ih (t.claim ip))

/-- Filling leaves no address of the list free. -/
theorem not_free_fillIdentity (t : MappingTable) {locals : List IpAddr} {ip : IpAddr}
    (h : ip ∈ locals) : ¬(t.fillIdentity locals).Free ip := by
  obtain ⟨before, behind, rfl⟩ := List.append_of_mem h
  rw [fillIdentity_append]
  intro hfree
  -- What comes behind `ip` only adds entries.
  exact not_free_claim _ ip
    (hfree.of_prefix (((t.fillIdentity before).claim ip).prefix_fillIdentity behind))

/-- **What is full stays as it is.** -/
theorem fillIdentity_of_not_free {locals : List IpAddr} (h : ∀ ip ∈ locals, ¬t.Free ip) :
    t.fillIdentity locals = t := by
  induction locals with
  | nil => rfl
  | cons ip locals ih =>
      rw [List.forall_mem_cons] at h
      show (t.claim ip).fillIdentity locals = t
      rw [claim_of_not_free h.1, ih h.2]

/-- An address that comes again changes nothing. -/
theorem fillIdentity_distinct (t : MappingTable) (locals : List IpAddr) :
    t.fillIdentity (distinct locals) = t.fillIdentity locals := by
  induction locals using List.reverseRecOn with
  | nil => rfl
  | append_singleton locals ip ih =>
      rw [distinct_concat, fillIdentity_concat, ← ih, addNew]
      split
      · rename_i hmem
        rw [claim_of_not_free (t.not_free_fillIdentity hmem)]
      · rw [fillIdentity_concat]

/-- **The entries after filling**: those before, and the identity of each address of the list that
    was free. -/
theorem mem_mappings_fillIdentity {locals : List IpAddr} {m : Mapping} :
    m ∈ (t.fillIdentity locals).mappings ↔
      m ∈ t.mappings ∨ ∃ ip ∈ locals, t.Free ip ∧ m = .identity ip := by
  rw [← fillIdentity_distinct, mappings_fillIdentity t (nodup_distinct locals), List.mem_append,
    List.mem_map]
  simp only [List.mem_filter, mem_distinct, ← free_iff, and_assoc, eq_comm (a := m)]

/-- **Filling adds the identities of free addresses and nothing else.** So it changes no owner, the
    order and number of the addresses in the list do not matter, a second time changes nothing, and
    two lists one after the other are their concatenation. -/
theorem fillIdentity_fills (t : MappingTable) (locals : List IpAddr) :
    (∀ m, m ∈ (t.fillIdentity locals).mappings ↔
      m ∈ t.mappings ∨ ∃ ip ∈ locals, t.Free ip ∧ m = .identity ip) ∧
    (∀ external owner, t.owner? external = some owner →
      (t.fillIdentity locals).owner? external = some owner) ∧
    (∀ locals', (∀ ip, ip ∈ locals' ↔ ip ∈ locals) →
      (t.fillIdentity locals').mappings.Perm (t.fillIdentity locals).mappings) ∧
    (t.fillIdentity locals).fillIdentity locals = t.fillIdentity locals ∧
    ∀ locals', (t.fillIdentity locals).fillIdentity locals' =
      t.fillIdentity (locals ++ locals') := by
  refine ⟨fun _ => mem_mappings_fillIdentity, ?_, ?_, ?_, ?_⟩
  · intro external owner howner
    rw [owner?_eq_some_iff] at howner ⊢
    exact (t.prefix_fillIdentity locals).subset howner
  · intro locals' hsame
    apply perm_of_mem_iff
    intro m
    simp only [mem_mappings_fillIdentity, hsame]
  · exact fillIdentity_of_not_free fun _ hip => t.not_free_fillIdentity hip
  · exact fun locals' => (t.fillIdentity_append locals locals').symm

/-- One local address is the external address of another, and a third owns one that is nobody's. -/
def hairpinTable : MappingTable where
  mappings := [⟨.v4 ⟨10, 0, 0, 2⟩, .v4 ⟨10, 0, 0, 1⟩⟩, ⟨.v4 ⟨203, 0, 113, 7⟩, .v4 ⟨10, 0, 0, 3⟩⟩]

/-- Of five local addresses, one of them twice, only the two on neither side get their identities,
    in whatever order they come. -/
theorem fillIdentity_fills_hairpin :
    let locals : List IpAddr := [.v4 ⟨10, 0, 0, 5⟩, .v4 ⟨10, 0, 0, 2⟩, .v4 ⟨10, 0, 0, 3⟩,
      .v4 ⟨10, 0, 0, 5⟩, .v4 ⟨10, 0, 0, 1⟩, .v4 ⟨10, 0, 0, 4⟩]
    let locals' : List IpAddr := [.v4 ⟨10, 0, 0, 1⟩, .v4 ⟨10, 0, 0, 2⟩, .v4 ⟨10, 0, 0, 3⟩,
      .v4 ⟨10, 0, 0, 4⟩, .v4 ⟨10, 0, 0, 5⟩]
    let filled := hairpinTable.fillIdentity locals
    .identity (.v4 ⟨10, 0, 0, 4⟩) ∈ filled.mappings ∧
      .identity (.v4 ⟨10, 0, 0, 2⟩) ∉ filled.mappings ∧
      hairpinTable.owner? (.v4 ⟨10, 0, 0, 2⟩) = some (.v4 ⟨10, 0, 0, 1⟩) ∧
      filled.owner? (.v4 ⟨10, 0, 0, 2⟩) = some (.v4 ⟨10, 0, 0, 1⟩) ∧
      (∀ ip, ip ∈ locals' ↔ ip ∈ locals) ∧
      (hairpinTable.fillIdentity locals').mappings.Perm filled.mappings := by
  intro locals locals' filled
  obtain ⟨hmem, howner, hperm, -, -⟩ := fillIdentity_fills hairpinTable locals
  have hloop : hairpinTable.owner? (.v4 ⟨10, 0, 0, 2⟩) = some (.v4 ⟨10, 0, 0, 1⟩) := by decide
  have hsame : ∀ ip, ip ∈ locals' ↔ ip ∈ locals := by
    intro ip
    simp only [locals, locals', List.mem_cons, List.not_mem_nil]
    tauto
  refine ⟨?_, ?_, hloop, howner _ _ hloop, hsame, hperm locals' hsame⟩
  · exact (hmem _).mpr (Or.inr ⟨.v4 ⟨10, 0, 0, 4⟩, by decide, by decide, rfl⟩)
  · rw [hmem]
    decide

end MappingTable

end NatDiscovery
