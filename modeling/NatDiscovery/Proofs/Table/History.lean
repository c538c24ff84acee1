import NatDiscovery.Proofs.Table.Filling

/-!
# `Proofs.Table.History` — a table and all that has been done to it

Mappings arrive and identities are filled in, in any order and any number of times, on a table that
is empty at first. One more operation adds the entries that it **creates** (`Op.Creates`) and leaves
the others where they are (`mem_mappings_apply`, `prefix_apply`). A run of operations therefore only
grows the table, and each entry can be traced back to the one operation that created it
(`mem_mappings_after`): an external address is created once and belongs for ever to the local
address it got then.

## Contents
- `Op`, `apply`, `after`: operations, one and many
- `Op.Creates`, `mem_mappings_apply`, `prefix_apply`: what one operation does
- `Created`, `created_concat`, `mem_mappings_after`, `prefix_after`: what a run of them does
- `after_insert`: a run of arrivals
- `after_keeps_creator`: who owns what, and which arrivals are accepted
-/

namespace NatDiscovery

namespace MappingTable

/-- What can be done to a table. -/
inductive Op where
  /-- A mapping arrives. -/
  | insert (m : Mapping)
  /-- Local addresses without a mapping are mapped to themselves. -/
  | fillIdentity (locals : List IpAddr)
  deriving DecidableEq

/-- The table after one more operation. -/
def apply (t : MappingTable) : Op → MappingTable
  | .insert m => t.insert m
  | .fillIdentity locals => t.fillIdentity locals

/-- The table after these operations, which is empty before them. -/
def after (ops : List Op) : MappingTable :=
  ops.foldl apply ⟨[], List.nodup_nil⟩

theorem after_append (ops later : List Op) : after (ops ++ later) = later.foldl apply (after ops) :=
  List.foldl_append

theorem after_concat (ops : List Op) (op : Op) : after (ops ++ [op]) = (after ops).apply op :=
  after_append ops [op]

/-! ## One operation -/

/-- Done to this table, the operation creates the entry. An arrival creates its own, if the external
    address has no entry yet; filling creates the identities of the addresses on neither side. -/
inductive Op.Creates (t : MappingTable) : Op → Mapping → Prop where
  | insert {m : Mapping} (unheld : m.external ∉ t.mappings.map Mapping.external) :
      Creates t (.insert m) m
  | fillIdentity {locals : List IpAddr} {ip : IpAddr} (listed : ip ∈ locals) (free : t.Free ip) :
      Creates t (.fillIdentity locals) (.identity ip)

/-- What is created is new. -/
theorem Op.Creates.unheld {t : MappingTable} {op : Op} {m : Mapping} (h : op.Creates t m) :
    m.external ∉ t.mappings.map Mapping.external := by
  cases h with
  | insert unheld => exact unheld
  | fillIdentity _ free => exact free.2

/-- **One operation adds what it creates**, and takes nothing away. -/
theorem mem_mappings_apply {t : MappingTable} {op : Op} {m : Mapping} :
    m ∈ (t.apply op).mappings ↔ m ∈ t.mappings ∨ op.Creates t m := by
  cases op with
  | insert k =>
      have hcreates : Op.Creates t (.insert k) m ↔
          m = k ∧ k.external ∉ t.mappings.map Mapping.external := by
        constructor
        · rintro ⟨unheld⟩
          exact ⟨rfl, unheld⟩
        · rintro ⟨rfl, unheld⟩
          exact .insert unheld
      rw [hcreates, ← holds_eq_false]
      show m ∈ (t.insert k).mappings ↔ _
      cases hk : t.holds k.external with
      | true => simp [insert_of_holds hk]
      | false => simp [mappings_insert_of_not_holds hk]
  | fillIdentity locals =>
      have hcreates : Op.Creates t (.fillIdentity locals) m ↔
          ∃ ip ∈ locals, t.Free ip ∧ m = .identity ip := by
        constructor
        · rintro ⟨⟩
          exact ⟨_, ‹_›, ‹_›, rfl⟩
        · rintro ⟨ip, listed, free, rfl⟩
          exact .fillIdentity listed free
      rw [hcreates]
      exact mem_mappings_fillIdentity

theorem prefix_apply (t : MappingTable) (op : Op) : t.mappings <+: (t.apply op).mappings := by
  cases op with
  | insert m =>
      show t.mappings <+: (t.insert m).mappings
      cases hm : t.holds m.external with
      | true => rw [insert_of_holds hm]
      | false =>
          rw [mappings_insert_of_not_holds hm]
          exact List.prefix_append ..
  | fillIdentity locals => exact t.prefix_fillIdentity locals

/-! ## A run of operations -/

/-- One of the operations created the entry when it was its turn. -/
def Created (ops : List Op) (m : Mapping) : Prop :=
  ∃ before op behind, ops = before ++ op :: behind ∧ op.Creates (after before) m

theorem not_created_nil (m : Mapping) : ¬Created [] m := by
  rintro ⟨before, op, behind, hops, -⟩
  exact List.append_ne_nil_of_right_ne_nil before (List.cons_ne_nil op behind) hops.symm

/-- The last operation creates what it creates, and the others what they created before. -/
theorem created_concat {ops : List Op} {op : Op} {m : Mapping} :
    Created (ops ++ [op]) m ↔ Created ops m ∨ op.Creates (after ops) m := by
  constructor
  · rintro ⟨before, last, behind, hops, hcreates⟩
    rcases List.eq_nil_or_concat' behind with rfl | ⟨behind, op', rfl⟩
    · obtain ⟨rfl, hlast⟩ := List.append_inj' hops rfl
      obtain rfl := List.singleton_inj.mp hlast
      exact Or.inr hcreates
    · rw [← List.cons_append, ← List.append_assoc] at hops
      exact Or.inl ⟨before, last, behind, (List.append_inj' hops rfl).1, hcreates⟩
  · rintro (⟨before, op', behind, rfl, hcreates⟩ | hcreates)
    · exact ⟨before, op', behind ++ [op], by simp, hcreates⟩
    · exact ⟨ops, op, [], rfl, hcreates⟩

/-- **The entries of a table are those that have been created.** -/
theorem mem_mappings_after {ops : List Op} {m : Mapping} :
    m ∈ (after ops).mappings ↔ Created ops m := by
  induction ops using List.reverseRecOn with
  | nil => exact iff_of_false List.not_mem_nil (not_created_nil m)
  | append_singleton ops op ih => rw [after_concat, mem_mappings_apply, ih, created_concat]

theorem prefix_after (ops later : List Op) :
    (after ops).mappings <+: (after (ops ++ later)).mappings := by
  induction later using List.reverseRecOn with
  | nil => rw [List.append_nil]
  | append_singleton later op ih =>
      rw [← List.append_assoc, after_concat]
      exact ih.trans (prefix_apply _ op)

/-- An external address without an entry is one for which none has been created. -/
theorem unheld_after_iff {ops : List Op} {external : IpAddr} :
    external ∉ (after ops).mappings.map Mapping.external ↔
      ∀ k, Created ops k → k.external ≠ external := by
  simp only [List.mem_map, mem_mappings_after, not_exists, not_and]

/-- Operations that are arrivals are those arrivals. -/
theorem after_insert (ms : List Mapping) : after (ms.map .insert) = ({} : MappingTable).insertAll ms :=
  List.foldl_map

/-- **The first creator is the owner for ever.** Take any operations on a table that is empty before
    them. The entries are those that some operation created; who owns what was decided when the
    entry was created, before which there was none for the external address, and later operations
    change no owner. A mapping that arrives then is accepted exactly if nothing has created an entry
    for its external address; its local address is the owner if it is accepted, and the table stays
    as it is if not. Of arrivals alone, the first to bring an external address decides who owns
    it. -/
theorem after_keeps_creator (ops : List Op) :
    (∀ m, m ∈ (after ops).mappings ↔ Created ops m) ∧
    (∀ before op behind m, ops = before ++ op :: behind → op.Creates (after before) m →
      (after ops).owner? m.external = some m.internal ∧
        ∀ k, Created before k → k.external ≠ m.external) ∧
    (∀ later external owner, (after ops).owner? external = some owner →
      (after (ops ++ later)).owner? external = some owner) ∧
    (∀ m, ((after ops).accepts m = true ↔ ∀ k, Created ops k → k.external ≠ m.external) ∧
      ((after ops).accepts m = true →
        (after (ops ++ [.insert m])).owner? m.external = some m.internal) ∧
      ((after ops).accepts m = false → after (ops ++ [.insert m]) = after ops)) ∧
    ∀ (ms : List Mapping) (external : IpAddr), (after (ms.map .insert)).owner? external =
      (ms.find? (·.external = external)).map Mapping.internal := by
  have hunheld (m : Mapping) : (after ops).accepts m = true ↔
      m.external ∉ (after ops).mappings.map Mapping.external := by
    rw [accepts, Bool.not_eq_true', holds_eq_false]
  refine ⟨fun _ => mem_mappings_after, ?_, ?_, ?_, ?_⟩
  · intro before op behind m hops hcreates
    refine ⟨?_, unheld_after_iff.mp hcreates.unheld⟩
    rw [owner?_eq_some_iff]
    exact mem_mappings_after.mpr ⟨before, op, behind, hops, hcreates⟩
  · intro later external owner howner
    rw [owner?_eq_some_iff] at howner ⊢
    exact (prefix_after ops later).subset howner
  · intro m
    refine ⟨(hunheld m).trans unheld_after_iff, ?_, ?_⟩
    · intro haccepted
      rw [owner?_eq_some_iff, mem_mappings_after, created_concat]
      exact Or.inr (.insert ((hunheld m).mp haccepted))
    · intro hrefused
      rw [after_concat]
      exact insert_of_holds (by simpa [accepts] using hrefused)
  · intro ms external
    rw [after_insert, owner?_insertAll]
    rfl

/-- Two local addresses with one external address, and then all that are left get themselves. -/
def sharedHistory : List Op :=
  [.insert ⟨.v4 ⟨203, 0, 113, 7⟩, .v4 ⟨10, 0, 0, 1⟩⟩,
    .insert ⟨.v4 ⟨203, 0, 113, 7⟩, .v4 ⟨10, 0, 0, 2⟩⟩,
    .fillIdentity [.v4 ⟨10, 0, 0, 1⟩, .v4 ⟨10, 0, 0, 2⟩]]

/-- The second of them gets itself when identities are filled in, and so it remains when a mapping
    arrives that would give it to a third. -/
theorem after_keeps_creator_shared :
    let late : Mapping := ⟨.v4 ⟨10, 0, 0, 2⟩, .v4 ⟨10, 0, 0, 3⟩⟩
    Op.Creates (after (sharedHistory.take 2))
        (.fillIdentity [.v4 ⟨10, 0, 0, 1⟩, .v4 ⟨10, 0, 0, 2⟩]) (.identity (.v4 ⟨10, 0, 0, 2⟩)) ∧
      (after sharedHistory).owner? (.v4 ⟨10, 0, 0, 2⟩) = some (.v4 ⟨10, 0, 0, 2⟩) ∧
      (after sharedHistory).accepts late = false ∧
      after (sharedHistory ++ [.insert late]) = after sharedHistory ∧
      (after sharedHistory).accepts ⟨.v4 ⟨203, 0, 113, 9⟩, .v4 ⟨10, 0, 0, 3⟩⟩ = true ∧
      (after (sharedHistory ++ [.insert ⟨.v4 ⟨203, 0, 113, 9⟩, .v4 ⟨10, 0, 0, 3⟩⟩])).owner?
        (.v4 ⟨203, 0, 113, 9⟩) = some (.v4 ⟨10, 0, 0, 3⟩) ∧
      (after (sharedHistory ++ [.insert late])).owner? (.v4 ⟨203, 0, 113, 7⟩) =
        some (.v4 ⟨10, 0, 0, 1⟩) := by
  intro late
  obtain ⟨-, hcreator, hstays, harrives, -⟩ := after_keeps_creator sharedHistory
  have hcreates : Op.Creates (after (sharedHistory.take 2))
      (.fillIdentity [.v4 ⟨10, 0, 0, 1⟩, .v4 ⟨10, 0, 0, 2⟩]) (.identity (.v4 ⟨10, 0, 0, 2⟩)) :=
    .fillIdentity (by decide) (by decide)
  have hrefused : (after sharedHistory).accepts late = false := by decide
  have haccepted : (after sharedHistory).accepts
      ⟨.v4 ⟨203, 0, 113, 9⟩, .v4 ⟨10, 0, 0, 3⟩⟩ = true := by decide
  exact ⟨hcreates, (hcreator (sharedHistory.take 2) _ [] _ rfl hcreates).1, hrefused,
    (harrives late).2.2 hrefused, haccepted, (harrives _).2.1 haccepted,
    hstays [.insert late] _ _ (by decide)⟩

end MappingTable

end NatDiscovery
