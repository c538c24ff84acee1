import NatDiscovery.Collector

/-!
# `Proofs.Arrivals` — what any number of arrivals leave behind

`MappingTable.insert` decides about one mapping at a time, and so does `Tally.receive`. Here a whole
sequence of arrivals gets a closed form: the table holds **the first mapping of each external
address** (`firstOwners`), the counters are its length and what was refused, and the report adds the
identity of each local address that neither owns an external address nor is one.

## Contents
- `firstOwners`: who stays, among arrivals
- `MappingTable.insertAll`, `mappings_insertAll`, `owner?_insertAll`, `mappings_fillIdentity`: the
  table
- `reportedMappings`, `mappingsOf_insertAll`: the mappings of a report
- `Tally.Records`, `records_start`, `records_receive`, `records_receiveAll`: table and counters after
  arrivals
-/

namespace NatDiscovery

/-- The first mapping of each external address, in order of arrival. -/
def firstOwners : List Mapping → List Mapping
  | [] => []
  | m :: ms => m :: (firstOwners ms).filter fun k => k.external ≠ m.external

theorem firstOwners_sublist (ms : List Mapping) : (firstOwners ms).Sublist ms := by
  induction ms with
  | nil => exact List.Sublist.slnil
  | cons m ms ih => exact (List.filter_sublist.trans ih).cons_cons m

/-- Without arrivals there is no owner, and with any there is one. -/
theorem firstOwners_eq_nil_iff {ms : List Mapping} : firstOwners ms = [] ↔ ms = [] := by
  cases ms <;> simp [firstOwners]

/-- Every external address that arrives gets an owner, among the first to bring it. -/
theorem exists_firstOwner {pre post : List Mapping} {m : Mapping} :
    ∃ k ∈ firstOwners (pre ++ m :: post), k.external = m.external ∧ (k = m ∨ k ∈ pre) := by
  induction pre with
  | nil => exact ⟨m, by simp [firstOwners], rfl, Or.inl rfl⟩
  | cons p pre ih =>
      by_cases hp : p.external = m.external
      · exact ⟨p, by simp [firstOwners], hp, Or.inr List.mem_cons_self⟩
      · obtain ⟨k, hk, hext, hor⟩ := ih
        have hkp : k.external ≠ p.external := by
          rw [hext]
          exact Ne.symm hp
        refine ⟨k, ?_, hext, hor.imp id (List.mem_cons_of_mem _)⟩
        simp only [List.cons_append, firstOwners, List.mem_cons, List.mem_filter]
        exact Or.inr ⟨hk, by simpa using hkp⟩

namespace MappingTable

/-! ## Arrivals one after the other -/

/-- The table after mappings have arrived one after the other. -/
def insertAll (t : MappingTable) (ms : List Mapping) : MappingTable :=
  ms.foldl insert t

theorem insertAll_append (t : MappingTable) (ms ks : List Mapping) :
    t.insertAll (ms ++ ks) = (t.insertAll ms).insertAll ks :=
  List.foldl_append

theorem holds_insert (t : MappingTable) (m : Mapping) (external : IpAddr) :
    (t.insert m).holds external = (t.holds external || decide (m.external = external)) := by
  cases h : t.holds m.external with
  | false => simp [holds, mappings_insert_of_not_holds h]
  | true =>
      rw [insert_of_holds h]
      by_cases he : m.external = external
      · subst he
        simp [h]
      · simp [he]

/-- **The closed form of arrivals**: what was there, then the first mapping of each external address
    that had no owner. -/
theorem mappings_insertAll (t : MappingTable) (ms : List Mapping) :
    (t.insertAll ms).mappings =
      t.mappings ++ (firstOwners ms).filter fun k => !t.holds k.external := by
  induction ms generalizing t with
  | nil => simp [insertAll, firstOwners]
  | cons m ms ih =>
      show ((t.insert m).insertAll ms).mappings = _
      rw [ih (t.insert m)]
      cases h : t.holds m.external with
      | true =>
          -- `m` is refused, and so is every later mapping of its external address.
          rw [insert_of_holds h]
          have hsame : ∀ k : Mapping, ((!t.holds k.external) && decide (k.external ≠ m.external))
              = !t.holds k.external := by
            intro k
            by_cases hk : k.external = m.external
            · simp [hk, h]
            · simp [hk]
          simp only [firstOwners, List.filter_cons, h, Bool.not_true, Bool.false_eq_true, if_false,
            List.filter_filter, hsame]
      | false =>
          have hnew : ∀ k : Mapping, (!(t.insert m).holds k.external)
              = ((!t.holds k.external) && decide (k.external ≠ m.external)) := by
            intro k
            rw [holds_insert]
            by_cases hk : m.external = k.external
            · simp [hk]
            · simp [hk, Ne.symm hk]
          rw [mappings_insert_of_not_holds h]
          simp only [firstOwners, List.filter_cons, h, Bool.not_false, if_true, List.filter_filter,
            hnew, List.append_assoc, List.singleton_append]

/-- A table that starts empty holds the first mapping of each external address. -/
theorem mappings_insertAll_empty (ms : List Mapping) :
    (({} : MappingTable).insertAll ms).mappings = firstOwners ms := by
  simp [mappings_insertAll, holds]

/-- **Who comes first owns.** An external address belongs to its owner of before, else to the local
    address of the first mapping that brings it. -/
theorem owner?_insertAll (t : MappingTable) (ms : List Mapping) (external : IpAddr) :
    (t.insertAll ms).owner? external =
      (t.owner? external).or ((ms.find? (·.external = external)).map Mapping.internal) := by
  induction ms generalizing t with
  | nil => simp [insertAll]
  | cons m ms ih =>
      show ((t.insert m).insertAll ms).owner? external = _
      rw [ih (t.insert m), owner?_insert, Option.or_assoc]
      by_cases hm : m.external = external
      · simp [hm]
      · simp [hm]

/-! ## Filling with identities -/

theorem owns_insert_of_not_holds {t : MappingTable} {m : Mapping} (h : t.holds m.external = false)
    (ip : IpAddr) : (t.insert m).owns ip = (t.owns ip || decide (m.internal = ip)) := by
  simp [owns, mappings_insert_of_not_holds h]

/-- A local address that owns an external one, or is one, adds nothing. -/
theorem claim_of_taken {t : MappingTable} {ip : IpAddr} (h : t.owns ip = true ∨ t.holds ip = true) :
    t.claim ip = t := by
  unfold claim
  split
  · rfl
  · rename_i howns
    rcases h with h | h
    · exact absurd h howns
    · exact insert_of_holds h

/-- **The closed form of filling**: what was there, then the identity of each local address that
    neither owns an external address nor is one. Identities added on the way change no later
    decision, since the local addresses are distinct. -/
theorem mappings_fillIdentity (t : MappingTable) {locals : List IpAddr} (hnd : locals.Nodup) :
    (t.fillIdentity locals).mappings =
      t.mappings ++ (locals.filter fun ip => !t.owns ip && !t.holds ip).map Mapping.identity := by
  induction locals generalizing t with
  | nil => simp [fillIdentity]
  | cons ip locals ih =>
      obtain ⟨hnot, hrest⟩ := List.nodup_cons.mp hnd
      show ((t.claim ip).fillIdentity locals).mappings = _
      rw [ih (t.claim ip) hrest]
      by_cases htaken : t.owns ip = true ∨ t.holds ip = true
      · rw [claim_of_taken htaken]
        have hdrop : (!t.owns ip && !t.holds ip) = false := by
          rcases htaken with h | h <;> simp [h]
        simp [hdrop]
      · obtain ⟨howns, hholds⟩ : t.owns ip = false ∧ t.holds ip = false := by
          simpa using htaken
        have hfree : t.holds (Mapping.identity ip).external = false := hholds
        have hclaim : t.claim ip = t.insert (.identity ip) := by
          simp [claim, howns]
        -- The others see the table as it was: `ip` is none of them.
        have hsame : ∀ x ∈ locals, (!(t.insert (.identity ip)).owns x
            && !(t.insert (.identity ip)).holds x) = (!t.owns x && !t.holds x) := by
          intro x hx
          have hne : ip ≠ x := fun h => hnot (h ▸ hx)
          rw [owns_insert_of_not_holds hfree, holds_insert]
          simp [Mapping.identity, hne]
        rw [hclaim, mappings_insert_of_not_holds hfree, List.filter_congr hsame]
        simp [howns, hholds]

theorem isEmpty_insertAll_empty (ms : List Mapping) :
    (({} : MappingTable).insertAll ms).isEmpty = ms.isEmpty := by
  rw [isEmpty, mappings_insertAll_empty]
  cases ms <;> rfl

end MappingTable

/-! ## The mappings of a report -/

/-- What is reported of arrivals: nothing without any; else the first mapping of each external
    address, and the identity of each local address that is on neither side of these. -/
def reportedMappings (received : List Mapping) (locals : List IpAddr) : List Mapping :=
  let kept := firstOwners received
  if received = [] then []
  else kept ++ (locals.filter fun ip =>
    ip ∉ kept.map Mapping.internal ∧ ip ∉ kept.map Mapping.external).map Mapping.identity

theorem mappingsOf_insertAll (received : List Mapping) {locals : List IpAddr}
    (hnd : locals.Nodup) :
    Collector.mappingsOf (({} : MappingTable).insertAll received) locals =
      reportedMappings received locals := by
  have hmap := MappingTable.mappings_insertAll_empty received
  unfold Collector.mappingsOf reportedMappings
  rw [MappingTable.isEmpty_insertAll_empty]
  cases received with
  | nil => rfl
  | cons m ms =>
      have hfree : ∀ ip ∈ locals,
          (!(({} : MappingTable).insertAll (m :: ms)).owns ip
            && !(({} : MappingTable).insertAll (m :: ms)).holds ip) =
          decide (ip ∉ (firstOwners (m :: ms)).map Mapping.internal ∧
            ip ∉ (firstOwners (m :: ms)).map Mapping.external) := by
        intro ip _
        rw [MappingTable.owns, MappingTable.holds, hmap, Bool.eq_iff_iff]
        simp
      simp only [List.isEmpty_cons, Bool.false_eq_true, if_false, reduceCtorEq]
      rw [MappingTable.mappings_fillIdentity _ hnd, hmap, List.filter_congr hfree]

theorem mem_reportedMappings {received : List Mapping} {locals : List IpAddr} {m : Mapping} :
    m ∈ reportedMappings received locals ↔
      m ∈ firstOwners received ∨ received ≠ [] ∧ ∃ ip ∈ locals,
        ip ∉ (firstOwners received).map Mapping.internal ∧
        ip ∉ (firstOwners received).map Mapping.external ∧ m = Mapping.identity ip := by
  unfold reportedMappings
  by_cases h : received = []
  · simp [h, firstOwners]
  · simp only [h, if_false, List.mem_append, List.mem_map, List.mem_filter, decide_eq_true_eq,
      ne_eq, not_false_eq_true, true_and]
    refine or_congr Iff.rfl ⟨?_, ?_⟩
    · rintro ⟨ip, ⟨hip, hi, he⟩, rfl⟩
      exact ⟨ip, hip, hi, he, rfl⟩
    · rintro ⟨ip, hip, hi, he, rfl⟩
      exact ⟨ip, ⟨hip, hi, he⟩, rfl⟩

/-! ## The tally -/

namespace Tally

/-- The tally is that of these arrivals, whenever they came. -/
structure Records (t : Tally) (received : List Mapping) : Prop where
  table : t.table = ({} : MappingTable).insertAll received
  resolved : t.resolved = received.length
  duplicates : t.duplicates + (firstOwners received).length = received.length

theorem records_start (initial : Nat) : (start initial).Records [] :=
  ⟨rfl, rfl, rfl⟩

/-- One more arrival keeps the books in order. -/
theorem records_receive {t : Tally} {received : List Mapping} (h : t.Records received)
    (grace now : Nat) (m : Mapping) : (t.receive grace now m).Records (received ++ [m]) := by
  have htable : (t.receive grace now m).table = ({} : MappingTable).insertAll (received ++ [m]) := by
    show t.table.insert m = _
    rw [MappingTable.insertAll_append, h.table]
    rfl
  refine ⟨htable, ?_, ?_⟩
  · show t.resolved + 1 = _
    rw [h.resolved, List.length_append, List.length_singleton]
  · have hdup := h.duplicates
    have hold := MappingTable.mappings_insertAll_empty received
    rw [← MappingTable.mappings_insertAll_empty, ← htable]
    rw [← hold, ← h.table] at hdup
    show (if t.table.accepts m then t.duplicates else t.duplicates + 1)
      + (t.table.insert m).mappings.length = (received ++ [m]).length
    cases hm : t.table.holds m.external with
    | true =>
        rw [MappingTable.insert_of_holds hm]
        simp only [MappingTable.accepts, hm, Bool.not_true, Bool.false_eq_true, if_false,
          List.length_append, List.length_singleton]
        omega
    | false =>
        rw [MappingTable.mappings_insert_of_not_holds hm]
        simp only [MappingTable.accepts, hm, Bool.not_false, if_true, List.length_append,
          List.length_singleton]
        omega

theorem records_receiveAll {t : Tally} {received : List Mapping} (h : t.Records received)
    (grace now : Nat) (ms : List Mapping) :
    (t.receiveAll grace now ms).Records (received ++ ms) := by
  induction ms generalizing t received with
  | nil => simpa [receiveAll] using h
  | cons m ms ih =>
      rw [List.append_cons]
      exact ih (records_receive h grace now m)

/-- Of the arrivals of one instant, only the first can move the deadline. -/
theorem deadline_receiveAll (t : Tally) (grace now : Nat) (ms : List Mapping) :
    (t.receiveAll grace now ms).deadline =
      if ms = [] then t.deadline else t.deadline.onMapping now grace := by
  induction ms generalizing t with
  | nil => rfl
  | cons m ms ih =>
      show ((t.receive grace now m).receiveAll grace now ms).deadline = _
      rw [ih (t.receive grace now m)]
      by_cases hms : ms = []
      · simp [hms, receive]
      · simp [hms, receive, Deadline.onMapping_onMapping]

end Tally

end NatDiscovery
