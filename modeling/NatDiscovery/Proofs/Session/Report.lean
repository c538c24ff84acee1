import Mathlib.Data.List.Nodup
import NatDiscovery.Proofs.Session.Simulation

/-!
# `Proofs.Session.Report` — what a collection reports, in whatever order it went

The table checks that external addresses are unique, and nothing checks the local ones. They are
unique all the same: the local addresses are distinct, each task sends at most one mapping, and an
identity is added only where its address is on neither side of a mapping. So **the report is a
partial bijection that covers the local addresses** (`Reachable.report_bijective`).

A local address is on the local side of one mapping, with one exception: it owns nothing, and
another local address is seen as it (`Reachable.local_side`).

## Contents
- `nodup_external_reported`, `nodup_internal_reported`, `internal_mem_reported_iff`: the mappings
  of arrivals
- `Inv.mappings_eq`: those of a session
- `Inv.covered`, `Reachable.report_bijective`, `collect_bijective`
- `Reachable.local_side`
-/

namespace NatDiscovery

/-! ## The mappings of arrivals -/

theorem nodup_external_firstOwners (ms : List Mapping) :
    ((firstOwners ms).map Mapping.external).Nodup := by
  induction ms with
  | nil => exact List.nodup_nil
  | cons m ms ih =>
      simp only [firstOwners, List.map_cons, List.nodup_cons]
      refine ⟨?_, ih.sublist (List.filter_sublist.map _)⟩
      intro hmem
      obtain ⟨k, hk, hext⟩ := List.mem_map.mp hmem
      exact absurd hext (by simpa using (List.mem_filter.mp hk).2)

section Reported

variable {received : List Mapping} {locals : List IpAddr}

/-- No external address is reported twice. -/
theorem nodup_external_reported (hlocals : locals.Nodup) :
    ((reportedMappings received locals).map Mapping.external).Nodup := by
  unfold reportedMappings
  simp only
  split
  · exact List.nodup_nil
  · rw [List.map_append, List.map_map, List.nodup_append]
    refine ⟨nodup_external_firstOwners received, ?_, ?_⟩
    · show (List.map id _).Nodup
      rw [List.map_id]
      exact hlocals.sublist List.filter_sublist
    · -- An identity is added only where its address has no owner.
      rintro a ha b hb rfl
      obtain ⟨ip, hip, rfl⟩ := List.mem_map.mp hb
      exact absurd ha (of_decide_eq_true (List.mem_filter.mp hip).2).2

/-- No local address is reported twice, if none arrives twice. -/
theorem nodup_internal_reported (hlocals : locals.Nodup)
    (hreceived : (received.map Mapping.internal).Nodup) :
    ((reportedMappings received locals).map Mapping.internal).Nodup := by
  unfold reportedMappings
  simp only
  split
  · exact List.nodup_nil
  · rw [List.map_append, List.map_map, List.nodup_append]
    refine ⟨hreceived.sublist ((firstOwners_sublist received).map _), ?_, ?_⟩
    · show (List.map id _).Nodup
      rw [List.map_id]
      exact hlocals.sublist List.filter_sublist
    · rintro a ha b hb rfl
      obtain ⟨ip, hip, rfl⟩ := List.mem_map.mp hb
      exact absurd ha (of_decide_eq_true (List.mem_filter.mp hip).2).1

/-- **What is left out.** Where something has arrived, a local address is on the local side unless it
    owns nothing and somebody else is seen as it. -/
theorem internal_mem_reported_iff (hsome : received ≠ []) {ip : IpAddr} (hip : ip ∈ locals) :
    ip ∈ (reportedMappings received locals).map Mapping.internal ↔
      ¬(ip ∉ (firstOwners received).map Mapping.internal ∧
        ip ∈ (firstOwners received).map Mapping.external) := by
  constructor
  · rintro hmem ⟨hint, hext⟩
    obtain ⟨m, hm, rfl⟩ := List.mem_map.mp hmem
    rcases mem_reportedMappings.mp hm with hm | ⟨_, _, _, _, hfree, rfl⟩
    · exact hint (List.mem_map_of_mem hm)
    · exact hfree hext
  · intro hout
    by_cases hint : ip ∈ (firstOwners received).map Mapping.internal
    · obtain ⟨m, hm, rfl⟩ := List.mem_map.mp hint
      exact List.mem_map_of_mem (mem_reportedMappings.mpr (Or.inl hm))
    · have hfree : ip ∉ (firstOwners received).map Mapping.external := fun h => hout ⟨hint, h⟩
      have hmem : Mapping.identity ip ∈ reportedMappings received locals :=
        mem_reportedMappings.mpr (Or.inr ⟨hsome, ip, hip, hint, hfree, rfl⟩)
      exact List.mem_map_of_mem hmem

end Reported

/-- Where a local address occurs once, its mapping is the only one. -/
theorem filter_internal_eq {ms : List Mapping} (hnd : (ms.map Mapping.internal).Nodup) {m : Mapping}
    (hm : m ∈ ms) : ms.filter (·.internal = m.internal) = [m] := by
  induction ms with
  | nil => exact absurd hm List.not_mem_nil
  | cons k ms ih =>
      obtain ⟨hk, hrest⟩ := List.nodup_cons.mp hnd
      rcases List.mem_cons.mp hm with rfl | hm
      · have hnone : ms.filter (·.internal = m.internal) = [] := by
          rw [List.filter_eq_nil_iff]
          intro x hx
          have hne : x.internal ≠ m.internal := fun h => hk (h ▸ List.mem_map_of_mem hx)
          simpa using hne
        simp [hnone]
      · have hne : k.internal ≠ m.internal := fun h => hk (h ▸ List.mem_map_of_mem hm)
        simp [hne, ih hrest hm]

namespace Session

variable {c : Collector} {locals : List IpAddr} {s : Session}

/-! ## The report of a session -/

theorem Inv.mappings_eq (h : s.Inv locals) :
    s.report.mappings = reportedMappings s.received (distinct locals) := by
  show Collector.mappingsOf s.tally.table (s.workers.map fun w => w.task.address) = _
  rw [h.records.table, h.addresses]
  exact mappingsOf_insertAll _ (nodup_distinct locals)

theorem Inv.received_nodup (h : s.Inv locals) : (s.received.map Mapping.internal).Nodup :=
  h.sent_nodup.sublist (s.received_sublist_sent.map _)

theorem Inv.nodup_external (h : s.Inv locals) : (s.report.mappings.map Mapping.external).Nodup := by
  rw [h.mappings_eq]
  exact nodup_external_reported (nodup_distinct locals)

theorem Inv.nodup_internal (h : s.Inv locals) : (s.report.mappings.map Mapping.internal).Nodup := by
  rw [h.mappings_eq]
  exact nodup_internal_reported (nodup_distinct locals) h.received_nodup

/-- The local sides are local addresses. -/
theorem Inv.internal_mem_locals (h : s.Inv locals) {m : Mapping} (hm : m ∈ s.report.mappings) :
    m.internal ∈ locals := by
  rw [h.mappings_eq] at hm
  rcases mem_reportedMappings.mp hm with hm | ⟨_, ip, hip, _, _, rfl⟩
  · exact h.mem_locals_of_sent
      (s.received_sublist_sent.subset ((firstOwners_sublist s.received).subset hm))
  · exact mem_distinct.mp hip

/-- A mapping that the table keeps is in the report. -/
theorem Inv.mem_mappings_of_kept (h : s.Inv locals) {m : Mapping} (hm : m ∈ firstOwners s.received) :
    m ∈ s.report.mappings := by
  rw [h.mappings_eq]
  exact mem_reportedMappings.mpr (Or.inl hm)

/-- What is left out of the report of a session that has received something. -/
theorem Inv.internal_mem_mappings_iff (h : s.Inv locals) (hsome : s.received ≠ []) {ip : IpAddr}
    (hip : ip ∈ locals) :
    ip ∈ s.report.mappings.map Mapping.internal ↔
      ¬(ip ∉ (firstOwners s.received).map Mapping.internal ∧
        ip ∈ (firstOwners s.received).map Mapping.external) := by
  rw [h.mappings_eq]
  exact internal_mem_reported_iff hsome (mem_distinct.mpr hip)

/-- An address that owns nothing but is somebody's external address is that of another one. -/
theorem exists_other_owner {kept : List Mapping} {ip : IpAddr}
    (hint : ip ∉ kept.map Mapping.internal) (hext : ip ∈ kept.map Mapping.external) :
    ∃ m ∈ kept, m.external = ip ∧ m.internal ≠ ip := by
  obtain ⟨m, hm, hmext⟩ := List.mem_map.mp hext
  exact ⟨m, hm, hmext, fun h => hint (h ▸ List.mem_map_of_mem hm)⟩

/-- A mapping of the report is the only one of its local address. -/
theorem Inv.filter_mappings_eq (h : s.Inv locals) {m : Mapping} (hm : m ∈ s.report.mappings) :
    s.report.mappings.filter (·.internal = m.internal) = [m] :=
  filter_internal_eq h.nodup_internal hm

/-- **Who comes first is reported.** A mapping received is in the report exactly when no earlier one
    with its external address is. -/
theorem Inv.mem_mappings_iff (h : s.Inv locals) {pre post : List Mapping} {m : Mapping}
    (split : s.received = pre ++ m :: post) :
    m ∈ s.report.mappings ↔
      ¬∃ k ∈ pre, k.external = m.external ∧ k ∈ s.report.mappings := by
  constructor
  · -- Two mappings of one external address would be the same, and `m` does not come twice.
    rintro hm ⟨k, hk, hext, hkm⟩
    have hkeq : k = m := List.inj_on_of_nodup_map h.nodup_external hkm hm hext
    have hnd := h.received_nodup
    rw [split, List.map_append, List.nodup_append] at hnd
    exact hnd.2.2 _ (List.mem_map_of_mem hk) m.internal (by simp) (by rw [hkeq])
  · intro hnone
    obtain ⟨k, hk, hext, rfl | hpre⟩ := @exists_firstOwner pre post m
    · rw [← split] at hk
      exact h.mem_mappings_of_kept hk
    · rw [← split] at hk
      exact absurd ⟨k, hpre, hext, h.mem_mappings_of_kept hk⟩ hnone

/-- Once anything has been received, each local address has one mapping, or is the external address of
    another one. -/
theorem Inv.covered (h : s.Inv locals) (hsome : s.received ≠ []) {ip : IpAddr} (hip : ip ∈ locals) :
    (∃ m, s.report.mappings.filter (·.internal = ip) = [m]) ∨
      ∃ m ∈ s.report.mappings, m.external = ip ∧ m.internal ≠ ip := by
  by_cases hown : ip ∈ s.report.mappings.map Mapping.internal
  · obtain ⟨m, hm, rfl⟩ := List.mem_map.mp hown
    exact Or.inl ⟨m, h.filter_mappings_eq hm⟩
  · rw [h.internal_mem_mappings_iff hsome hip, not_not] at hown
    obtain ⟨m, hm, hext, hne⟩ := exists_other_owner hown.1 hown.2
    exact Or.inr ⟨m, h.mem_mappings_of_kept hm, hext, hne⟩

/-- **The report is a partial bijection that covers the local addresses**, in whatever order mappings
    arrived, tasks ended and the deadline fired. -/
theorem Reachable.report_bijective (h : Reachable c locals s) :
    (s.report.mappings.map Mapping.external).Nodup ∧
      (s.report.mappings.map Mapping.internal).Nodup ∧
      (∀ m ∈ s.report.mappings, m.internal ∈ locals) ∧
      (s.received ≠ [] → ∀ ip ∈ locals,
        (∃ m, s.report.mappings.filter (·.internal = ip) = [m]) ∨
          ∃ m ∈ s.report.mappings, m.external = ip ∧ m.internal ≠ ip) ∧
      (∀ pre m post, s.received = pre ++ m :: post →
        (m ∈ s.report.mappings ↔
          ¬∃ k ∈ pre, k.external = m.external ∧ k ∈ s.report.mappings)) := by
  have hinv := h.inv
  refine ⟨hinv.nodup_external, hinv.nodup_internal, fun m hm => hinv.internal_mem_locals hm,
    fun hsome ip hip => hinv.covered hsome hip, ?_⟩
  intro pre m post split
  exact hinv.mem_mappings_iff split

/-- The race reports a partial bijection, and covers each address that raced. -/
theorem exists_race_bijective :
    ∃ s, Reachable Collector.race Collector.racers s ∧ s.stage = .returned ∧
      s.report = Collector.race.run Collector.racers ∧
      (s.report.mappings.map Mapping.external).Nodup ∧
      (s.report.mappings.map Mapping.internal).Nodup ∧
      ∀ ip ∈ Collector.racers, (∃ m, s.report.mappings.filter (·.internal = ip) = [m]) ∨
        ∃ m ∈ s.report.mappings, m.external = ip ∧ m.internal ≠ ip := by
  obtain ⟨s, hreach, hreturned, hreport⟩ := exists_session_run Collector.race Collector.racers
  obtain ⟨hexternal, hinternal, _, hcovers, _⟩ := hreach.report_bijective
  refine ⟨s, hreach, hreturned, hreport, hexternal, hinternal, hcovers ?_⟩
  intro hnone
  have hempty := hreach.inv.mappings_eq
  rw [hreport, Collector.mappings_run (by decide), hnone] at hempty
  exact absurd hempty (by decide)

/-- **What a collection returns is a partial bijection of local addresses.** Unless it is empty it
    covers each of them, or has it as the external address of another one. -/
theorem collect_bijective {prober : Prober} {ports : List Port} {timeouts : Timeouts}
    {clock : Clock} {r : Report} (h : collect prober ports timeouts locals clock = .ok r) :
    (r.mappings.map Mapping.external).Nodup ∧ (r.mappings.map Mapping.internal).Nodup ∧
      (∀ m ∈ r.mappings, m.internal ∈ locals) ∧
      (r.mappings ≠ [] → ∀ ip ∈ locals,
        (∃ m, r.mappings.filter (·.internal = ip) = [m]) ∨
          ∃ m ∈ r.mappings, m.external = ip ∧ m.internal ≠ ip) := by
  obtain ⟨s, hreach, _, rfl⟩ := exists_session_collect h
  have hinv := hreach.inv
  refine ⟨hinv.nodup_external, hinv.nodup_internal, fun _ hm => hinv.internal_mem_locals hm, ?_⟩
  intro hsome ip hip
  refine hinv.covered ?_ hip
  intro hnone
  rw [hinv.mappings_eq, hnone] at hsome
  exact hsome rfl

/-! ## The local side -/

/-- Two addresses behind a loop: the first is seen from outside as the second, and the probe of the
    second fails. -/
def looped : Collector where
  prober := fun endpoint _ =>
    match endpoint with
    | .v4 ⟨10, 0, 0, 1⟩ _ => ⟨1, .found (.v4 ⟨10, 0, 0, 2⟩)⟩
    | _ => ⟨2, .failed .noServer⟩
  ports := [0]
  initial := 9
  grace := 3

/-- The addresses behind the loop. -/
def loop : List IpAddr :=
  [.v4 ⟨10, 0, 0, 1⟩, .v4 ⟨10, 0, 0, 2⟩]

/-- The session of the loop that is computed. It maps the first address and leaves out the second. -/
theorem exists_session_loop :
    ∃ s, Reachable looped loop s ∧ s.stage = .returned ∧
      s.report.mappings = [⟨.v4 ⟨10, 0, 0, 2⟩, .v4 ⟨10, 0, 0, 1⟩⟩] ∧ s.received ≠ [] := by
  obtain ⟨s, hreach, hreturned, hreport⟩ := exists_session_run looped loop
  have hmappings : s.report.mappings = [⟨.v4 ⟨10, 0, 0, 2⟩, .v4 ⟨10, 0, 0, 1⟩⟩] := by
    rw [hreport, Collector.mappings_run (by decide)]
    decide
  refine ⟨s, hreach, hreturned, hmappings, ?_⟩
  intro hnone
  rw [hreach.inv.mappings_eq, hnone] at hmappings
  exact absurd hmappings (by simp [reportedMappings])

/-- Not every local address is on the local side of a mapping. -/
theorem not_forall_local_side :
    ¬∀ (c : Collector) (locals : List IpAddr) (s : Session), Reachable c locals s →
      s.stage = .returned → s.received ≠ [] →
      ∀ ip ∈ locals, ∃ m, s.report.mappings.filter (·.internal = ip) = [m] := by
  intro hall
  obtain ⟨s, hreach, hreturned, hmappings, hsome⟩ := exists_session_loop
  obtain ⟨m, hm⟩ := hall looped loop s hreach hreturned hsome (.v4 ⟨10, 0, 0, 2⟩) (by decide)
  rw [hmappings] at hm
  exact absurd hm (by simp)

/-- **Where a local address is on the local side.** Once anything has been received, an address that
    owns an external one in the table has that mapping and no other; of the rest, an address has its
    identity and nothing else, unless the table holds it as the external address of another one.
    Only then it is left out. -/
theorem Reachable.local_side (h : Reachable c locals s) (hsome : s.received ≠ []) {ip : IpAddr}
    (hip : ip ∈ locals) :
    let kept := firstOwners s.received
    let own := s.report.mappings.filter (·.internal = ip)
    (∀ m ∈ kept, m.internal = ip → own = [m]) ∧
      (ip ∉ kept.map Mapping.internal → ip ∉ kept.map Mapping.external →
        own = [Mapping.identity ip]) ∧
      (ip ∉ kept.map Mapping.internal → ip ∈ kept.map Mapping.external →
        own = [] ∧ ∃ m ∈ kept, m.external = ip ∧ m.internal ≠ ip) := by
  have hinv := h.inv
  refine ⟨?_, ?_, ?_⟩
  · rintro m hm rfl
    exact hinv.filter_mappings_eq (hinv.mem_mappings_of_kept hm)
  · intro hint hext
    have hmem : Mapping.identity ip ∈ s.report.mappings := by
      rw [hinv.mappings_eq]
      exact mem_reportedMappings.mpr (Or.inr ⟨hsome, ip, mem_distinct.mpr hip, hint, hext, rfl⟩)
    exact hinv.filter_mappings_eq hmem
  · intro hint hext
    refine ⟨?_, exists_other_owner hint hext⟩
    have hout : ip ∉ s.report.mappings.map Mapping.internal := by
      rw [hinv.internal_mem_mappings_iff hsome hip, not_not]
      exact ⟨hint, hext⟩
    rw [List.filter_eq_nil_iff]
    intro m hm heq
    exact hout (List.mem_map.mpr ⟨m, hm, of_decide_eq_true heq⟩)

/-- Behind the loop the first address has its own mapping, and the second is left out. -/
theorem exists_loop_local_side :
    ∃ s, Reachable looped loop s ∧ s.stage = .returned ∧ s.received ≠ [] ∧
      s.report.mappings.filter (·.internal = .v4 ⟨10, 0, 0, 1⟩) =
        [⟨.v4 ⟨10, 0, 0, 2⟩, .v4 ⟨10, 0, 0, 1⟩⟩] ∧
      s.report.mappings.filter (·.internal = .v4 ⟨10, 0, 0, 2⟩) = [] := by
  obtain ⟨s, hreach, hreturned, hmappings, hsome⟩ := exists_session_loop
  have hkept : firstOwners s.received = [⟨.v4 ⟨10, 0, 0, 2⟩, .v4 ⟨10, 0, 0, 1⟩⟩] := by
    have hsub : (firstOwners s.received).Sublist
        [⟨.v4 ⟨10, 0, 0, 2⟩, .v4 ⟨10, 0, 0, 1⟩⟩] := by
      rw [← hmappings, hreach.inv.mappings_eq, reportedMappings, if_neg hsome]
      exact List.sublist_append_left _ _
    rcases List.sublist_singleton.mp hsub with hnone | hone
    · exact absurd (firstOwners_eq_nil_iff.mp hnone) hsome
    · exact hone
  obtain ⟨hfirst, _, _⟩ := @Reachable.local_side looped loop s hreach hsome
    (.v4 ⟨10, 0, 0, 1⟩) (by decide)
  obtain ⟨_, _, hsecond⟩ := @Reachable.local_side looped loop s hreach hsome
    (.v4 ⟨10, 0, 0, 2⟩) (by decide)
  refine ⟨s, hreach, hreturned, hsome, hfirst _ ?_ rfl, (hsecond ?_ ?_).1⟩
  · rw [hkept]
    exact List.mem_singleton_self _
  · rw [hkept]
    decide
  · rw [hkept]
    decide

end Session

end NatDiscovery
