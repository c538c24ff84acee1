import NatDiscovery.Proofs.Session.Bounds
import NatDiscovery.Proofs.Session.Report

/-!
# `Proofs.Session.Counts` — the counters and what they say about the report

The collector counts mappings received and duplicates in its wait, the table keeps entries, and the
number of tasks was fixed before. That these numbers fit together is checked nowhere. They do at
every instant of every collection (`Reachable.counts`): what was received is either an entry or a
duplicate, and each mapping was received from a task of its own.

## Contents
- `bystanders`, `length_reportedMappings`: the mappings of arrivals, counted
- `Tally.Records.resolved_eq`, `Tally.Records.duplicates_lt`: the counters of arrivals
- `Inv.resolved_le`, `Inv.length_mappings_le`: what the tasks bound
- `Reachable.counts`, `collect_counts`
-/

namespace NatDiscovery

/-! ## Counting arrivals -/

/-- The addresses that are on neither side of any of these mappings. -/
def bystanders (kept : List Mapping) (locals : List IpAddr) : List IpAddr :=
  locals.filter fun ip => ip ∉ kept.map Mapping.internal ∧ ip ∉ kept.map Mapping.external

theorem reportedMappings_eq_nil_iff {received : List Mapping} {locals : List IpAddr} :
    reportedMappings received locals = [] ↔ received = [] := by
  unfold reportedMappings
  simp only
  split
  · rename_i hnone
    exact ⟨fun _ => hnone, fun _ => rfl⟩
  · rename_i hsome
    rw [List.append_eq_nil_iff, firstOwners_eq_nil_iff]
    exact ⟨fun h => h.1, fun h => absurd h hsome⟩

/-- Once anything has arrived, the report has the mappings kept and one for each bystander. -/
theorem length_reportedMappings {received : List Mapping} (hsome : received ≠ [])
    (locals : List IpAddr) :
    (reportedMappings received locals).length =
      (firstOwners received).length + (bystanders (firstOwners received) locals).length := by
  rw [reportedMappings, if_neg hsome, List.length_append, List.length_map]
  rfl

namespace Tally.Records

variable {t : Tally} {received : List Mapping}

theorem mappings_eq (h : t.Records received) : t.table.mappings = firstOwners received := by
  rw [h.table]
  exact MappingTable.mappings_insertAll_empty received

/-- What was received is either an entry or a duplicate. -/
theorem resolved_eq (h : t.Records received) :
    t.resolved = t.table.mappings.length + t.duplicates := by
  have hdup := h.duplicates
  rw [h.resolved, h.mappings_eq]
  omega

/-- The first mapping received is not a duplicate. -/
theorem duplicates_lt (h : t.Records received) (hsome : received ≠ []) :
    t.duplicates < t.resolved := by
  have hkept : firstOwners received ≠ [] := fun hnone => hsome (firstOwners_eq_nil_iff.mp hnone)
  have hpos := List.length_pos_iff.mpr hkept
  rw [h.resolved_eq, h.mappings_eq]
  omega

theorem resolved_eq_zero_iff (h : t.Records received) : t.resolved = 0 ↔ received = [] := by
  rw [h.resolved, List.length_eq_zero_iff]

end Tally.Records

namespace Session

variable {c : Collector} {locals : List IpAddr} {s : Session}

/-! ## Counting tasks -/

/-- Each mapping was received from a task of its own. -/
theorem Inv.resolved_le (h : s.Inv locals) : s.tally.resolved ≤ s.workers.length := by
  rw [h.records.resolved]
  exact Nat.le_trans s.received_sublist_sent.length_le h.length_sent_le

/-- The local sides of the report are distinct addresses of tasks. -/
theorem Inv.length_mappings_le (h : s.Inv locals) :
    s.report.mappings.length ≤ s.workers.length := by
  have hsub : s.report.mappings.map Mapping.internal ⊆ distinct locals := by
    intro ip hip
    obtain ⟨m, hm, rfl⟩ := List.mem_map.mp hip
    exact mem_distinct.mpr (h.internal_mem_locals hm)
  calc s.report.mappings.length
      = (s.report.mappings.map Mapping.internal).length := by rw [List.length_map]
    _ ≤ (distinct locals).length := h.nodup_internal.length_le_of_subset hsub
    _ = s.workers.length := h.capacity_eq.symm

/-! ## Counting mappings -/

theorem Inv.mappings_eq_nil_iff (h : s.Inv locals) :
    s.report.mappings = [] ↔ s.tally.resolved = 0 := by
  rw [h.mappings_eq, reportedMappings_eq_nil_iff, h.records.resolved_eq_zero_iff]

/-- The mappings of a report are what was received without the duplicates, and the bystanders. -/
theorem Inv.length_mappings (h : s.Inv locals) (hsome : s.tally.resolved ≠ 0) :
    s.report.mappings.length =
      (s.tally.resolved - s.tally.duplicates) +
        (bystanders s.tally.table.mappings (distinct locals)).length := by
  have hreceived : s.received ≠ [] := fun hnone => hsome (h.records.resolved_eq_zero_iff.mpr hnone)
  have hkept : s.tally.resolved - s.tally.duplicates = s.tally.table.mappings.length := by
    rw [h.records.resolved_eq]
    exact Nat.add_sub_cancel _ _
  rw [hkept, h.records.mappings_eq, h.mappings_eq]
  exact length_reportedMappings hreceived _

/-- **The counters add up**, at every instant and in whatever order things happened: every mapping
    received is an entry of the table or a duplicate, and there are no more of them than tasks. So
    the report is empty exactly when nothing was received, and else has a mapping for each entry and
    each bystander, but no more than tasks. -/
theorem Reachable.counts (h : Reachable c locals s) :
    let kept := s.tally.table.mappings
    kept = firstOwners s.received ∧
      s.report.launched = (distinct locals).length ∧
      s.tally.resolved = kept.length + s.tally.duplicates ∧
      s.tally.resolved ≤ s.report.launched ∧
      (s.received ≠ [] → s.tally.duplicates < s.tally.resolved) ∧
      (s.report.mappings = [] ↔ s.report.resolved = 0) ∧
      (s.report.resolved ≠ 0 →
        s.report.mappings.length =
          (s.report.resolved - s.report.duplicates) +
            (bystanders kept (distinct locals)).length ∧
          s.report.mappings.length ≤ s.report.launched) := by
  have hinv := h.inv
  refine ⟨hinv.records.mappings_eq, hinv.capacity_eq, hinv.records.resolved_eq, hinv.resolved_le,
    hinv.records.duplicates_lt, hinv.mappings_eq_nil_iff, ?_⟩
  intro hsome
  exact ⟨hinv.length_mappings hsome, hinv.length_mappings_le⟩

/-- Of the five addresses that race, three are answered in time, two of them alike; so two mappings
    are kept, and the two bystanders stand for themselves. -/
theorem exists_race_counts :
    ∃ s, Reachable Collector.race Collector.racers s ∧ s.stage = .returned ∧
      s.report.launched = 5 ∧ s.report.resolved = 3 ∧ s.report.duplicates = 1 ∧
      s.tally.table.mappings.length = 2 ∧
      (bystanders s.tally.table.mappings (distinct Collector.racers)).length = 2 ∧
      s.report.mappings.length = 4 := by
  obtain ⟨s, hreach, hreturned, hreport⟩ := exists_session_run Collector.race Collector.racers
  obtain ⟨_, hlaunched, hresolved, _, _, _, hmappings⟩ := hreach.counts
  have hthree : s.report.resolved = 3 := by
    rw [hreport]
    decide +kernel
  have hone : s.report.duplicates = 1 := by
    rw [hreport]
    decide +kernel
  have hfour : s.report.mappings.length = 4 := by
    rw [hreport]
    decide +kernel
  have hkept : s.tally.resolved = s.tally.table.mappings.length + 1 := by
    rw [hresolved]
    exact congrArg _ hone
  obtain ⟨hlength, _⟩ := hmappings (by rw [hthree]; decide)
  rw [hfour, hthree, hone] at hlength
  refine ⟨s, hreach, hreturned, hlaunched, hthree, hone, ?_, ?_, hfour⟩
  · have hthree' : s.tally.resolved = 3 := hthree
    omega
  · omega

/-- **The counters of a collection that returns add up.** -/
theorem collect_counts {prober : Prober} {ports : List Port} {timeouts : Timeouts}
    {clock : Clock} {r : Report} (h : collect prober ports timeouts locals clock = .ok r) :
    r.resolved ≤ r.launched ∧
      (r.resolved ≠ 0 → r.duplicates < r.resolved) ∧
      (r.mappings = [] ↔ r.resolved = 0) ∧
      r.mappings.length ≤ r.launched := by
  obtain ⟨s, hreach, _, rfl⟩ := exists_session_collect h
  have hinv := hreach.inv
  refine ⟨hinv.resolved_le, ?_, hinv.mappings_eq_nil_iff, hinv.length_mappings_le⟩
  intro hsome
  exact hinv.records.duplicates_lt fun hnone =>
    hsome (hinv.records.resolved_eq_zero_iff.mpr hnone)

end Session

end NatDiscovery
