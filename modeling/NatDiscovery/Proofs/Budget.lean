import NatDiscovery.Proofs.Receipts

/-!
# `Proofs.Budget` — the same collection with more time

A longer initial wait can turn a collection that heard nothing into one with a grace period, and a
first mapping moves the deadline, forwards or back. Still **more time never loses an answer**. What
the probes do does not depend on the waits, so the longer collection receives everything that the
shorter one received, in the same order, and perhaps more after that; and a table never gives an
external address away again.

A timer counts whole milliseconds, so both waits together are rounded up to these once
(`Timeouts.bothMillis`); a collection may take longer than they do to the nanosecond
(`not_forall_elapsed_within`).

## Contents
- `Timeouts.bothMillis`, `Duration.millis_mono`: longer spans
- `MappingTable.owner?_insertAll_of_some`: later arrivals change no owner
- `Collector.Outlasts`: the same collection with waits that are no shorter
- `Outlasts.cutoff_le`, `Outlasts.receipts_prefix`, `cutoff_lt`: the two runs compared, and the bound
- `collect_budget`, `not_forall_elapsed_within`: all of it
-/

namespace NatDiscovery

/-! ## Longer spans -/

theorem Duration.millis_mono {d d' : Duration} (h : d.totalNanos ≤ d'.totalNanos) :
    d.millis ≤ d'.millis :=
  Nat.div_le_div_right (Nat.add_le_add_right h _)

/-- The whole milliseconds that a timer waits for the initial wait and the grace period in a row. -/
def Timeouts.bothMillis (t : Timeouts) : Nat :=
  wholeMillis (t.initial.totalNanos + t.grace.totalNanos)

/-- Rounded up one by one, the two waits take at most a millisecond more. -/
theorem Timeouts.millis_add_millis_le (t : Timeouts) :
    t.initial.millis + t.grace.millis ≤ t.bothMillis + 1 := by
  unfold bothMillis Duration.millis wholeMillis
  omega

/-! ## Later arrivals -/

/-- An external address that has an owner keeps it, whatever else arrives. -/
theorem MappingTable.owner?_insertAll_of_some {t : MappingTable} {external owner : IpAddr}
    (h : t.owner? external = some owner) (ms : List Mapping) :
    (t.insertAll ms).owner? external = some owner := by
  rw [owner?_insertAll, h]
  rfl

namespace Collector

variable {c c' : Collector} {locals : List IpAddr}

/-! ## The table and the end of one collection -/

/-- The table of the mappings that a collection of these distinct addresses has received. -/
def received (c : Collector) (locals : List IpAddr) : MappingTable :=
  (c.waitFor locals).tally.table

theorem received_eq (c : Collector) (locals : List IpAddr) :
    c.received locals =
      ({} : MappingTable).insertAll ((c.receipts locals).map Receipt.mapping) :=
  (books_waitFor c locals).records.table

/-- The mappings of a report are read off the table of what was received. -/
theorem mappings_run_received (c : Collector) (locals : List IpAddr) :
    (c.run locals).mappings = mappingsOf (c.received (distinct locals)) (distinct locals) := by
  obtain ⟨hmappings, _⟩ := report_run c locals
  rw [hmappings, received_eq, mappingsOf_insertAll _ (nodup_distinct locals)]

/-- The cutoff lies within both waits: a first mapping in time comes before the initial wait is
    over. -/
theorem cutoff_lt (hgrace : 0 < c.grace) : c.cutoff locals < c.initial + c.grace := by
  unfold cutoff
  split
  · split
    · omega
    · omega
  · omega

/-- A collection never takes longer than both its waits. -/
theorem elapsed_run_le {timeouts : Timeouts} (hinitial : c.initial = timeouts.initial.millis)
    (hmillis : c.grace = timeouts.grace.millis) (hgrace : 0 < c.grace) (locals : List IpAddr) :
    (c.run locals).elapsed ≤ timeouts.bothMillis := by
  obtain ⟨_, _, _, _, helapsed⟩ := counters_run hgrace locals
  have hcutoff : c.cutoff (distinct locals) < c.initial + c.grace := cutoff_lt hgrace
  have hsum := timeouts.millis_add_millis_le
  rw [← hinitial, ← hmillis] at hsum
  calc (c.run locals).elapsed
      = min (c.cutoff (distinct locals)) (c.lastEnd (distinct locals)) := helapsed
    _ ≤ c.cutoff (distinct locals) := Nat.min_le_left _ _
    _ ≤ timeouts.bothMillis := by omega

/-! ## Two collections

The deliveries are the same in both; they differ in the cutoff alone. -/

/-- The same collection as `c` with waits that are no shorter. -/
structure Outlasts (c' c : Collector) : Prop where
  prober : c'.prober = c.prober
  ports : c'.ports = c.ports
  initial : c.initial ≤ c'.initial
  grace : c.grace ≤ c'.grace

namespace Outlasts

/-- Every task ends as it does in the shorter collection when nothing stops it. -/
theorem ending_eq (h : c'.Outlasts c) : c'.ending = c.ending := by
  funext ip
  rw [ending, ending, h.prober, h.ports]

theorem firstArrival?_eq (h : c'.Outlasts c) (locals : List IpAddr) :
    c'.firstArrival? locals = c.firstArrival? locals := by
  rw [firstArrival?, firstArrival?, h.ending_eq]

theorem lastEnd_eq (h : c'.Outlasts c) (locals : List IpAddr) :
    c'.lastEnd locals = c.lastEnd locals := by
  rw [lastEnd, lastEnd, h.ending_eq]

theorem deliveries_eq (h : c'.Outlasts c) (locals : List IpAddr) (t : Nat) :
    c'.deliveries locals t = c.deliveries locals t := by
  simp only [deliveries, arrivalsAt, h.ending_eq]

/-- The cutoff is no earlier. -/
theorem cutoff_le (h : c'.Outlasts c) (locals : List IpAddr) :
    c.cutoff locals ≤ c'.cutoff locals := by
  have hinitial := h.initial
  have hgrace := h.grace
  simp only [cutoff, h.firstArrival?_eq]
  cases c.firstArrival? locals with
  | none => exact hinitial
  | some first =>
      simp only
      split
      -- In time for the shorter initial wait, the first mapping is in time for the longer one.
      · rw [if_pos (by omega)]
        omega
      -- It may be in time for the longer one alone, and then the grace period starts later still.
      · split <;> omega

end Outlasts

/-- The deliveries before an instant come before those that follow it. -/
theorem deliveries_prefix {t u : Nat} (h : t ≤ u) :
    c.deliveries locals t <+: c.deliveries locals u := by
  induction h with
  | refl => exact List.prefix_refl _
  | step _ ih =>
      rw [Nat.succ_eq_add_one, deliveries_succ]
      exact ih.trans (List.prefix_append _ _)

namespace Outlasts

variable (h : c'.Outlasts c) (hgrace : 0 < c.grace) (locals : List IpAddr)
include h hgrace

/-- **What the shorter collection receives is the beginning of what the longer one receives**, with
    the same instants. -/
theorem receipts_prefix : c.receipts locals <+: c'.receipts locals := by
  rw [receipts_eq hgrace, receipts_eq (Nat.lt_of_lt_of_le hgrace h.grace), h.deliveries_eq]
  exact deliveries_prefix (h.cutoff_le locals)

/-- Who owns an external address in the shorter collection owns it in the longer one. -/
theorem owner?_received {external owner : IpAddr}
    (howner : (c.received locals).owner? external = some owner) :
    (c'.received locals).owner? external = some owner := by
  obtain ⟨more, hmore⟩ := h.receipts_prefix hgrace locals
  rw [received_eq] at howner ⊢
  rw [← hmore, List.map_append, MappingTable.insertAll_append]
  exact MappingTable.owner?_insertAll_of_some howner _

theorem resolved_le : (c.run locals).resolved ≤ (c'.run locals).resolved := by
  obtain ⟨_, _, hresolved, _⟩ := report_run c locals
  obtain ⟨_, _, hresolved', _⟩ := report_run c' locals
  rw [hresolved, hresolved', List.length_map, List.length_map]
  exact (h.receipts_prefix hgrace (distinct locals)).length_le

theorem elapsed_le : (c.run locals).elapsed ≤ (c'.run locals).elapsed := by
  obtain ⟨_, _, _, _, helapsed⟩ := counters_run hgrace locals
  obtain ⟨_, _, _, _, helapsed'⟩ := counters_run (Nat.lt_of_lt_of_le hgrace h.grace) locals
  have hcutoff := h.cutoff_le (distinct locals)
  rw [helapsed, helapsed', h.lastEnd_eq]
  omega

end Outlasts

/-- A clock that suffices for the longer waits suffices for the shorter ones. -/
theorem Outlasts.clockSuffices_of {clock : Clock} {timeouts timeouts' : Timeouts}
    (h : c'.Outlasts c) (hinitial : timeouts.initial.totalNanos ≤ timeouts'.initial.totalNanos)
    (hgrace : timeouts.grace.totalNanos ≤ timeouts'.grace.totalNanos)
    (hclock : c'.clockSuffices clock timeouts' locals = true) :
    c.clockSuffices clock timeouts locals = true := by
  have hwait := h.initial
  simp only [clockSuffices, h.firstArrival?_eq, Bool.and_eq_true] at hclock ⊢
  obtain ⟨hstart, hfirst⟩ := hclock
  refine ⟨Duration.fitsClock_anti hinitial (Nat.le_refl _) (Nat.le_refl _) hstart, ?_⟩
  cases hsome : c.firstArrival? locals with
  | none => rfl
  | some first =>
      simp only [hsome, Bool.or_eq_true, decide_eq_true_eq] at hfirst ⊢
      rcases hfirst with hlate | hfits
      · exact Or.inl (Nat.le_trans hwait hlate)
      · exact Or.inr (Duration.fitsClock_anti hgrace (Nat.le_refl _) (Nat.le_refl _) hfits)

/-! ## The time budget -/

/-- **More time never loses an answer.** Of two time budgets, let neither wait of the second be
    shorter, and let the clock express what the second collection computes. Then both collections
    return. The second one receives all that the first one received, before anything else; each
    external address that had an owner keeps it; no fewer mappings are counted, and the end comes no
    earlier. No collection takes longer than a timer for its initial wait and its grace period
    together. -/
theorem collect_budget (clock : Clock) (prober : Prober) (ports : List Port)
    {timeouts timeouts' : Timeouts}
    (hinitial : timeouts.initial.totalNanos ≤ timeouts'.initial.totalNanos)
    (hgrace : timeouts.grace.totalNanos ≤ timeouts'.grace.totalNanos)
    (hpos : 0 < timeouts.grace.totalNanos) (locals : List IpAddr)
    (hclock : distinct locals = [] ∨
      (⟨prober, ports, timeouts'.initial.millis, timeouts'.grace.millis⟩ : Collector).clockSuffices
        clock timeouts' (distinct locals)) :
    let ls := distinct locals
    let c : Collector := ⟨prober, ports, timeouts.initial.millis, timeouts.grace.millis⟩
    let c' : Collector := ⟨prober, ports, timeouts'.initial.millis, timeouts'.grace.millis⟩
    ∃ r r' : Report,
      collect prober ports timeouts locals clock = .ok r ∧
        collect prober ports timeouts' locals clock = .ok r' ∧
        r.mappings = mappingsOf (c.received ls) ls ∧
        r'.mappings = mappingsOf (c'.received ls) ls ∧
        c.receipts ls <+: c'.receipts ls ∧
        (∀ external owner, (c.received ls).owner? external = some owner →
          (c'.received ls).owner? external = some owner) ∧
        r.resolved ≤ r'.resolved ∧
        r.elapsed ≤ r'.elapsed ∧
        r.elapsed ≤ timeouts.bothMillis ∧ r'.elapsed ≤ timeouts'.bothMillis := by
  intro ls c c'
  have hc : 0 < c.grace := Duration.millis_pos hpos
  have hpos' : 0 < timeouts'.grace.totalNanos := Nat.lt_of_lt_of_le hpos hgrace
  have houtlasts : c'.Outlasts c :=
    ⟨rfl, rfl, Duration.millis_mono hinitial, Duration.millis_mono hgrace⟩
  have hc' : 0 < c'.grace := Nat.lt_of_lt_of_le hc houtlasts.grace
  have hclock' : ls = [] ∨ c.clockSuffices clock timeouts ls :=
    hclock.imp id (houtlasts.clockSuffices_of hinitial hgrace)
  have hcollect : collect prober ports timeouts locals clock = .ok (c.run locals) :=
    (collect_eq clock prober ports timeouts hpos locals).trans (if_pos hclock')
  have hcollect' : collect prober ports timeouts' locals clock = .ok (c'.run locals) :=
    (collect_eq clock prober ports timeouts' hpos' locals).trans (if_pos hclock)
  refine ⟨c.run locals, c'.run locals, hcollect, hcollect', mappings_run_received c locals,
    mappings_run_received c' locals, houtlasts.receipts_prefix hc ls,
    fun _ _ howner => houtlasts.owner?_received hc ls howner, houtlasts.resolved_le hc locals,
    houtlasts.elapsed_le hc locals, ?_, ?_⟩
  · exact elapsed_run_le rfl rfl hc locals
  · exact elapsed_run_le rfl rfl hc' locals

/-- The time budget of the race with a millisecond more at first and four more of grace. -/
def longRaceTimeouts : Timeouts :=
  { initial := .ofMillis 6, grace := .ofMillis 7 }

/-- The race within that budget. -/
def longRace : Collector :=
  ⟨race.prober, race.ports, longRaceTimeouts.initial.millis, longRaceTimeouts.grace.millis⟩

/-- With more time the race hears from its last address, too, and the first one keeps what is
    its. -/
theorem collect_race_budget :
    let contested : IpAddr := .v4 ⟨203, 0, 113, 9⟩
    raceTimeouts.initial.totalNanos ≤ longRaceTimeouts.initial.totalNanos ∧
      raceTimeouts.grace.totalNanos ≤ longRaceTimeouts.grace.totalNanos ∧
      0 < raceTimeouts.grace.totalNanos ∧
      longRace.clockSuffices .hourOld longRaceTimeouts (distinct racers) ∧
      ∃ r r', collect race.prober race.ports raceTimeouts racers .hourOld = .ok r ∧
        collect race.prober race.ports longRaceTimeouts racers .hourOld = .ok r' ∧
        r.resolved ≤ r'.resolved ∧ r.resolved = 3 ∧ r'.resolved = 4 ∧
        r.elapsed ≤ r'.elapsed ∧ r.elapsed = 6 ∧ r'.elapsed = 9 ∧ r'.elapsed ≤ 13 ∧
        (longRace.received (distinct racers)).owner? contested = some (.v4 ⟨10, 0, 0, 1⟩) := by
  intro contested
  have hinitial : raceTimeouts.initial.totalNanos ≤ longRaceTimeouts.initial.totalNanos := by
    decide
  have hgrace : raceTimeouts.grace.totalNanos ≤ longRaceTimeouts.grace.totalNanos := by decide
  have hpos : 0 < raceTimeouts.grace.totalNanos := by decide
  have hclock : longRace.clockSuffices .hourOld longRaceTimeouts (distinct racers) := by decide
  obtain ⟨r, r', hcollect, hcollect', _, _, _, howner, hresolved, helapsed, _, hbound⟩ :=
    collect_budget .hourOld race.prober race.ports hinitial hgrace hpos racers (Or.inr hclock)
  have hr : r = race.run racers := collect_eq_ok hcollect
  have hr' : r' = longRace.run racers := collect_eq_ok hcollect'
  refine ⟨hinitial, hgrace, hpos, hclock, r, r', hcollect, hcollect', hresolved, ?_, ?_, helapsed,
    ?_, ?_, Nat.le_trans hbound (by decide), howner _ _ (by decide +kernel)⟩
  · rw [hr]
    decide +kernel
  · rw [hr']
    decide +kernel
  · rw [hr]
    decide +kernel
  · rw [hr']
    decide +kernel

/-- **Both waits are exceeded by a fraction of a millisecond**, whatever the clock, where the timer has
    to round them up: a budget of two nanoseconds takes the first millisecond. -/
theorem not_forall_elapsed_within :
    ¬∃ clock : Clock, ∀ (prober : Prober) (ports : List Port) (timeouts timeouts' : Timeouts)
      (locals : List IpAddr), 0 < timeouts.initial.totalNanos → 0 < timeouts.grace.totalNanos →
      timeouts.initial.totalNanos ≤ timeouts'.initial.totalNanos →
      timeouts.grace.totalNanos ≤ timeouts'.grace.totalNanos →
      let c : Collector := ⟨prober, ports, timeouts.initial.millis, timeouts.grace.millis⟩
      let c' : Collector := ⟨prober, ports, timeouts'.initial.millis, timeouts'.grace.millis⟩
      let ls := distinct locals
      c.ClearOfDeadlines ls → c'.ClearOfDeadlines ls → c.TieFree ls →
      ∃ r r', collect prober ports timeouts locals clock = .ok r ∧
        collect prober ports timeouts' locals clock = .ok r' ∧
        r.resolved ≤ r'.resolved ∧ r.elapsed ≤ r'.elapsed ∧
        r.elapsed * 1000000 ≤ timeouts.initial.totalNanos + timeouts.grace.totalNanos := by
  rintro ⟨clock, hall⟩
  obtain ⟨hclear, hfree⟩ := lateCollector_undisturbed
  obtain ⟨r, r', hcollect, -, -, -, hwithin⟩ := hall lateCollector.prober lateCollector.ports
    fleetingTimeouts fleetingTimeouts lateLocals (by decide) (by decide) (Nat.le_refl _)
    (Nat.le_refl _) hclear hclear hfree
  rw [collect_eq_ok hcollect] at hwithin
  exact absurd hwithin (by decide +kernel)

end Collector

end NatDiscovery
