import NatDiscovery.Proofs.Alone
import NatDiscovery.Proofs.Session.Bounds

/-!
# `Proofs.Isolation` — a faulty address does not disturb the others

The task of one address may fail, break down, run out of ports, hang, or find its mapping too late.
Its end still shows in the collection: it decides when the last sender is gone, and so when the
collection is over. But **as long as no mapping of it is received, it might as well not be there**:
the receipts are those of the other addresses alone (`receipts_filter`), and these are the same
however the silent one behaves.

## Contents
- `ProbeTask.endingFrom_congr`, `ProbeTask.run_congr`: a task depends on its own probes only
- `Collector.Silent`, `cutoff_filter`, `receipts_filter`: a collection without a silent address
- `AgreeOn.receipts_eq`, `fitsClock_congr`: collections whose probes agree
- `collect_isolates`: two collections that differ in a silent address
-/

namespace NatDiscovery

namespace ProbeTask

variable {prober prober' : Prober} {address : IpAddr}

/-! ## A task depends on its own probes only -/

theorem endingFrom_congr
    (h : ∀ port k, prober (Endpoint.of address port) k = prober' (Endpoint.of address port) k)
    (ports : List Port) (now k : Nat) :
    endingFrom prober address ports now k = endingFrom prober' address ports now k := by
  induction ports generalizing now k with
  | nil => rfl
  | cons port ports ih =>
      simp only [endingFrom, h port k]
      split
      · rfl
      · exact ih _ _

theorem tryPorts_congr
    (h : ∀ port k, prober (Endpoint.of address port) k = prober' (Endpoint.of address port) k)
    (now : Nat) (ports : List Port) (probes : List (Nat × Endpoint)) (finished : Nat) :
    tryPorts prober now address ports probes finished =
      tryPorts prober' now address ports probes finished := by
  induction ports generalizing probes finished with
  | nil => rfl
  | cons port ports ih =>
      simp only [tryPorts, h port probes.length]
      split
      · rfl
      · split
        · rfl
        · exact ih _ _

theorem poll_congr
    (h : ∀ port k, prober (Endpoint.of address port) k = prober' (Endpoint.of address port) k)
    {t : ProbeTask} (ht : t.address = address) (now : Nat) :
    t.poll prober now = t.poll prober' now := by
  subst ht
  unfold poll
  split
  · exact tryPorts_congr h now _ _ _
  · split
    · rfl
    · split
      · rfl
      · exact tryPorts_congr h now _ _ _
  · rfl

/-- The run of a task by itself is decided by how the probes from its address behave. -/
theorem run_congr
    (h : ∀ port k, prober (Endpoint.of address port) k = prober' (Endpoint.of address port) k)
    (stop : Nat) (ports : List Port) :
    run prober (some stop) true ports address = run prober' (some stop) true ports address := by
  have hdrive : ∀ now polled, AtHome address polled.1 →
      drive prober (some stop) now polled = drive prober' (some stop) now polled := by
    intro now polled hhome
    generalize hshut : some stop = shutdown
    fun_induction drive prober shutdown now polled with
    | case1 shutdown now polled isOver => rw [drive_of_over isOver]
    | case2 now polled next wakes hdec ih => injection hshut
    | case3 now polled next wakes hdec stop' late => rw [drive_of_some wakes, if_pos late]
    | case4 now polled next wakes hdec stop' early ih =>
        rw [ih (hhome.poll next) hshut, drive_of_some wakes, if_neg early,
          poll_congr h hhome.home]
  have hstart : AtHome address (start ports address) :=
    ⟨rfl, fun _ hp => absurd hp List.not_mem_nil⟩
  simp only [run]
  rw [hdrive 0 _ (hstart.poll 0), poll_congr h hstart.home]

end ProbeTask

namespace Collector

variable {c c' : Collector} {locals : List IpAddr} {culprit : IpAddr}

/-! ## A collection without a silent address -/

/-- No mapping of this address is received. -/
def Silent (c : Collector) (locals : List IpAddr) (culprit : IpAddr) : Prop :=
  ∀ r ∈ c.receipts locals, r.mapping.internal ≠ culprit

/-- A silent address has no mapping, or has it too late. -/
theorem Silent.cutoff_le (h : c.Silent locals culprit) (hgrace : 0 < c.grace)
    (hculprit : culprit ∈ locals) {m : Mapping} (hm : (c.ending culprit).mapping = some m) :
    c.cutoff locals ≤ (c.ending culprit).time := by
  apply Nat.not_lt.mp
  intro hlt
  have hmem : ⟨(c.ending culprit).time, m⟩ ∈ c.receipts locals :=
    (mem_receipts hgrace).mpr ⟨culprit, hculprit, hlt, rfl, hm⟩
  exact h _ hmem (internal_endingFrom hm)

/-- A silent address delivers nothing before the cutoff. -/
theorem Silent.arrivalsAt_filter (h : c.Silent locals culprit) (hgrace : 0 < c.grace) {t : Nat}
    (ht : t < c.cutoff locals) :
    c.arrivalsAt (locals.filter (· ≠ culprit)) t = c.arrivalsAt locals t := by
  unfold arrivalsAt
  rw [List.filterMap_filter]
  apply List.filterMap_congr
  intro ip hip
  by_cases hculprit : ip = culprit
  · subst hculprit
    cases hm : (c.ending ip).mapping with
    | none => simp
    | some m =>
        have hlate := h.cutoff_le hgrace hip hm
        rw [if_neg (show ¬(c.ending ip).time = t by omega)]
        simp
  · simp [hculprit]

theorem Silent.deliveries_filter (h : c.Silent locals culprit) (hgrace : 0 < c.grace) {t : Nat}
    (ht : t ≤ c.cutoff locals) :
    c.deliveries (locals.filter (· ≠ culprit)) t = c.deliveries locals t := by
  induction t with
  | zero => rfl
  | succ t ih =>
      rw [deliveries_succ, deliveries_succ, ih (Nat.le_of_succ_le ht),
        h.arrivalsAt_filter hgrace ht]

theorem arrivalsBefore_filter_eq_nil {t : Nat} (h : c.arrivalsBefore locals t = [])
    (p : IpAddr → Bool) : c.arrivalsBefore (locals.filter p) t = [] := by
  apply List.eq_nil_iff_forall_not_mem.mpr
  intro m hm
  obtain ⟨ip, hip, htime, hmap⟩ := mem_arrivalsBefore.mp hm
  have hmem : m ∈ c.arrivalsBefore locals t :=
    mem_arrivalsBefore.mpr ⟨ip, List.mem_of_mem_filter hip, htime, hmap⟩
  rw [h] at hmem
  exact absurd hmem List.not_mem_nil

/-- **A silent address does not move the cutoff**: the first mapping is somebody else's. -/
theorem Silent.cutoff_filter (h : c.Silent locals culprit) (hgrace : 0 < c.grace) :
    c.cutoff (locals.filter (· ≠ culprit)) = c.cutoff locals := by
  by_cases hnone : c.arrivalsBefore locals c.initial = []
  · rw [cutoff_of_none hnone, cutoff_of_none (arrivalsBefore_filter_eq_nil hnone _)]
  · -- There is a first mapping in time, and its task is received.
    cases hfirst : c.firstArrival? locals with
    | none => exact absurd (arrivalsBefore_of_firstArrival?_eq_none hfirst _) hnone
    | some first =>
        obtain ⟨hat, hbefore⟩ := firstArrival?_eq_some_iff.mp hfirst
        have hlt : first < c.initial := by
          apply Nat.not_le.mp
          intro hle
          exact hnone (arrivalsBefore_eq_nil_of_le hle hbefore)
        have hcut := cutoff_of_first hbefore hat hlt
        have hin : first < c.cutoff locals := by
          omega
        have hat' : c.arrivalsAt (locals.filter (· ≠ culprit)) first ≠ [] := by
          rw [h.arrivalsAt_filter hgrace hin]
          exact hat
        rw [hcut]
        exact cutoff_of_first (arrivalsBefore_filter_eq_nil hbefore _) hat' hlt

/-- **A silent address might as well not be there**: the receipts are those of the others. -/
theorem Silent.receipts_filter (h : c.Silent locals culprit) (hgrace : 0 < c.grace) :
    c.receipts (locals.filter (· ≠ culprit)) = c.receipts locals := by
  rw [receipts_eq hgrace, receipts_eq hgrace, h.cutoff_filter hgrace,
    h.deliveries_filter hgrace (Nat.le_refl _)]

/-! ## Collections whose probes agree -/

/-- The collectors have the same ports and the same time, and their probes from these addresses
    behave alike. -/
structure AgreeOn (c c' : Collector) (locals : List IpAddr) : Prop where
  ports : c.ports = c'.ports
  initial : c.initial = c'.initial
  grace : c.grace = c'.grace
  probes : ∀ ip ∈ locals, ∀ port k,
    c.prober (Endpoint.of ip port) k = c'.prober (Endpoint.of ip port) k

theorem AgreeOn.ending_eq (h : c.AgreeOn c' locals) {ip : IpAddr} (hip : ip ∈ locals) :
    c.ending ip = c'.ending ip := by
  unfold ending
  rw [h.ports]
  exact ProbeTask.endingFrom_congr (h.probes ip hip) _ _ _

theorem AgreeOn.alone_eq (h : c.AgreeOn c' locals) (stop : Nat) {ip : IpAddr} (hip : ip ∈ locals) :
    c.alone stop ip = c'.alone stop ip := by
  unfold alone
  rw [h.ports]
  exact ProbeTask.run_congr (h.probes ip hip) _ _

theorem AgreeOn.arrivalsAt_eq (h : c.AgreeOn c' locals) (t : Nat) :
    c.arrivalsAt locals t = c'.arrivalsAt locals t := by
  apply List.filterMap_congr
  intro ip hip
  rw [h.ending_eq hip]

theorem AgreeOn.cutoff_eq (h : c.AgreeOn c' locals) : c.cutoff locals = c'.cutoff locals := by
  have hfirst : c.firstArrival? locals = c'.firstArrival? locals := by
    unfold firstArrival?
    congr 1
    apply List.filterMap_congr
    intro ip hip
    rw [h.ending_eq hip]
  unfold cutoff
  rw [hfirst, h.initial, h.grace]

theorem AgreeOn.receipts_eq (h : c.AgreeOn c' locals) (hgrace : 0 < c.grace) :
    c.receipts locals = c'.receipts locals := by
  rw [Collector.receipts_eq hgrace, Collector.receipts_eq (h.grace ▸ hgrace), ← h.cutoff_eq]
  unfold deliveries
  congr 1
  funext s
  rw [h.arrivalsAt_eq]

/-- Whether a collection stays within the clock is decided by its receipts. -/
theorem fitsClock_congr (hinitial : c.initial = c'.initial) (hgrace : c.grace = c'.grace)
    (hreceipts : c.receipts (distinct locals) = c'.receipts (distinct locals))
    (clock : Clock) (timeouts : Timeouts) :
    c.fitsClock clock timeouts locals = c'.fitsClock clock timeouts locals := by
  unfold fitsClock Wait.fitsClock
  rw [(books_waitFor c _).deadline, (books_waitFor c' _).deadline, deadlineOf, deadlineOf,
    hreceipts, hinitial, hgrace]

/-! ## Two collections that differ in a silent address -/

/-- Where the culprit is silent in both collections, they receive the same and have the same
    cutoff. -/
theorem receipts_eq_of_silent (hagree : c.AgreeOn c' (locals.filter (· ≠ culprit)))
    (hgrace : 0 < c.grace) (hsilent : c.Silent locals culprit)
    (hsilent' : c'.Silent locals culprit) :
    c.receipts locals = c'.receipts locals ∧ c.cutoff locals = c'.cutoff locals := by
  have hgrace' : 0 < c'.grace := hagree.grace ▸ hgrace
  constructor
  · calc c.receipts locals
        = c.receipts (locals.filter (· ≠ culprit)) := (hsilent.receipts_filter hgrace).symm
      _ = c'.receipts (locals.filter (· ≠ culprit)) := hagree.receipts_eq hgrace
      _ = c'.receipts locals := hsilent'.receipts_filter hgrace'
  · calc c.cutoff locals
        = c.cutoff (locals.filter (· ≠ culprit)) := (hsilent.cutoff_filter hgrace).symm
      _ = c'.cutoff (locals.filter (· ≠ culprit)) := hagree.cutoff_eq
      _ = c'.cutoff locals := hsilent'.cutoff_filter hgrace'

/-- The probes of the others are the same, too. -/
theorem filter_probes_run_congr (hgrace : 0 < c.grace)
    (hagree : c.AgreeOn c' ((distinct locals).filter (· ≠ culprit)))
    (hcut : c.cutoff (distinct locals) = c'.cutoff (distinct locals)) :
    (c.run locals).probes.filter (fun probe => probe.2.ip ≠ culprit) =
      (c'.run locals).probes.filter (fun probe => probe.2.ip ≠ culprit) := by
  have hleft := filter_probes_run hgrace locals fun ip => decide (ip ≠ culprit)
  have hright := filter_probes_run (hagree.grace ▸ hgrace) locals fun ip => decide (ip ≠ culprit)
  refine hleft.trans (Eq.trans ?_ hright.symm)
  rw [hcut, List.flatMap_def, List.flatMap_def]
  congr 1
  apply List.map_congr_left
  intro ip hip
  rw [hagree.alone_eq _ hip]

/-- **A faulty address does not disturb the others.** Of two collections that differ only in how the
    probes from one address behave, and that receive no mapping of it, both return or neither does.
    They report the same mappings and the same counts, and start the same probes from the other
    addresses; all their probes have ended. -/
theorem collect_isolates (clock : Clock) (prober prober' : Prober) (ports : List Port)
    (timeouts : Timeouts) (hgrace : 0 < timeouts.grace.totalNanos) (locals : List IpAddr)
    (culprit : IpAddr)
    (hagree : ∀ ip ∈ locals, ip ≠ culprit → ∀ port k,
      prober (Endpoint.of ip port) k = prober' (Endpoint.of ip port) k)
    (hsilent : (⟨prober, ports, timeouts.initial.millis, timeouts.grace.millis⟩ :
      Collector).Silent (distinct locals) culprit)
    (hsilent' : (⟨prober', ports, timeouts.initial.millis, timeouts.grace.millis⟩ :
      Collector).Silent (distinct locals) culprit) :
    let c : Collector := ⟨prober, ports, timeouts.initial.millis, timeouts.grace.millis⟩
    let returns := distinct locals = [] ∨ c.clockSuffices clock timeouts (distinct locals)
    ∃ r r' : Report,
      collect prober ports timeouts locals clock =
          (if returns then .ok r else .error .outOfRange) ∧
        collect prober' ports timeouts locals clock =
          (if returns then .ok r' else .error .outOfRange) ∧
        r.mappings = r'.mappings ∧ r.launched = r'.launched ∧ r.resolved = r'.resolved ∧
        r.duplicates = r'.duplicates ∧ r.joined = r'.joined ∧
        r.probes.filter (fun probe => probe.2.ip ≠ culprit) =
          r'.probes.filter (fun probe => probe.2.ip ≠ culprit) ∧
        r.finished = r.probes.length ∧ r'.finished = r'.probes.length := by
  intro c returns
  let c' : Collector := ⟨prober', ports, timeouts.initial.millis, timeouts.grace.millis⟩
  have hpos : 0 < c.grace := Duration.millis_pos hgrace
  have hothers : c.AgreeOn c' ((distinct locals).filter (· ≠ culprit)) := by
    refine ⟨rfl, rfl, rfl, ?_⟩
    intro ip hip port k
    obtain ⟨hip, hne⟩ := List.mem_filter.mp hip
    exact hagree ip (mem_distinct.mp hip) (of_decide_eq_true hne) port k
  obtain ⟨hreceipts, hcut⟩ := receipts_eq_of_silent hothers hpos hsilent hsilent'
  have hcollect : collect prober ports timeouts locals clock =
      if returns then .ok (c.run locals) else .error .outOfRange :=
    collect_eq clock prober ports timeouts hgrace locals
  have hcollect' : collect prober' ports timeouts locals clock =
      if returns then .ok (c'.run locals) else .error .outOfRange := by
    have hfits : c'.fitsClock clock timeouts locals = c.fitsClock clock timeouts locals :=
      (@fitsClock_congr c c' _ rfl rfl hreceipts clock timeouts).symm
    have hreturns : c.fitsClock clock timeouts locals = true ↔ returns := by
      rw [fitsClock_eq_clockSuffices clock timeouts rfl hpos, Bool.or_eq_true, List.isEmpty_iff]
    show (if c'.fitsClock clock timeouts locals = true then _ else _) = _
    rw [hfits]
    exact if_congr hreturns rfl rfl
  obtain ⟨hmappings, hlaunched, hresolved, hduplicates, hjoined⟩ := report_run c locals
  obtain ⟨hmappings', hlaunched', hresolved', hduplicates', hjoined'⟩ := report_run c' locals
  rw [← hreceipts] at hmappings' hresolved' hduplicates'
  exact ⟨c.run locals, c'.run locals, hcollect, hcollect', hmappings.trans hmappings'.symm,
    hlaunched.trans hlaunched'.symm, hresolved.trans hresolved'.symm,
    hduplicates.trans hduplicates'.symm, hjoined.trans hjoined'.symm,
    filter_probes_run_congr hpos hothers hcut, (Session.run_leaves_nothing c locals).2.2,
    (Session.run_leaves_nothing c' locals).2.2⟩

/-- The race with a fifth address whose probe breaks down instead of being late. -/
def brokenRace : Collector :=
  { race with
    prober := fun endpoint k =>
      if endpoint.ip = .v4 ⟨10, 0, 0, 5⟩ then ⟨1, .crashed⟩ else race.prober endpoint k }

/-- Late or broken, the fifth address of the race does not disturb the others. It decides how long
    the race takes. -/
theorem collect_isolates_race :
    race.Silent (distinct racers) (.v4 ⟨10, 0, 0, 5⟩) ∧
      brokenRace.Silent (distinct racers) (.v4 ⟨10, 0, 0, 5⟩) ∧
      ∃ r r', collect race.prober race.ports raceTimeouts racers .hourOld = .ok r ∧
        collect brokenRace.prober race.ports raceTimeouts racers .hourOld = .ok r' ∧
        r.mappings = r'.mappings ∧ r.launched = r'.launched ∧ r.resolved = r'.resolved ∧
        r.duplicates = r'.duplicates ∧ r.joined = r'.joined ∧
        r.probes.filter (fun probe => probe.2.ip ≠ .v4 ⟨10, 0, 0, 5⟩) =
          r'.probes.filter (fun probe => probe.2.ip ≠ .v4 ⟨10, 0, 0, 5⟩) ∧
        (race.run racers).elapsed = 6 ∧ (brokenRace.run racers).elapsed = 5 := by
  have hsilent : race.Silent (distinct racers) (.v4 ⟨10, 0, 0, 5⟩) := by
    unfold Silent
    decide +kernel
  have hsilent' : brokenRace.Silent (distinct racers) (.v4 ⟨10, 0, 0, 5⟩) := by
    unfold Silent
    decide +kernel
  obtain ⟨r, r', hcollect, hcollect', hmappings, hlaunched, hresolved, hduplicates, hjoined,
    hprobes, _⟩ := collect_isolates .hourOld race.prober brokenRace.prober race.ports
      raceTimeouts (by decide) racers (.v4 ⟨10, 0, 0, 5⟩)
      (by
        intro ip _ hne port k
        simp only [brokenRace, Endpoint.ip_of, if_neg hne])
      hsilent hsilent'
  have hreturns : (⟨race.prober, race.ports, raceTimeouts.initial.millis,
      raceTimeouts.grace.millis⟩ : Collector).clockSuffices .hourOld raceTimeouts
        (distinct racers) := by
    decide
  rw [if_pos (Or.inr hreturns)] at hcollect hcollect'
  exact ⟨hsilent, hsilent', r, r', hcollect, hcollect', hmappings, hlaunched, hresolved,
    hduplicates, hjoined, hprobes, by decide +kernel, by decide +kernel⟩

end Collector

end NatDiscovery
