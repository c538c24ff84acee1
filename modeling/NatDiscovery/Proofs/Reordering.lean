import Mathlib.Data.List.Nodup
import Mathlib.Data.List.Perm.Basic
import NatDiscovery.Proofs.Receipts
import NatDiscovery.Proofs.Selection

/-!
# `Proofs.Reordering` — the order of the addresses does not matter

Selection, tasks, arrivals at one instant, entries of the table and identities: a resolution walks
all of them in the order in which the host lists its interface addresses. **The outcome does not
depend on it**, unless two mappings of one external address are received at the very same instant;
then the order decides which of them is the duplicate.

Two runs are compared in lockstep. Their tasks are permutations of each other at every instant
(`wait_reorder`), so the same probe ends next; what is received at an instant is a permutation, and
arrivals with different external addresses commute (`alike_receive_comm`).

## Contents
- `MappingTable.insert_perm`, `insert_comm`, `mappingsOf_perm`: entries in another order
- `Tally.Alike`, `alike_receive_comm`, `Alike.receiveAll_perm`: arrivals of one instant
- `Untied`, `Wait.Alike`, `instant_reorder`, `wait_reorder`, `waitFor_reorder`: two waits in
  lockstep
- `Collector.TieFree.untied`: a condition on the endings of tasks
- `Report.SameUpToOrder`, `run_reorder`, `collect_reorder`: two collections
- `resolve_reorder`: two resolutions
-/

namespace NatDiscovery

/-! ## Entries in another order -/

namespace MappingTable

variable {t u : MappingTable}

theorem holds_perm (h : t.mappings.Perm u.mappings) (external : IpAddr) :
    t.holds external = u.holds external :=
  h.any_eq

theorem owns_perm (h : t.mappings.Perm u.mappings) (internal : IpAddr) :
    t.owns internal = u.owns internal :=
  h.any_eq

theorem insert_perm (h : t.mappings.Perm u.mappings) (m : Mapping) :
    (t.insert m).mappings.Perm (u.insert m).mappings := by
  cases ht : t.holds m.external with
  | true =>
      have hu := ht
      rw [holds_perm h] at hu
      rw [insert_of_holds ht, insert_of_holds hu]
      exact h
  | false =>
      have hu := ht
      rw [holds_perm h] at hu
      rw [mappings_insert_of_not_holds ht, mappings_insert_of_not_holds hu]
      exact h.append_right [m]

/-- A mapping of another external address is refused or kept all the same. -/
theorem holds_insert_of_ne (t : MappingTable) {m k : Mapping} (hne : m.external ≠ k.external) :
    (t.insert m).holds k.external = t.holds k.external := by
  rw [holds_insert, decide_eq_false hne, Bool.or_false]

/-- **Arrivals with different external addresses commute**, up to the order of the entries. -/
theorem insert_comm (t : MappingTable) {m k : Mapping} (hne : m.external ≠ k.external) :
    ((t.insert m).insert k).mappings.Perm ((t.insert k).insert m).mappings := by
  have hk := holds_insert_of_ne t hne
  have hm := holds_insert_of_ne t (Ne.symm hne)
  cases ht : t.holds m.external with
  | true =>
      rw [ht] at hm
      rw [insert_of_holds ht, insert_of_holds hm]
  | false =>
      rw [ht] at hm
      cases hu : t.holds k.external with
      | true =>
          rw [hu] at hk
          rw [insert_of_holds hk, insert_of_holds hu]
      | false =>
          -- Both are new, and each is appended behind the other.
          rw [hu] at hk
          rw [mappings_insert_of_not_holds hk, mappings_insert_of_not_holds ht,
            mappings_insert_of_not_holds hm, mappings_insert_of_not_holds hu,
            List.append_assoc, List.append_assoc]
          exact List.Perm.append_left _ (List.Perm.swap k m [])

/-- Identities are added whatever the order of the entries and of the addresses. -/
theorem fillIdentity_perm (h : t.mappings.Perm u.mappings) {locals locals' : List IpAddr}
    (hlocals : locals.Perm locals') (hnd : locals.Nodup) :
    (t.fillIdentity locals).mappings.Perm (u.fillIdentity locals').mappings := by
  have hfree : (fun ip => !t.owns ip && !t.holds ip) = fun ip => !u.owns ip && !u.holds ip := by
    funext ip
    rw [owns_perm h, holds_perm h]
  rw [mappings_fillIdentity t hnd, mappings_fillIdentity u (hlocals.nodup_iff.mp hnd), hfree]
  exact h.append ((hlocals.filter _).map _)

end MappingTable

theorem Collector.mappingsOf_perm {t u : MappingTable} (h : t.mappings.Perm u.mappings)
    {locals locals' : List IpAddr} (hlocals : locals.Perm locals') (hnd : locals.Nodup) :
    (mappingsOf t locals).Perm (mappingsOf u locals') := by
  have hempty : t.isEmpty = u.isEmpty := h.isEmpty_eq
  unfold mappingsOf
  rw [hempty]
  split
  · exact List.Perm.refl _
  · exact MappingTable.fillIdentity_perm h hlocals hnd

/-! ## Arrivals of one instant -/

namespace Tally

/-- The tallies are the same but for the order of the entries. -/
structure Alike (t u : Tally) : Prop where
  deadline : t.deadline = u.deadline
  table : t.table.mappings.Perm u.table.mappings
  resolved : t.resolved = u.resolved
  duplicates : t.duplicates = u.duplicates

variable {t u v : Tally}

theorem Alike.refl (t : Tally) : t.Alike t :=
  ⟨rfl, List.Perm.refl _, rfl, rfl⟩

theorem Alike.trans (h : t.Alike u) (h' : u.Alike v) : t.Alike v :=
  ⟨h.deadline.trans h'.deadline, h.table.trans h'.table, h.resolved.trans h'.resolved,
    h.duplicates.trans h'.duplicates⟩

/-- One arrival keeps the tallies alike. -/
theorem Alike.receive (h : t.Alike u) (grace now : Nat) (m : Mapping) :
    (t.receive grace now m).Alike (u.receive grace now m) := by
  have haccepts : t.table.accepts m = u.table.accepts m := by
    unfold MappingTable.accepts
    rw [MappingTable.holds_perm h.table]
  refine ⟨?_, MappingTable.insert_perm h.table m, ?_, ?_⟩
  · show t.deadline.onMapping now grace = u.deadline.onMapping now grace
    rw [h.deadline]
  · show t.resolved + 1 = u.resolved + 1
    rw [h.resolved]
  · show (if t.table.accepts m then t.duplicates else t.duplicates + 1) =
      if u.table.accepts m then u.duplicates else u.duplicates + 1
    rw [haccepts, h.duplicates]

/-- **Two arrivals of one instant commute** if their external addresses differ. -/
theorem alike_receive_comm (t : Tally) (grace now : Nat) {m k : Mapping}
    (hne : m.external ≠ k.external) :
    ((t.receive grace now m).receive grace now k).Alike
      ((t.receive grace now k).receive grace now m) := by
  have hk : (t.table.insert m).accepts k = t.table.accepts k := by
    unfold MappingTable.accepts
    rw [MappingTable.holds_insert_of_ne _ hne]
  have hm : (t.table.insert k).accepts m = t.table.accepts m := by
    unfold MappingTable.accepts
    rw [MappingTable.holds_insert_of_ne _ (Ne.symm hne)]
  refine ⟨rfl, MappingTable.insert_comm t.table hne, rfl, ?_⟩
  simp only [Tally.receive, hk, hm]
  cases t.table.accepts m <;> cases t.table.accepts k <;> rfl

/-- The same arrivals keep the tallies alike. -/
theorem Alike.receiveAll (h : t.Alike u) (grace now : Nat) (ms : List Mapping) :
    (t.receiveAll grace now ms).Alike (u.receiveAll grace now ms) := by
  induction ms generalizing t u with
  | nil => exact h
  | cons m ms ih => exact ih (h.receive grace now m)

/-- **The order of the arrivals of one instant does not matter** if their external addresses are all
    different. -/
theorem Alike.receiveAll_perm (h : t.Alike u) {grace now : Nat} {ms ks : List Mapping}
    (hperm : ms.Perm ks) (hnd : (ms.map Mapping.external).Nodup) :
    (t.receiveAll grace now ms).Alike (u.receiveAll grace now ks) := by
  induction hperm generalizing t u with
  | nil => exact h
  | cons m _ ih =>
      rw [List.map_cons, List.nodup_cons] at hnd
      exact ih (h.receive grace now m) hnd.2
  | swap k m ms =>
      have hne : m.external ≠ k.external := by
        intro heq
        rw [List.map_cons, List.map_cons, List.nodup_cons, heq] at hnd
        exact hnd.1 List.mem_cons_self
      -- The first two change places, and the rest arrive in the same order.
      have hswap : ((t.receive grace now m).receive grace now k).Alike
          ((u.receive grace now k).receive grace now m) :=
        ((h.receive grace now m).receive grace now k).trans (alike_receive_comm u grace now hne)
      exact hswap.receiveAll grace now ms
  | trans hfirst _ ih ih' =>
      have hnd' := (hfirst.map Mapping.external).nodup_iff.mp hnd
      exact (ih h hnd).trans (ih' (Alike.refl u) hnd')

end Tally

/-! ## Two waits in lockstep -/

/-- No two of these receipts have one external address at the same instant. -/
def Untied (record : List Receipt) : Prop :=
  (record.map fun r => (r.time, r.mapping.external)).Nodup

/-- Receipts of one instant are untied if their external addresses are all different. -/
theorem untied_map_mk_iff {now : Nat} {ms : List Mapping} :
    Untied (ms.map (Receipt.mk now)) ↔ (ms.map Mapping.external).Nodup := by
  have hpairs : (ms.map (Receipt.mk now)).map (fun r => (r.time, r.mapping.external)) =
      (ms.map Mapping.external).map (Prod.mk now) := by
    rw [List.map_map, List.map_map]
    rfl
  unfold Untied
  rw [hpairs]
  exact List.nodup_map_iff fun _ _ heq => congrArg Prod.snd heq

/-- The record of an untied wait is untied in both of its parts. -/
theorem Untied.of_append {record record' : List Receipt} (h : Untied (record ++ record')) :
    Untied record ∧ Untied record' := by
  unfold Untied at h
  rw [List.map_append, List.nodup_append] at h
  exact ⟨h.1, h.2.1⟩

theorem nextWake_perm {tasks tasks' : List ProbeTask} (h : tasks.Perm tasks') :
    nextWake tasks = nextWake tasks' := by
  apply Option.ext
  intro next
  unfold nextWake
  rw [List.min?_eq_some_iff, List.min?_eq_some_iff]
  have hmem := fun t => (h.filterMap ProbeTask.wakes?).mem_iff (a := t)
  simp only [hmem]

/-- The waits are the same but for the order of tasks and entries. -/
structure Wait.Alike (w w' : Wait) : Prop where
  elapsed : w.elapsed = w'.elapsed
  tasks : w.tasks.Perm w'.tasks
  tally : w.tally.Alike w'.tally

/-- **One instant in lockstep.** Tasks in another order stay so, and tallies stay alike. -/
theorem instant_reorder {prober : Prober} {now : Nat} {tasks tasks' : List ProbeTask}
    {tally tally' : Tally} (htasks : tasks.Perm tasks') (htally : tally.Alike tally')
    (huntied : Untied (receiptsAt prober now tasks)) (grace : Nat) :
    (pollAll prober now tasks).Perm (pollAll prober now tasks') ∧
      (tally.receiveAll grace now (sentAll prober now tasks)).Alike
        (tally'.receiveAll grace now (sentAll prober now tasks')) := by
  have hsent : (sentAll prober now tasks).Perm (sentAll prober now tasks') := htasks.filterMap _
  exact ⟨htasks.map _, htally.receiveAll_perm hsent (untied_map_mk_iff.mp huntied)⟩

/-- **Two waits in lockstep.** From tasks in another order and tallies that are alike, the waits end
    at the same instant and alike. -/
theorem wait_reorder {prober : Prober} {grace now : Nat} {tasks tasks' : List ProbeTask}
    {tally tally' : Tally} (htasks : tasks.Perm tasks') (htally : tally.Alike tally')
    (huntied : Untied (waitReceipts prober grace tasks tally)) :
    (wait prober grace now tasks tally).Alike (wait prober grace now tasks' tally') := by
  induction hweight : totalWeight tasks using Nat.strongRecOn generalizing now tasks tasks' tally
    tally' with
  | _ weight ih =>
      have hwake := nextWake_perm htasks
      cases hnext : nextWake tasks with
      | none =>
          rw [wait_of_stopped hnext, wait_of_stopped (hwake.symm.trans hnext)]
          exact ⟨rfl, htasks, htally⟩
      | some next =>
          have hnext' : nextWake tasks' = some next := hwake.symm.trans hnext
          by_cases hdue : tally.deadline.due ≤ next
          · have hdue' : tally'.deadline.due ≤ next := htally.deadline ▸ hdue
            rw [wait_of_due hnext hdue, wait_of_due hnext' hdue']
            exact ⟨congrArg Deadline.due htally.deadline, htasks, htally⟩
          · have hlt : next < tally.deadline.due := Nat.not_le.mp hdue
            have hlt' : next < tally'.deadline.due := htally.deadline ▸ hlt
            rw [waitReceipts_of_some hnext, if_neg hdue] at huntied
            obtain ⟨hinstant, hlater⟩ := huntied.of_append
            rw [wait_of_next hnext hlt, wait_of_next hnext' hlt']
            have hdec := totalWeight_pollAll_lt prober hnext
            rw [hweight] at hdec
            obtain ⟨htasks', htally'⟩ := instant_reorder htasks htally hinstant grace
            exact ih _ hdec htasks' htally' hlater rfl

namespace Collector

variable {c : Collector} {locals locals' : List IpAddr}

theorem TieFree.nodup_arrivalsAt (h : c.TieFree locals) (hnd : locals.Nodup) (t : Nat) :
    ((c.arrivalsAt locals t).map Mapping.external).Nodup := by
  unfold arrivalsAt
  rw [List.Nodup, List.pairwise_map, List.pairwise_filterMap]
  apply hnd.imp_of_mem
  intro a b ha hb hne m hm k hk
  rw [Option.ite_none_right_eq_some] at hm hk
  exact h a ha b hb hne (hm.1.trans hk.1.symm) m hm.2 k hk.2

/-- **Untied deliveries are received untied**, whatever the waits. -/
theorem TieFree.untied (h : c.TieFree locals) (hnd : locals.Nodup) :
    Untied (c.receipts locals) := by
  obtain ⟨t, hreceipts⟩ := exists_receipts_eq c locals
  rw [hreceipts]
  clear hreceipts
  unfold Untied
  induction t with
  | zero => exact List.nodup_nil
  | succ t ih =>
      rw [deliveries_succ, List.map_append, List.nodup_append]
      refine ⟨ih, ?_, ?_⟩
      · exact untied_map_mk_iff.mpr (h.nodup_arrivalsAt hnd t)
      · -- What came before came at another instant.
        rintro _ hx _ hy rfl
        obtain ⟨r, hr, hpair⟩ := List.mem_map.mp hx
        obtain ⟨_, _, hlt, _⟩ := mem_deliveries.mp hr
        obtain ⟨r', hr', hpair'⟩ := List.mem_map.mp hy
        obtain ⟨m, _, rfl⟩ := List.mem_map.mp hr'
        have htime : r.time = t := congrArg Prod.fst (hpair.trans hpair'.symm)
        omega

theorem waitFor_reorder (hperm : locals.Perm locals') (huntied : Untied (c.receipts locals)) :
    (c.waitFor locals).Alike (c.waitFor locals') := by
  have htasks : (locals.map (ProbeTask.start c.ports)).Perm
      (locals'.map (ProbeTask.start c.ports)) := hperm.map _
  rcases Nat.eq_zero_or_pos c.initial with hzero | hpos
  · rw [waitFor_of_zero hzero, waitFor_of_zero hzero]
    exact ⟨rfl, htasks, .refl _⟩
  · rw [receipts_of_pos hpos] at huntied
    rw [waitFor_of_pos hpos, waitFor_of_pos hpos]
    obtain ⟨hinstant, hlater⟩ := huntied.of_append
    obtain ⟨htasks', htally'⟩ := instant_reorder htasks (.refl (.start c.initial)) hinstant c.grace
    exact wait_reorder htasks' htally' hlater

end Collector

/-! ## Two collections -/

/-- The reports are the same but for the order of mappings and probes. -/
structure Report.SameUpToOrder (r r' : Report) : Prop where
  mappings : r.mappings.Perm r'.mappings
  launched : r.launched = r'.launched
  resolved : r.resolved = r'.resolved
  duplicates : r.duplicates = r'.duplicates
  joined : r.joined = r'.joined
  elapsed : r.elapsed = r'.elapsed
  probes : r.probes.Perm r'.probes
  finished : r.finished = r'.finished

theorem Report.SameUpToOrder.refl (r : Report) : r.SameUpToOrder r :=
  ⟨List.Perm.refl _, rfl, rfl, rfl, rfl, rfl, List.Perm.refl _, rfl⟩

theorem totalOf_perm (quantity : ProbeTask → Nat) {tasks tasks' : List ProbeTask}
    (h : tasks.Perm tasks') : totalOf quantity tasks = totalOf quantity tasks' := by
  have : LeftCommutative fun (t : ProbeTask) (n : Nat) => quantity t + n :=
    ⟨fun _ _ _ => Nat.add_left_comm ..⟩
  exact h.foldr_eq 0

namespace Collector

variable {c : Collector} {locals locals' : List IpAddr}

theorem reportOf_reorder (hperm : locals.Perm locals') (hnd : locals.Nodup) {w w' : Wait}
    (h : w.Alike w') : (reportOf locals w).SameUpToOrder (reportOf locals' w') := by
  have hjoined : (w.tasks.map ProbeTask.cancel).Perm (w'.tasks.map ProbeTask.cancel) :=
    h.tasks.map _
  exact
    { mappings := mappingsOf_perm h.tally.table hperm hnd
      launched := hperm.length_eq
      resolved := h.tally.resolved
      duplicates := h.tally.duplicates
      joined := hjoined.length_eq
      elapsed := h.elapsed
      probes := hjoined.flatMap_right _
      finished := totalOf_perm _ hjoined }

/-- **The report does not depend on the order of the addresses**, nor on repetitions. -/
theorem run_reorder (hsame : ∀ ip, ip ∈ locals ↔ ip ∈ locals')
    (huntied : Untied (c.receipts (distinct locals))) :
    (c.run locals).SameUpToOrder (c.run locals') := by
  have hperm := distinct_perm hsame
  unfold run
  simp only [← hperm.isEmpty_eq]
  split
  · exact .refl _
  · exact reportOf_reorder hperm (nodup_distinct locals) (waitFor_reorder hperm huntied)

theorem fitsClock_reorder (hsame : ∀ ip, ip ∈ locals ↔ ip ∈ locals')
    (huntied : Untied (c.receipts (distinct locals))) (clock : Clock) (timeouts : Timeouts) :
    c.fitsClock clock timeouts locals = c.fitsClock clock timeouts locals' := by
  have hperm := distinct_perm hsame
  have hdeadline := (waitFor_reorder hperm huntied).tally.deadline
  unfold fitsClock Wait.fitsClock
  rw [hperm.isEmpty_eq, hdeadline]

/-- A collection returns or fails whatever the order of the addresses. -/
theorem collect_reorder (clock : Clock) (prober : Prober) (ports : List Port) (timeouts : Timeouts)
    (hsame : ∀ ip, ip ∈ locals ↔ ip ∈ locals')
    (huntied : Untied ((⟨prober, ports, timeouts.initial.millis, timeouts.grace.millis⟩ :
      Collector).receipts (distinct locals))) :
    SameOutcome Report.SameUpToOrder (collect prober ports timeouts locals clock)
      (collect prober ports timeouts locals' clock) := by
  unfold collect
  simp only [fitsClock_reorder hsame huntied clock timeouts]
  split
  · exact .ok (run_reorder hsame huntied)
  · exact .error _

end Collector

/-! ## Two resolutions -/

/-- The collector of a resolution, once its ports are settled. -/
def Config.collector (config : Config) (prober : Prober) (plan : Plan) : Collector :=
  ⟨prober, plan.ports, config.timeouts.initial.millis, config.timeouts.grace.millis⟩

/-- **The order of the interface addresses does not matter**, nor do repetitions. Where no two
    mappings of one external address are received at the same instant, both resolutions fail with
    the same error, or both report the same, but for the order of mappings and probes. -/
theorem resolve_reorder (config : Config) {interfaces interfaces' : List InterfaceAddress}
    (hsame : ∀ i, i ∈ interfaces ↔ i ∈ interfaces') (draws : Draws) (prober : Prober)
    (clock : Clock) (huntied : ∀ plan, config.plan interfaces draws = .ok plan →
      Untied ((config.collector prober plan).receipts (distinct plan.locals))) :
    SameOutcome Report.SameUpToOrder (resolve config interfaces draws prober clock)
      (resolve config interfaces' draws prober clock) := by
  rw [resolve_eq_plan, resolve_eq_plan]
  apply (plan_reorder config hsame draws).bind
  rintro plan plan' hplan ⟨hports, hlocals⟩
  rw [← hports]
  apply SameOutcome.mapError
  exact Collector.collect_reorder clock prober plan.ports config.timeouts (fun _ => hlocals.mem_iff)
    (huntied plan hplan)

/-- A host whose fourth address is excluded and whose loopback address is probed last. -/
def raceHost : Config where
  portRange := some ⟨5000, 5002⟩
  enableLoopbackCandidate := true
  ips := { excludes := ["10.0.0.4/32"] }
  timeouts := Collector.raceTimeouts

/-- The addresses of the host. -/
def raceAddresses : List InterfaceAddress :=
  [⟨"eth0", .v4 ⟨10, 0, 0, 1⟩⟩, ⟨"wlan0", .v4 ⟨10, 0, 0, 2⟩⟩, ⟨"lo", .v4 ⟨127, 0, 0, 1⟩⟩,
    ⟨"eth0", .v4 ⟨10, 0, 0, 3⟩⟩, ⟨"eth0", .v4 ⟨10, 0, 0, 4⟩⟩]

/-- The race on a host ends the same when its addresses are listed backwards, and two of them once
    more. The probes are started in another order. -/
theorem resolve_reorder_raceHost :
    let reordered := raceAddresses.reverse ++ raceAddresses.take 2
    let clock := Clock.hourOld
    ∃ r r', resolve raceHost raceAddresses id Collector.race.prober clock = .ok r ∧
      resolve raceHost reordered id Collector.race.prober clock = .ok r' ∧
      r.SameUpToOrder r' ∧ r.resolved = 3 ∧ r.duplicates = 1 ∧ r.probes ≠ r'.probes := by
  intro reordered clock
  have hsame : ∀ i, i ∈ raceAddresses ↔ i ∈ reordered := by
    intro i
    rw [List.mem_append, List.mem_reverse, or_iff_left_of_imp List.mem_of_mem_take]
  have hplan : raceHost.plan raceAddresses id = .ok
      ⟨[5000, 5001, 5000, 5001, 5000],
        [.v4 ⟨10, 0, 0, 1⟩, .v4 ⟨10, 0, 0, 2⟩, .v4 ⟨10, 0, 0, 3⟩, .v4 ⟨127, 0, 0, 1⟩]⟩ := by
    decide +kernel
  have huntied : ∀ plan, raceHost.plan raceAddresses id = .ok plan →
      Untied ((raceHost.collector Collector.race.prober plan).receipts (distinct plan.locals)) := by
    intro plan h
    rw [hplan] at h
    injection h with h
    subst h
    apply Collector.TieFree.untied _ (nodup_distinct _)
    unfold Collector.TieFree
    decide
  have hreorder := resolve_reorder raceHost hsame id Collector.race.prober clock huntied
  have hcounts : (resolve raceHost raceAddresses id Collector.race.prober clock).map
      (fun r => (r.resolved, r.duplicates)) = .ok (3, 1) := by
    decide +kernel
  have hprobes : (resolve raceHost raceAddresses id Collector.race.prober clock).map Report.probes ≠
      (resolve raceHost reordered id Collector.race.prober clock).map Report.probes := by
    decide +kernel
  generalize resolve raceHost raceAddresses id Collector.race.prober clock = resolved
    at hreorder hcounts hprobes ⊢
  generalize resolve raceHost reordered id Collector.race.prober clock = resolved'
    at hreorder hprobes ⊢
  cases hreorder with
  | error e => injection hcounts
  | @ok r r' h =>
      injection hcounts with hcounts
      injection hcounts with hresolved hduplicates
      refine ⟨r, r', rfl, rfl, h, hresolved, hduplicates, ?_⟩
      intro heq
      exact hprobes (congrArg Except.ok heq)

end NatDiscovery
