import NatDiscovery.Proofs.Session.Simulation

/-!
# `Proofs.Session.Bounds` — a collection within its bounds

The channel has one place for each task, and each task sends at most one mapping. So there is always
room for what is about to be sent, and **no task ever waits for the collector**; the collector in
turn needs one round for each mapping and one more. When it returns, no task and no probe is left,
and from the shutdown on no probe is started.

## Contents
- `Inv.room`, `Inv.exists_step_of_ready`: the channel
- `Inv.rounds_le_launched`: the wait
- `Inv.over_of_returned`, `Inv.finished_of_returned`: the return
- `isShutDown_of_step`, `probes_of_steps`: after the shutdown
- `Reachable.within_bounds`, `collect_within_bounds`: all of it
-/

namespace NatDiscovery

/-- After a shutdown no move of a task starts a probe. -/
theorem Worker.Move.probes_eq {prober : Prober} {now : Nat} {w w' : Worker}
    (h : w.Move prober now true w') : w'.task.probes = w.task.probes := by
  cases h with
  | probe _ _ running => exact absurd running (by simp)
  | exhaust => rfl
  | cancel => rfl
  | answer => rfl
  | drop => rfl

theorem Worker.Change.probes_eq {prober : Prober} {now : Nat} {w w' : Worker}
    (h : w.Change prober now true w') : w'.task.probes = w.task.probes := by
  cases h with
  | moves move => exact move.probes_eq
  | sends => rfl
  | joins => rfl

/-- A task that is over has seen all its probes end. -/
theorem Worker.Sound.finished_of_over {w : Worker} (h : w.Sound) (hover : w.Over) :
    w.task.finished = w.task.probes.length := by
  obtain ⟨_, outcome, hphase⟩ := hover
  have hcount := h.counted
  simp only [ProbeTask.underWay, hphase] at hcount
  exact hcount

/-- Tasks that have seen all their probes end account for every probe. -/
theorem totalOf_finished_eq {ws : List Worker}
    (h : ∀ w ∈ ws, w.task.finished = w.task.probes.length) :
    totalOf ProbeTask.finished (ws.map Worker.task) =
      (ws.flatMap fun w => w.task.probes).length := by
  induction ws with
  | nil => rfl
  | cons w ws ih =>
      rw [List.flatMap_cons, List.length_append, ← h w List.mem_cons_self,
        ← ih fun v hv => h v (List.mem_cons_of_mem _ hv)]
      rfl

namespace Session

variable {c : Collector} {locals : List IpAddr} {s s' : Session}

/-! ## The channel -/

theorem Inv.capacity_eq (h : s.Inv locals) : s.capacity = (distinct locals).length := by
  rw [capacity, ← h.addresses, List.length_map]

/-- What is in the channel and what is about to be sent fit into it together. -/
theorem Inv.room (h : s.Inv locals) :
    s.channel.length + (s.workers.filterMap Worker.outbox).length ≤ s.capacity := by
  have hle := h.length_sent_le
  simp only [sent, List.length_append] at hle
  rw [capacity]
  omega

/-- A task that is about to send finds room. -/
theorem Inv.room_of_ready (h : s.Inv locals) {w : Worker} {m : Mapping} (hw : w ∈ s.workers)
    (ready : w.outbox = some m) : s.channel.length < s.capacity := by
  have hroom := h.room
  have hmem : m ∈ s.workers.filterMap Worker.outbox := List.mem_filterMap.mpr ⟨w, hw, ready⟩
  have hpos := List.length_pos_of_mem hmem
  omega

/-- **Sending never waits.** A task that is about to send is rid of its mapping in one move. -/
theorem Inv.exists_step_of_ready (h : s.Inv locals) (c : Collector) {pre post : List Worker}
    {w : Worker} {m : Mapping} (split : s.workers = pre ++ w :: post) (ready : w.outbox = some m) :
    ∃ s', Step c s s' ∧ s'.workers = pre ++ { w with outbox := none } :: post := by
  have hw : w ∈ s.workers := by
    rw [split]
    exact List.mem_append_right _ List.mem_cons_self
  cases hclosed : s.isClosed with
  | true => exact ⟨_, .lose split ready hclosed, rfl⟩
  | false => exact ⟨_, .send split ready hclosed (h.room_of_ready hw ready), rfl⟩

/-! ## The wait -/

theorem Inv.rounds_le_launched (h : s.Inv locals) : s.rounds ≤ s.workers.length + 1 := by
  have hrounds := h.rounds_le
  have hreceived := s.received_sublist_sent.length_le
  have hsent := h.length_sent_le
  omega

/-! ## The return -/

/-- When the collector returns, every task is over. -/
theorem Inv.over_of_returned (h : s.Inv locals) (hreturned : s.stage = .returned) {w : Worker}
    (hw : w ∈ s.workers) : w.Over :=
  (h.sound w hw).isOver (h.returned hreturned w hw)

theorem Inv.joined_of_returned (h : s.Inv locals) (hreturned : s.stage = .returned) :
    s.joined = s.workers.length := by
  rw [h.joined_eq, List.countP_eq_length]
  exact h.returned hreturned

/-- When the collector returns, every probe that was started has ended. -/
theorem Inv.finished_of_returned (h : s.Inv locals) (hreturned : s.stage = .returned) :
    s.report.finished = s.report.probes.length := by
  apply totalOf_finished_eq
  intro w hw
  exact (h.sound w hw).finished_of_over (h.over_of_returned hreturned hw)

/-! ## After the shutdown -/

/-- The probes started, task by task. -/
def probes (s : Session) : List (List (Nat × Endpoint)) :=
  s.workers.map fun w => w.task.probes

/-- A shutdown is final. -/
theorem isShutDown_of_step (step : Step c s s') (hshut : s.isShutDown = true) :
    s'.isShutDown = true := by
  cases step with
  | close waited => simp [isShutDown, waited] at hshut
  | shutDown => rfl
  | finish => rfl
  | tick => exact hshut
  | move => exact hshut
  | send => exact hshut
  | lose => exact hshut
  | receive => exact hshut
  | drained => exact hshut
  | expire => exact hshut
  | join => exact hshut

/-- After a shutdown no move starts a probe. -/
theorem probes_of_step (step : Step c s s') (hshut : s.isShutDown = true) :
    s'.probes = s.probes := by
  unfold probes
  rcases step.workers_eq_or with heq | ⟨pre, w, w', post, split, split', change⟩
  · rw [heq]
  · rw [hshut] at change
    rw [split, split']
    simp only [List.map_append, List.map_cons, change.probes_eq]

theorem probes_of_steps (hsteps : Steps c s s') (hshut : s.isShutDown = true) :
    s'.isShutDown = true ∧ s'.probes = s.probes := by
  induction hsteps with
  | refl => exact ⟨hshut, rfl⟩
  | tail _ step ih =>
      obtain ⟨hshut', hprobes⟩ := ih
      exact ⟨isShutDown_of_step step hshut', (probes_of_step step hshut').trans hprobes⟩

/-! ## All of it -/

/-- **A collection stays within its bounds, and returns with nothing left behind.** -/
theorem Reachable.within_bounds (h : Reachable c locals s) :
    -- Each task sends at most one mapping.
    (∀ ip, (s.sent.filter (·.internal = ip)).length ≤ 1) ∧
      -- The channel has a place for each distinct address, and no task waits for one.
      s.capacity = (distinct locals).length ∧
      s.channel.length + (s.workers.filterMap Worker.outbox).length ≤ s.capacity ∧
      (∀ pre w post m, s.workers = pre ++ w :: post → w.outbox = some m →
        ∃ s', Step c s s' ∧ s'.workers = pre ++ { w with outbox := none } :: post) ∧
      -- The wait is short.
      s.rounds ≤ s.report.launched + 1 ∧
      -- The collector can come to return, and when it does, no task and no probe is left.
      (∃ s', Steps c s s' ∧ s'.stage = .returned) ∧
      (s.stage = .returned →
        s.report.joined = s.report.launched ∧ s.report.launched = (distinct locals).length ∧
          (∀ w ∈ s.workers, w.Over ∧ w.task.finished = w.task.probes.length) ∧
          s.report.finished = s.report.probes.length) ∧
      -- After the shutdown no probe is started.
      (s.isShutDown = true → ∀ s', Steps c s s' → s'.probes = s.probes) := by
  have hinv := h.inv
  refine ⟨?_, hinv.capacity_eq, hinv.room, ?_, hinv.rounds_le_launched, exists_returned hinv, ?_,
    ?_⟩
  · intro ip
    have hcount := List.nodup_iff_count.mp hinv.sent_nodup ip
    rw [List.count_eq_countP, List.countP_map, List.countP_eq_length_filter] at hcount
    exact hcount
  · intro pre w post m split ready
    exact hinv.exists_step_of_ready c split ready
  · intro hreturned
    refine ⟨hinv.joined_of_returned hreturned, hinv.capacity_eq, ?_,
      hinv.finished_of_returned hreturned⟩
    intro w hw
    have hover := hinv.over_of_returned hreturned hw
    exact ⟨hover, (hinv.sound w hw).finished_of_over hover⟩
  · intro hshut s' hsteps
    exact (probes_of_steps hsteps hshut).2

/-- The race is run to its end within its bounds. -/
theorem exists_race_within_bounds :
    ∃ s, Reachable Collector.race Collector.racers s ∧ s.stage = .returned ∧
      s.report = Collector.race.run Collector.racers ∧ s.capacity = 5 ∧ s.rounds ≤ 6 ∧
      s.report.joined = 5 ∧ s.report.finished = s.report.probes.length := by
  obtain ⟨s, hreach, hreturned, hreport⟩ :=
    exists_session_run Collector.race Collector.racers
  have hfive : (distinct Collector.racers).length = 5 := by decide
  obtain ⟨_, hcapacity, _, _, hrounds, _, hend, _⟩ := hreach.within_bounds
  obtain ⟨hjoined, hlaunched, _, hfinished⟩ := hend hreturned
  rw [hlaunched, hfive] at hrounds
  exact ⟨s, hreach, hreturned, hreport, hcapacity.trans hfive, hrounds,
    (hjoined.trans hlaunched).trans hfive, hfinished⟩

/-- **A collection that returns has stayed within its bounds**: each task has sent at most one
    mapping, there were no more rounds than mappings and one, and no task and no probe is left. -/
theorem collect_within_bounds {prober : Prober} {ports : List Port} {timeouts : Timeouts}
    {clock : Clock} {r : Report} (h : collect prober ports timeouts locals clock = .ok r) :
    ∃ s, Reachable ⟨prober, ports, timeouts.initial.millis, timeouts.grace.millis⟩ locals s ∧
      s.stage = .returned ∧ s.report = r ∧ (s.sent.map Mapping.internal).Nodup ∧
      s.rounds ≤ r.launched + 1 ∧
      r.launched = (distinct locals).length ∧ r.joined = r.launched ∧
      r.finished = r.probes.length := by
  obtain ⟨s, hreach, hreturned, rfl⟩ := exists_session_collect h
  have hinv := hreach.inv
  exact ⟨s, hreach, hreturned, rfl, hinv.sent_nodup, hinv.rounds_le_launched, hinv.capacity_eq,
    hinv.joined_of_returned hreturned, hinv.finished_of_returned hreturned⟩

/-- The computed collection joins every task and leaves no probe under way. -/
theorem run_leaves_nothing (c : Collector) (locals : List IpAddr) :
    (c.run locals).launched = (distinct locals).length ∧
      (c.run locals).joined = (c.run locals).launched ∧
      (c.run locals).finished = (c.run locals).probes.length := by
  obtain ⟨s, hreach, hreturned, hreport⟩ := exists_session_run c locals
  rw [← hreport]
  have hinv := hreach.inv
  exact ⟨hinv.capacity_eq, hinv.joined_of_returned hreturned, hinv.finished_of_returned hreturned⟩

end Session

end NatDiscovery
