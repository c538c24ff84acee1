import NatDiscovery.Collector

/-!
# `Proofs.Wait` — induction over the instants of a wait

`wait` goes from one instant at which a probe ends to the next, until no probe is under way or the
deadline has come. **`wait_induction`** packages its recursion: a property that every such step
keeps holds at the last instant, and the wait ends there in one of two ways.

## Contents
- `nextWake_le`, `nextWake_eq_none_iff`: what `nextWake` says of each task
- `wait_induction`, `length_tasks_wait`
- `Collector.waitFor_of_zero`, `waitFor_of_pos`, `run_of_ne_nil`, `collect_eq_ok`: the wait of a
  collection, and its report
-/

namespace NatDiscovery

theorem nextWake_le {tasks : List ProbeTask} {next : Nat} (h : nextWake tasks = some next)
    {t : ProbeTask} (ht : t ∈ tasks) {ends : Nat} (hw : t.wakes? = some ends) : next ≤ ends := by
  obtain ⟨_, hmin⟩ := List.min?_eq_some_iff.mp h
  exact hmin ends (List.mem_filterMap.mpr ⟨t, ht, hw⟩)

theorem nextWake_eq_none_iff {tasks : List ProbeTask} :
    nextWake tasks = none ↔ ∀ t ∈ tasks, t.wakes? = none := by
  rw [nextWake, List.min?_eq_none_iff, List.filterMap_eq_nil_iff]

/-- The wait stops at the last instant that it reaches. -/
theorem wait_of_stopped {prober : Prober} {grace now : Nat} {tasks : List ProbeTask} {tally : Tally}
    (h : nextWake tasks = none) : wait prober grace now tasks tally = ⟨now, tasks, tally⟩ := by
  rw [wait]
  split
  · rfl
  · rename_i next hnext
    rw [h] at hnext
    injection hnext

/-- The wait stops at its deadline, if no probe ends before that. -/
theorem wait_of_due {prober : Prober} {grace now next : Nat} {tasks : List ProbeTask}
    {tally : Tally} (h : nextWake tasks = some next) (hdue : tally.deadline.due ≤ next) :
    wait prober grace now tasks tally = ⟨tally.deadline.due, tasks, tally⟩ := by
  rw [wait]
  split
  · rename_i hnone
    rw [h] at hnone
    injection hnone
  · rename_i next' hnext
    rw [h] at hnext
    injection hnext with hnext
    subst hnext
    rw [if_pos hdue]

/-- The wait goes on to the end of the next probe. -/
theorem wait_of_next {prober : Prober} {grace now next : Nat} {tasks : List ProbeTask}
    {tally : Tally} (h : nextWake tasks = some next) (hdue : next < tally.deadline.due) :
    wait prober grace now tasks tally =
      wait prober grace next (pollAll prober next tasks)
        (tally.receiveAll grace next (sentAll prober next tasks)) := by
  rw [wait]
  split
  · rename_i hnone
    rw [h] at hnone
    injection hnone
  · rename_i next' hnext
    rw [h] at hnext
    injection hnext with hnext
    subst hnext
    rw [if_neg (Nat.not_le.mpr hdue)]

/-- **Induction over a wait.** What holds at its first instant and is kept from the end of one probe
    to the end of the next holds at its last instant. There no probe is under way, or the next one
    to end does so no earlier than the deadline. -/
theorem wait_induction {prober : Prober} {grace : Nat} (Inv : Nat → List ProbeTask → Tally → Prop)
    (keep : ∀ now tasks tally next, Inv now tasks tally → nextWake tasks = some next →
      next < tally.deadline.due →
      Inv next (pollAll prober next tasks)
        (tally.receiveAll grace next (sentAll prober next tasks)))
    {now : Nat} {tasks : List ProbeTask} {tally : Tally} (start : Inv now tasks tally) :
    ∃ last tasks' tally', Inv last tasks' tally' ∧
      ((nextWake tasks' = none ∧
          wait prober grace now tasks tally = ⟨last, tasks', tally'⟩) ∨
        ∃ next, nextWake tasks' = some next ∧ tally'.deadline.due ≤ next ∧
          wait prober grace now tasks tally = ⟨tally'.deadline.due, tasks', tally'⟩) := by
  induction hweight : totalWeight tasks using Nat.strongRecOn generalizing now tasks tally with
  | _ weight ih =>
      cases hnext : nextWake tasks with
      | none => exact ⟨now, tasks, tally, start, Or.inl ⟨hnext, wait_of_stopped hnext⟩⟩
      | some next =>
          by_cases hdue : tally.deadline.due ≤ next
          · exact ⟨now, tasks, tally, start, Or.inr ⟨next, hnext, hdue, wait_of_due hnext hdue⟩⟩
          · have hlt : next < tally.deadline.due := Nat.not_le.mp hdue
            rw [wait_of_next hnext hlt]
            have hdec := totalWeight_pollAll_lt prober hnext
            rw [hweight] at hdec
            exact ih _ hdec (keep now tasks tally next start hnext hlt) rfl

/-- No task comes or goes during a wait. -/
theorem length_tasks_wait (prober : Prober) (grace now : Nat) (tasks : List ProbeTask)
    (tally : Tally) : (wait prober grace now tasks tally).tasks.length = tasks.length := by
  obtain ⟨last, tasks', tally', hlen, hend⟩ := @wait_induction prober grace
    (fun _ ts _ => ts.length = tasks.length) (fun _ _ _ _ h _ _ => (List.length_map _).trans h)
    now tasks tally rfl
  rcases hend with ⟨_, hwait⟩ | ⟨_, _, _, hwait⟩
  · rw [hwait]
    exact hlen
  · rw [hwait]
    exact hlen

namespace Collector

variable {c : Collector} {locals : List IpAddr}

/-! ## The wait of a collection -/

/-- Without any time to wait, no task gets to run. -/
theorem waitFor_of_zero (h : c.initial = 0) :
    c.waitFor locals = ⟨0, locals.map (ProbeTask.start c.ports), .start c.initial⟩ := by
  simp [waitFor, h]

/-- Else the tasks are polled at time 0, and the wait goes on from there. -/
theorem waitFor_of_pos (h : 0 < c.initial) :
    let tasks := locals.map (ProbeTask.start c.ports)
    c.waitFor locals =
      wait c.prober c.grace 0 (pollAll c.prober 0 tasks)
        ((Tally.start c.initial).receiveAll c.grace 0 (sentAll c.prober 0 tasks)) := by
  simp only [waitFor, Tally.due_start, if_neg (Nat.not_le.mpr h)]

/-- Where there is any address, the report is that of the wait. -/
theorem run_of_ne_nil (h : distinct locals ≠ []) :
    c.run locals = reportOf (distinct locals) (c.waitFor (distinct locals)) := by
  simp [run, h]

end Collector

/-- A collection that returns gives the report of its run. -/
theorem collect_eq_ok {prober : Prober} {ports : List Port} {timeouts : Timeouts}
    {locals : List IpAddr} {clock : Clock} {report : Report}
    (h : collect prober ports timeouts locals clock = .ok report) :
    report = (⟨prober, ports, timeouts.initial.millis, timeouts.grace.millis⟩ : Collector).run
      locals := by
  simp only [collect] at h
  split at h
  · injection h with h
    exact h.symm
  · injection h

end NatDiscovery
