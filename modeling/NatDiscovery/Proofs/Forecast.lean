import Mathlib.Data.List.Forall2
import NatDiscovery.Proofs.Arrivals
import NatDiscovery.Proofs.Ending
import NatDiscovery.Proofs.Wait

/-!
# `Proofs.Forecast` — a collection computed without running it

A collection is a race of many tasks against a deadline that moves once. Its outcome is nonetheless
**a function of the endings of the single tasks**: the first mapping fixes the cutoff, the mappings
that come before the cutoff are received in the order of time, and the report follows from these.

Tasks that end at one instant count in the order of their addresses, and a task that ends exactly at
the cutoff is too late. Probes end on whole milliseconds and waits need not, so which of the two
comes first does not depend on the rounding of the timer; only the end of a collection that waits for
its deadline does (`cutoff_eq_wholeMillis`, `not_forall_elapsed_exact`).

## Contents
- `Collector.ending`, `arrivalsAt`, `arrivalsBefore`: who delivers what, and when
- `firstArrival?`, `cutoff`, `exactCutoff`, `lastEnd`: the instants that matter
- `TieFree`, `ClearOfDeadlines`: nothing happens at once that could go either way
- `OnCourse`, `onCourse_step`, `waitFor_forecast`: the invariant of the wait, and its outcome
- `mappings_run`, `counters_run`, `clockSuffices`: the report, and when there is one
- `collect_eq_forecast`, `not_forall_elapsed_exact`: all of it
-/

namespace NatDiscovery

namespace Collector

/-- How the task of a local address ends when nothing stops it. -/
def ending (c : Collector) (ip : IpAddr) : Ending :=
  ProbeTask.endingFrom c.prober ip c.ports 0 0

/-- The mappings delivered at an instant, in the order of the local addresses. -/
def arrivalsAt (c : Collector) (locals : List IpAddr) (t : Nat) : List Mapping :=
  locals.filterMap fun ip => if (c.ending ip).time = t then (c.ending ip).mapping else none

/-- The mappings delivered before an instant, in the order of time. -/
def arrivalsBefore (c : Collector) (locals : List IpAddr) (t : Nat) : List Mapping :=
  (List.range t).flatMap (c.arrivalsAt locals)

/-- The instant of the first mapping. -/
def firstArrival? (c : Collector) (locals : List IpAddr) : Option Nat :=
  (locals.filterMap fun ip => (c.ending ip).mapping.map fun _ => (c.ending ip).time).min?

/-- The instant from which on nothing is received: a first mapping in time leaves the others the
    grace period, and without one the initial wait runs out. -/
def cutoff (c : Collector) (locals : List IpAddr) : Nat :=
  match c.firstArrival? locals with
  | some first => if first < c.initial then first + c.grace else c.initial
  | none => c.initial

/-- The same instant in nanoseconds, before the timer that waits for it rounds it up. -/
def exactCutoff (c : Collector) (timeouts : Timeouts) (locals : List IpAddr) : Nat :=
  match c.firstArrival? locals with
  | some first =>
    if first * 1000000 < timeouts.initial.totalNanos then
      first * 1000000 + timeouts.grace.totalNanos
    else timeouts.initial.totalNanos
  | none => timeouts.initial.totalNanos

/-- The instant at which the last task ends. -/
def lastEnd (c : Collector) (locals : List IpAddr) : Nat :=
  (locals.map fun ip => (c.ending ip).time).max?.getD 0

/-- No two tasks deliver one external address at the same instant, in time or not. -/
def TieFree (c : Collector) (locals : List IpAddr) : Prop :=
  ∀ a ∈ locals, ∀ b ∈ locals, a ≠ b → (c.ending a).time = (c.ending b).time →
    ∀ m ∈ (c.ending a).mapping, ∀ k ∈ (c.ending b).mapping, m.external ≠ k.external

/-- No task ends when the timer of a deadline fires, be it the end of the initial wait or the cutoff;
    so none ends exactly at one of them. -/
def ClearOfDeadlines (c : Collector) (locals : List IpAddr) : Prop :=
  ∀ ip ∈ locals, (c.ending ip).time ≠ c.initial ∧ (c.ending ip).time ≠ c.cutoff locals

variable {c : Collector} {locals : List IpAddr}

/-! ## Arrivals -/

theorem mem_arrivalsAt {t : Nat} {m : Mapping} :
    m ∈ c.arrivalsAt locals t ↔
      ∃ ip ∈ locals, (c.ending ip).time = t ∧ (c.ending ip).mapping = some m := by
  unfold arrivalsAt
  rw [List.mem_filterMap]
  constructor
  · rintro ⟨ip, hip, h⟩
    split at h
    · rename_i ht
      exact ⟨ip, hip, ht, h⟩
    · simp at h
  · rintro ⟨ip, hip, ht, h⟩
    exact ⟨ip, hip, by rw [if_pos ht, h]⟩

/-- Exactly the mappings of the tasks that end before the instant. -/
theorem mem_arrivalsBefore {t : Nat} {m : Mapping} :
    m ∈ c.arrivalsBefore locals t ↔
      ∃ ip ∈ locals, (c.ending ip).time < t ∧ (c.ending ip).mapping = some m := by
  unfold arrivalsBefore
  rw [List.mem_flatMap]
  constructor
  · rintro ⟨s, hs, hm⟩
    obtain ⟨ip, hip, ht, h⟩ := mem_arrivalsAt.mp hm
    exact ⟨ip, hip, ht ▸ List.mem_range.mp hs, h⟩
  · rintro ⟨ip, hip, ht, h⟩
    exact ⟨_, List.mem_range.mpr ht, mem_arrivalsAt.mpr ⟨ip, hip, rfl, h⟩⟩

/-- Without addresses nothing arrives. -/
theorem arrivalsBefore_nil (t : Nat) : c.arrivalsBefore [] t = [] := by
  apply List.eq_nil_iff_forall_not_mem.mpr
  intro m hm
  obtain ⟨ip, hip, _⟩ := mem_arrivalsBefore.mp hm
  exact absurd hip List.not_mem_nil

theorem arrivalsBefore_succ (t : Nat) :
    c.arrivalsBefore locals (t + 1) = c.arrivalsBefore locals t ++ c.arrivalsAt locals t := by
  simp [arrivalsBefore, List.range_succ]

/-- Instants without arrivals may be skipped. -/
theorem arrivalsBefore_of_quiet {a b : Nat} (hab : a ≤ b)
    (hquiet : ∀ t, a ≤ t → t < b → c.arrivalsAt locals t = []) :
    c.arrivalsBefore locals b = c.arrivalsBefore locals a := by
  induction b with
  | zero =>
      have : a = 0 := by omega
      rw [this]
  | succ b ih =>
      by_cases heq : a = b + 1
      · rw [heq]
      · have hle : a ≤ b := by omega
        rw [arrivalsBefore_succ, hquiet b hle (Nat.lt_succ_self b), List.append_nil]
        exact ih hle fun t ha hb => hquiet t ha (by omega)

theorem firstArrival?_eq_some_iff {first : Nat} :
    c.firstArrival? locals = some first ↔
      c.arrivalsAt locals first ≠ [] ∧ c.arrivalsBefore locals first = [] := by
  unfold firstArrival?
  rw [List.min?_eq_some_iff]
  constructor
  · rintro ⟨hmem, hmin⟩
    obtain ⟨ip, hip, hmap⟩ := List.mem_filterMap.mp hmem
    obtain ⟨m, hm, htime⟩ := Option.map_eq_some_iff.mp hmap
    refine ⟨List.ne_nil_of_mem (mem_arrivalsAt.mpr ⟨ip, hip, htime, hm⟩), ?_⟩
    apply List.eq_nil_iff_forall_not_mem.mpr
    intro k hk
    obtain ⟨ip', hip', ht', hk'⟩ := mem_arrivalsBefore.mp hk
    have hle := hmin _ (List.mem_filterMap.mpr ⟨ip', hip', by rw [hk', Option.map_some]⟩)
    omega
  · rintro ⟨hat, hbefore⟩
    obtain ⟨m, hm⟩ := List.exists_mem_of_ne_nil _ hat
    obtain ⟨ip, hip, ht, hmap⟩ := mem_arrivalsAt.mp hm
    refine ⟨List.mem_filterMap.mpr ⟨ip, hip, by rw [hmap, Option.map_some, ht]⟩, ?_⟩
    intro s hs
    obtain ⟨ip', hip', hmap'⟩ := List.mem_filterMap.mp hs
    obtain ⟨k, hk, htime⟩ := Option.map_eq_some_iff.mp hmap'
    apply Nat.not_lt.mp
    intro hlt
    have hmem := mem_arrivalsBefore.mpr ⟨ip', hip', htime ▸ hlt, hk⟩
    rw [hbefore] at hmem
    exact absurd hmem List.not_mem_nil

/-- A first mapping within the initial wait starts the grace period. -/
theorem cutoff_of_first {first : Nat} (hbefore : c.arrivalsBefore locals first = [])
    (hat : c.arrivalsAt locals first ≠ []) (hlt : first < c.initial) :
    c.cutoff locals = first + c.grace := by
  simp only [cutoff, firstArrival?_eq_some_iff.mpr ⟨hat, hbefore⟩, if_pos hlt]

/-- Without a mapping within the initial wait, this is the cutoff. -/
theorem cutoff_of_none (h : c.arrivalsBefore locals c.initial = []) :
    c.cutoff locals = c.initial := by
  unfold cutoff
  split
  · rename_i first hfirst
    obtain ⟨hat, _⟩ := firstArrival?_eq_some_iff.mp hfirst
    rw [if_neg]
    intro hlt
    obtain ⟨m, hm⟩ := List.exists_mem_of_ne_nil _ hat
    obtain ⟨ip, hip, ht, hmap⟩ := mem_arrivalsAt.mp hm
    have hmem := mem_arrivalsBefore.mpr ⟨ip, hip, ht ▸ hlt, hmap⟩
    rw [h] at hmem
    exact absurd hmem List.not_mem_nil
  · rfl

/-- The cutoff is the exact one, rounded up once. -/
theorem cutoff_eq_wholeMillis {timeouts : Timeouts} (hinitial : c.initial = timeouts.initial.millis)
    (hgrace : c.grace = timeouts.grace.millis) :
    c.cutoff locals = wholeMillis (c.exactCutoff timeouts locals) := by
  unfold cutoff exactCutoff
  cases c.firstArrival? locals with
  | none => exact hinitial
  | some first =>
      simp only [hinitial, hgrace, Duration.millis, lt_wholeMillis_iff]
      split
      · exact (wholeMillis_add first _).symm
      · rfl

/-! ## Endings -/

theorem le_lastEnd {ip : IpAddr} (h : ip ∈ locals) : (c.ending ip).time ≤ c.lastEnd locals := by
  unfold lastEnd
  have hmem : (c.ending ip).time ∈ locals.map fun ip => (c.ending ip).time :=
    List.mem_map_of_mem h
  cases hmax : (locals.map fun ip => (c.ending ip).time).max? with
  | none => simp [List.max?_eq_none_iff.mp hmax] at hmem
  | some b => exact (List.max?_eq_some_iff.mp hmax).2 _ hmem

theorem lastEnd_le {b : Nat} (h : ∀ ip ∈ locals, (c.ending ip).time ≤ b) :
    c.lastEnd locals ≤ b := by
  unfold lastEnd
  cases hmax : (locals.map fun ip => (c.ending ip).time).max? with
  | none => exact Nat.zero_le b
  | some e =>
      obtain ⟨ip, hip, he⟩ := List.mem_map.mp (List.max?_eq_some_iff.mp hmax).1
      exact he ▸ h ip hip

/-- After the last ending nothing arrives. -/
theorem arrivalsAt_of_lastEnd_lt {t : Nat} (h : c.lastEnd locals < t) :
    c.arrivalsAt locals t = [] := by
  apply List.eq_nil_iff_forall_not_mem.mpr
  intro m hm
  obtain ⟨ip, hip, htime, _⟩ := mem_arrivalsAt.mp hm
  have hle := le_lastEnd (c := c) hip
  omega

/-! ## The tasks on their way

`Following` says of the tasks of a wait that each tracks the ending of its address. One step of the
wait keeps it, delivers exactly the arrivals of that instant, and skips no arrival. -/

/-- The tasks of these addresses, each on its way to its ending. -/
def Following (c : Collector) (locals : List IpAddr) (now : Nat) (tasks : List ProbeTask) : Prop :=
  List.Forall₂ (fun ip t => t.Tracks c.prober (c.ending ip) now) locals tasks

section Following

variable {now next : Nat} {tasks : List ProbeTask}

theorem following_start (c : Collector) (locals : List IpAddr) :
    let tasks := locals.map (ProbeTask.start c.ports)
    c.Following locals 0 (pollAll c.prober 0 tasks) ∧
      sentAll c.prober 0 tasks = c.arrivalsAt locals 0 := by
  induction locals with
  | nil => exact ⟨.nil, rfl⟩
  | cons ip locals ih =>
      obtain ⟨htracks, hsent⟩ := ProbeTask.tracks_poll_start c.prober c.ports ip
      refine ⟨.cons htracks ih.1, ?_⟩
      have htail := ih.2
      simp only [sentAll, arrivalsAt, List.map_cons, List.filterMap_cons] at htail ⊢
      rw [hsent, htail]
      rfl

theorem following_step (h : c.Following locals now tasks) (hnow : now < next)
    (hmin : ∀ t ∈ tasks, ∀ ends, t.wakes? = some ends → next ≤ ends) :
    c.Following locals next (pollAll c.prober next tasks) ∧
      sentAll c.prober next tasks = c.arrivalsAt locals next := by
  induction h with
  | nil => exact ⟨.nil, rfl⟩
  | @cons ip t locals tasks htracks hrest ih =>
      obtain ⟨htracks', hsent⟩ :=
        ProbeTask.tracks_poll htracks hnow (hmin t List.mem_cons_self)
      obtain ⟨hfollow, htail⟩ := ih fun u hu => hmin u (List.mem_cons_of_mem _ hu)
      refine ⟨.cons htracks' hfollow, ?_⟩
      simp only [sentAll, arrivalsAt, List.filterMap_cons] at htail ⊢
      rw [hsent, htail]

/-- An address whose task is still on its way, or whose ending has been. -/
theorem Following.exists_task (h : c.Following locals now tasks) {ip : IpAddr} (hip : ip ∈ locals) :
    ∃ t ∈ tasks, t.Tracks c.prober (c.ending ip) now := by
  induction h with
  | nil => exact absurd hip List.not_mem_nil
  | @cons ip' t locals tasks htracks hrest ih =>
      rcases List.mem_cons.mp hip with rfl | hip
      · exact ⟨t, List.mem_cons_self, htracks⟩
      · obtain ⟨u, hu, hu'⟩ := ih hip
        exact ⟨u, List.mem_cons_of_mem _ hu, hu'⟩

theorem Following.exists_address (h : c.Following locals now tasks) {t : ProbeTask}
    (ht : t ∈ tasks) : ∃ ip ∈ locals, t.Tracks c.prober (c.ending ip) now := by
  induction h with
  | nil => exact absurd ht List.not_mem_nil
  | @cons ip u locals tasks htracks hrest ih =>
      rcases List.mem_cons.mp ht with rfl | ht
      · exact ⟨ip, List.mem_cons_self, htracks⟩
      · obtain ⟨ip', hip', htracks'⟩ := ih ht
        exact ⟨ip', List.mem_cons_of_mem _ hip', htracks'⟩

/-- No task ends between now and the end of the next probe. -/
theorem Following.time_le_or_le (h : c.Following locals now tasks)
    (hmin : ∀ t ∈ tasks, ∀ ends, t.wakes? = some ends → next ≤ ends) {ip : IpAddr}
    (hip : ip ∈ locals) : (c.ending ip).time ≤ now ∨ next ≤ (c.ending ip).time := by
  obtain ⟨t, ht, htracks⟩ := h.exists_task hip
  cases hwakes : t.wakes? with
  | none => exact Or.inl (htracks.past_of_wakes_none hwakes)
  | some ends =>
      exact Or.inr (Nat.le_trans (hmin t ht ends hwakes) (htracks.wakes_bounds hwakes).2)

theorem Following.quiet (h : c.Following locals now tasks)
    (hmin : ∀ t ∈ tasks, ∀ ends, t.wakes? = some ends → next ≤ ends) :
    ∀ t, now + 1 ≤ t → t < next → c.arrivalsAt locals t = [] := by
  intro t hlow hhigh
  apply List.eq_nil_iff_forall_not_mem.mpr
  intro m hm
  obtain ⟨ip, hip, htime, _⟩ := mem_arrivalsAt.mp hm
  rcases h.time_le_or_le hmin hip with hle | hle <;> omega

/-- The next probe to end does so later, and its task ends no earlier than that. -/
theorem Following.nextWake_bounds (h : c.Following locals now tasks)
    (hnext : nextWake tasks = some next) : now < next ∧ next ≤ c.lastEnd locals := by
  obtain ⟨t, ht, hwakes⟩ := exists_wakes_of_nextWake hnext
  obtain ⟨ip, hip, htracks⟩ := h.exists_address ht
  obtain ⟨hlater, hle⟩ := htracks.wakes_bounds hwakes
  exact ⟨hlater, Nat.le_trans hle (le_lastEnd hip)⟩

/-- When no task wakes any more, every ending has been. -/
theorem Following.lastEnd_le_of_stopped (h : c.Following locals now tasks)
    (hstop : nextWake tasks = none) : c.lastEnd locals ≤ now := by
  apply lastEnd_le
  intro ip hip
  obtain ⟨t, ht, htracks⟩ := h.exists_task hip
  exact htracks.past_of_wakes_none (nextWake_eq_none_iff.mp hstop t ht)

end Following

/-! ## The invariant of the wait -/

/-- The deadline once the arrivals before an instant have been received. -/
def deadlineAfter (c : Collector) (locals : List IpAddr) (t : Nat) : Deadline :=
  if c.arrivalsBefore locals t = [] then .start 0 c.initial
  else ⟨.graceAfterFirst, c.cutoff locals⟩

/-- The tally holds exactly the arrivals before an instant, and the deadline is theirs. -/
structure Caught (c : Collector) (locals : List IpAddr) (t : Nat) (tally : Tally) : Prop where
  records : tally.Records (c.arrivalsBefore locals t)
  deadline : tally.deadline = c.deadlineAfter locals t

/-- Quiet instants change nothing. -/
theorem Caught.of_quiet {a b : Nat} {tally : Tally} (h : c.Caught locals a tally) (hab : a ≤ b)
    (hquiet : ∀ t, a ≤ t → t < b → c.arrivalsAt locals t = []) : c.Caught locals b tally := by
  have heq := arrivalsBefore_of_quiet hab hquiet
  constructor
  · rw [heq]
    exact h.records
  · rw [h.deadline, deadlineAfter, deadlineAfter, heq]

/-- **One instant of arrivals.** Received before the deadline, they are added to the tally, and the
    first of all sets the deadline to the cutoff. -/
theorem Caught.receiveAll (hgrace : 0 < c.grace) {now : Nat} {tally : Tally}
    (h : c.Caught locals now tally) (hdue : now < tally.deadline.due) :
    let tally' := tally.receiveAll c.grace now (c.arrivalsAt locals now)
    c.Caught locals (now + 1) tally' ∧ now < tally'.deadline.due := by
  have hrecords := Tally.records_receiveAll h.records c.grace now (c.arrivalsAt locals now)
  rw [← arrivalsBefore_succ] at hrecords
  by_cases hat : c.arrivalsAt locals now = []
  · -- Nothing arrives: the deadline stays.
    have hkeep : (tally.receiveAll c.grace now (c.arrivalsAt locals now)).deadline =
        tally.deadline := by
      rw [Tally.deadline_receiveAll, if_pos hat]
    refine ⟨⟨hrecords, ?_⟩, ?_⟩
    · rw [hkeep, h.deadline, deadlineAfter, deadlineAfter, arrivalsBefore_succ, hat,
        List.append_nil]
    · rw [hkeep]
      exact hdue
  · have hmove : (tally.receiveAll c.grace now (c.arrivalsAt locals now)).deadline =
        tally.deadline.onMapping now c.grace := by
      rw [Tally.deadline_receiveAll, if_neg hat]
    have hafter : c.deadlineAfter locals (now + 1) = ⟨.graceAfterFirst, c.cutoff locals⟩ := by
      rw [deadlineAfter, arrivalsBefore_succ, if_neg (by simp [hat])]
    by_cases hbefore : c.arrivalsBefore locals now = []
    · -- The first mappings of all: the grace period starts.
      have hstart : tally.deadline = .start 0 c.initial := by
        rw [h.deadline, deadlineAfter, if_pos hbefore]
      have hlt : now < c.initial := by
        rw [hstart] at hdue
        simpa [Deadline.start] using hdue
      have hcut := cutoff_of_first hbefore hat hlt
      have hdead : (tally.receiveAll c.grace now (c.arrivalsAt locals now)).deadline =
          ⟨.graceAfterFirst, now + c.grace⟩ := by
        rw [hmove, hstart]
        rfl
      refine ⟨⟨hrecords, ?_⟩, ?_⟩
      · rw [hdead, hafter, hcut]
      · rw [hdead]
        show now < now + c.grace
        omega
    · -- The deadline has moved before, and moves no more.
      have hgraced : tally.deadline = ⟨.graceAfterFirst, c.cutoff locals⟩ := by
        rw [h.deadline, deadlineAfter, if_neg hbefore]
      have hdead : (tally.receiveAll c.grace now (c.arrivalsAt locals now)).deadline =
          tally.deadline := by
        rw [hmove, hgraced]
        rfl
      refine ⟨⟨hrecords, ?_⟩, ?_⟩
      · rw [hdead, hgraced, hafter]
      · rw [hdead]
        exact hdue

/-- **A wait on course.** At an instant of the wait, each task is on its way, the tally holds the
    arrivals so far, the deadline lies ahead, and not every ending has been before. -/
structure OnCourse (c : Collector) (locals : List IpAddr) (now : Nat) (tasks : List ProbeTask)
    (tally : Tally) : Prop where
  following : c.Following locals now tasks
  caught : c.Caught locals (now + 1) tally
  early : now < tally.deadline.due
  reached : now ≤ c.lastEnd locals

/-- A wait with time to wait starts on course. -/
theorem onCourse_start (hgrace : 0 < c.grace) (hinitial : 0 < c.initial) :
    let tasks := locals.map (ProbeTask.start c.ports)
    c.OnCourse locals 0 (pollAll c.prober 0 tasks)
      ((Tally.start c.initial).receiveAll c.grace 0 (sentAll c.prober 0 tasks)) := by
  obtain ⟨hfollow, hsent⟩ := following_start c locals
  have hcaught : c.Caught locals 0 (.start c.initial) :=
    ⟨Tally.records_start _, rfl⟩
  obtain ⟨hcaught', hearly⟩ := hcaught.receiveAll hgrace (by simpa using hinitial)
  refine ⟨hfollow, ?_, ?_, Nat.zero_le _⟩
  · rw [hsent]
    exact hcaught'
  · rw [hsent]
    exact hearly

/-- A step of the wait keeps it on course. -/
theorem onCourse_step (hgrace : 0 < c.grace) {now next : Nat} {tasks : List ProbeTask}
    {tally : Tally} (h : c.OnCourse locals now tasks tally) (hnext : nextWake tasks = some next)
    (hdue : next < tally.deadline.due) :
    c.OnCourse locals next (pollAll c.prober next tasks)
      (tally.receiveAll c.grace next (sentAll c.prober next tasks)) := by
  obtain ⟨hlater, hreach⟩ := h.following.nextWake_bounds hnext
  have hmin : ∀ t ∈ tasks, ∀ ends, t.wakes? = some ends → next ≤ ends :=
    fun _ ht _ hwakes => nextWake_le hnext ht hwakes
  obtain ⟨hfollow, hsent⟩ := following_step h.following hlater hmin
  have hcaught := h.caught.of_quiet hlater (h.following.quiet hmin)
  obtain ⟨hcaught', hearly⟩ := hcaught.receiveAll hgrace hdue
  rw [hsent]
  exact ⟨hfollow, hcaught', hearly, hreach⟩

/-! ## The outcome -/

/-- When nothing more arrives before the deadline, the deadline is the cutoff. -/
theorem Caught.cutoff_eq {t : Nat} {tally : Tally} (h : c.Caught locals t tally)
    (hle : t ≤ tally.deadline.due)
    (hquiet : ∀ s, t ≤ s → s < tally.deadline.due → c.arrivalsAt locals s = []) :
    c.cutoff locals = tally.deadline.due ∧ c.Caught locals (c.cutoff locals) tally := by
  have hcut : c.cutoff locals = tally.deadline.due := by
    by_cases hnone : c.arrivalsBefore locals t = []
    · have hdue : tally.deadline.due = c.initial := by
        rw [h.deadline, deadlineAfter, if_pos hnone]
        exact Nat.zero_add c.initial
      rw [hdue]
      apply cutoff_of_none
      rw [← hdue, arrivalsBefore_of_quiet hle hquiet, hnone]
    · rw [h.deadline, deadlineAfter, if_neg hnone]
  refine ⟨hcut, ?_⟩
  rw [hcut]
  exact h.of_quiet hle hquiet

theorem length_waitFor_tasks (c : Collector) (locals : List IpAddr) :
    (c.waitFor locals).tasks.length = locals.length := by
  unfold waitFor
  simp only
  split
  · exact List.length_map _
  · rw [length_tasks_wait]
    exact (List.length_map _).trans (List.length_map _)

/-- **The outcome of the wait.** It is over at the cutoff or when the last task has ended, and has
    received exactly the mappings that come before the cutoff. -/
theorem waitFor_forecast (hgrace : 0 < c.grace) (locals : List IpAddr) :
    (c.waitFor locals).elapsed = min (c.cutoff locals) (c.lastEnd locals) ∧
      c.Caught locals (c.cutoff locals) (c.waitFor locals).tally := by
  rcases Nat.eq_zero_or_pos c.initial with hzero | hinitial
  · -- There is no time to wait.
    rw [waitFor_of_zero hzero]
    have hcaught : c.Caught locals 0 (.start c.initial) :=
      ⟨Tally.records_start _, rfl⟩
    have hdue : (Tally.start c.initial).deadline.due = 0 := by
      rw [Tally.due_start, hzero]
    obtain ⟨hcut, houtcome⟩ := hcaught.cutoff_eq (Nat.zero_le _) (by
      intro s _ hs
      rw [hdue] at hs
      exact absurd hs (Nat.not_lt_zero s))
    refine ⟨?_, houtcome⟩
    rw [hcut, hdue, Nat.zero_min]
  · rw [waitFor_of_pos hinitial]
    obtain ⟨last, tasks, tally, hcourse, hend⟩ := wait_induction (c.OnCourse locals)
      (fun _ _ _ _ h hnext hdue => onCourse_step hgrace h hnext hdue)
      (onCourse_start hgrace hinitial)
    rcases hend with ⟨hstop, hwait⟩ | ⟨next, hnext, hdue, hwait⟩
    · -- Every task is over, ahead of the deadline.
      have hlast : c.lastEnd locals = last :=
        Nat.le_antisymm (hcourse.following.lastEnd_le_of_stopped hstop) hcourse.reached
      obtain ⟨hcut, houtcome⟩ := hcourse.caught.cutoff_eq hcourse.early
        (fun s hs _ => arrivalsAt_of_lastEnd_lt (hlast ▸ hs))
      have hearly := hcourse.early
      rw [hwait]
      refine ⟨?_, houtcome⟩
      show last = min (c.cutoff locals) (c.lastEnd locals)
      omega
    · -- The deadline comes before the next probe ends.
      obtain ⟨_, hreach⟩ := hcourse.following.nextWake_bounds hnext
      have hquiet := hcourse.following.quiet fun _ ht _ hwakes => nextWake_le hnext ht hwakes
      obtain ⟨hcut, houtcome⟩ := hcourse.caught.cutoff_eq hcourse.early
        (fun s hs hlt => hquiet s hs (Nat.lt_of_lt_of_le hlt hdue))
      rw [hwait]
      refine ⟨?_, houtcome⟩
      show tally.deadline.due = min (c.cutoff locals) (c.lastEnd locals)
      omega

/-- The mappings of a collection are those delivered before the cutoff, and the identities that they
    leave room for. -/
theorem mappings_run (hgrace : 0 < c.grace) (locals : List IpAddr) :
    (c.run locals).mappings =
      reportedMappings (c.arrivalsBefore (distinct locals) (c.cutoff (distinct locals)))
        (distinct locals) := by
  by_cases hnone : distinct locals = []
  · simp [run, hnone, arrivalsBefore_nil, reportedMappings]
  · obtain ⟨_, hcaught⟩ := waitFor_forecast (c := c) hgrace (distinct locals)
    rw [run_of_ne_nil hnone]
    show mappingsOf (c.waitFor (distinct locals)).tally.table (distinct locals) = _
    rw [hcaught.records.table]
    exact mappingsOf_insertAll _ (nodup_distinct locals)

/-- The counters of a collection, its tasks and its end. -/
theorem counters_run (hgrace : 0 < c.grace) (locals : List IpAddr) :
    let ls := distinct locals
    let received := c.arrivalsBefore ls (c.cutoff ls)
    let r := c.run locals
    r.resolved = received.length ∧
      r.duplicates = received.length - (firstOwners received).length ∧
      r.launched = ls.length ∧ r.joined = ls.length ∧
      r.elapsed = min (c.cutoff ls) (c.lastEnd ls) := by
  simp only [run]
  by_cases hnone : distinct locals = []
  · simp [hnone, arrivalsBefore_nil, firstOwners, lastEnd]
  · have hsome : (distinct locals).isEmpty = false := by
      simpa using hnone
    obtain ⟨helapsed, hcaught⟩ := waitFor_forecast (c := c) hgrace (distinct locals)
    have hdup := hcaught.records.duplicates
    rw [hsome]
    simp only [Bool.false_eq_true, if_false, reportOf]
    refine ⟨hcaught.records.resolved, by omega, trivial, ?_, helapsed⟩
    rw [List.length_map, length_waitFor_tasks]

/-! ## The clock -/

/-- The clock can express the instants that a collection computes: the end of the initial wait, and
    that of the grace period if a first mapping comes in time. -/
def clockSuffices (c : Collector) (clock : Clock) (timeouts : Timeouts) (locals : List IpAddr) :
    Bool :=
  timeouts.initial.fitsClock clock 0 &&
    match c.firstArrival? locals with
    | some first => c.initial ≤ first || timeouts.grace.fitsClock clock first
    | none => true

theorem arrivalsBefore_eq_nil_of_le {a b : Nat} (hab : a ≤ b)
    (h : c.arrivalsBefore locals b = []) : c.arrivalsBefore locals a = [] := by
  apply List.eq_nil_iff_forall_not_mem.mpr
  intro m hm
  obtain ⟨ip, hip, htime, hmap⟩ := mem_arrivalsBefore.mp hm
  have hmem : m ∈ c.arrivalsBefore locals b :=
    mem_arrivalsBefore.mpr ⟨ip, hip, Nat.lt_of_lt_of_le htime hab, hmap⟩
  rw [h] at hmem
  exact absurd hmem List.not_mem_nil

theorem arrivalsBefore_of_firstArrival?_eq_none (h : c.firstArrival? locals = none) (t : Nat) :
    c.arrivalsBefore locals t = [] := by
  apply List.eq_nil_iff_forall_not_mem.mpr
  intro m hm
  obtain ⟨ip, hip, _, hmap⟩ := mem_arrivalsBefore.mp hm
  rw [firstArrival?, List.min?_eq_none_iff, List.filterMap_eq_nil_iff] at h
  have hnone := h ip hip
  rw [hmap] at hnone
  injection hnone

/-- The deadline in which a wait ends: moved by the first mapping if that came in time. -/
theorem deadlineAfter_cutoff (hgrace : 0 < c.grace) :
    c.deadlineAfter locals (c.cutoff locals) =
      match c.firstArrival? locals with
      | some first =>
        if first < c.initial then ⟨.graceAfterFirst, first + c.grace⟩ else .start 0 c.initial
      | none => .start 0 c.initial := by
  cases hfirst : c.firstArrival? locals with
  | none =>
      rw [deadlineAfter, if_pos (arrivalsBefore_of_firstArrival?_eq_none hfirst _)]
  | some first =>
      obtain ⟨hat, hbefore⟩ := firstArrival?_eq_some_iff.mp hfirst
      by_cases hlt : first < c.initial
      · have hcut := cutoff_of_first hbefore hat hlt
        have hsome : c.arrivalsBefore locals (c.cutoff locals) ≠ [] := by
          intro hnone
          have hsucc : first + 1 ≤ c.cutoff locals := by
            omega
          have hle := arrivalsBefore_eq_nil_of_le hsucc hnone
          rw [arrivalsBefore_succ] at hle
          exact hat (List.append_eq_nil_iff.mp hle).2
        rw [deadlineAfter, if_neg hsome, hcut]
        simp only [if_pos hlt]
      · have hnone := arrivalsBefore_eq_nil_of_le (Nat.not_lt.mp hlt) hbefore
        rw [cutoff_of_none hnone, deadlineAfter, if_pos hnone]
        simp only [if_neg hlt]

/-- Whether a collection stays within the clock is known from the endings of its tasks, too. -/
theorem fitsClock_eq_clockSuffices (clock : Clock) (timeouts : Timeouts)
    (hmillis : c.grace = timeouts.grace.millis) (hgrace : 0 < c.grace) (locals : List IpAddr) :
    c.fitsClock clock timeouts locals =
      ((distinct locals).isEmpty || c.clockSuffices clock timeouts (distinct locals)) := by
  obtain ⟨_, hcaught⟩ := waitFor_forecast (c := c) hgrace (distinct locals)
  have hdeadline := hcaught.deadline
  rw [deadlineAfter_cutoff hgrace] at hdeadline
  unfold fitsClock Wait.fitsClock clockSuffices
  rw [hdeadline, ← hmillis]
  cases c.firstArrival? (distinct locals) with
  | none => simp [Deadline.start]
  | some first =>
      by_cases hlt : first < c.initial
      · simp [hlt, Nat.not_le.mpr hlt]
      · simp [hlt, Nat.not_lt.mp hlt, Deadline.start]

/-- A collection returns its report wherever the clock can express the instants it computes, and
    fails elsewhere. -/
theorem collect_eq (clock : Clock) (prober : Prober) (ports : List Port) (timeouts : Timeouts)
    (hgrace : 0 < timeouts.grace.totalNanos) (locals : List IpAddr) :
    let c : Collector := ⟨prober, ports, timeouts.initial.millis, timeouts.grace.millis⟩
    collect prober ports timeouts locals clock =
      if distinct locals = [] ∨ c.clockSuffices clock timeouts (distinct locals) then
        .ok (c.run locals)
      else .error .outOfRange := by
  intro c
  have hpos : 0 < c.grace := Duration.millis_pos hgrace
  show (if c.fitsClock clock timeouts locals = true then _ else _) = _
  rw [fitsClock_eq_clockSuffices clock timeouts rfl hpos]
  simp only [Bool.or_eq_true, List.isEmpty_iff]
  rfl

/-- No clock can express the end of an initial wait of too many seconds. -/
theorem collect_of_limit_lt {timeouts : Timeouts} (h : Clock.limit < timeouts.initial.secs.toNat)
    (hsome : distinct locals ≠ []) (clock : Clock) (prober : Prober) (ports : List Port) :
    collect prober ports timeouts locals clock = .error .outOfRange := by
  refine if_neg ?_
  simp [fitsClock, Wait.fitsClock, hsome, Duration.fitsClock_of_limit_lt h]

/-! ## The report -/

/-- **A collection is a function of the endings of its tasks**, each of them run by itself. It
    receives what is delivered before the deadline, and takes until the deadline, rounded up by its
    timer, or until the last task has ended, whichever is sooner. -/
theorem collect_eq_forecast (clock : Clock) (prober : Prober) (ports : List Port)
    (timeouts : Timeouts) (hgrace : 0 < timeouts.grace.totalNanos) (locals : List IpAddr)
    (hclock : distinct locals = [] ∨
      (⟨prober, ports, timeouts.initial.millis, timeouts.grace.millis⟩ : Collector).clockSuffices
        clock timeouts (distinct locals)) :
    let c : Collector := ⟨prober, ports, timeouts.initial.millis, timeouts.grace.millis⟩
    let ls := distinct locals
    let deadline := c.exactCutoff timeouts ls
    let received := c.arrivalsBefore ls (wholeMillis deadline)
    (∀ ip, (ProbeTask.run prober none true ports ip).elapsed = (c.ending ip).time ∧
      (ProbeTask.run prober none true ports ip).sent = (c.ending ip).mapping) ∧
    (∀ m, m ∈ received ↔ ∃ ip ∈ ls,
      (c.ending ip).time * 1000000 < deadline ∧ (c.ending ip).mapping = some m) ∧
    ∃ r : Report,
      collect prober ports timeouts locals clock = .ok r ∧
        r.mappings = reportedMappings received ls ∧
        r.resolved = received.length ∧
        r.duplicates = received.length - (firstOwners received).length ∧
        r.launched = ls.length ∧ r.joined = ls.length ∧
        r.elapsed = min (wholeMillis deadline) (c.lastEnd ls) := by
  intro c ls deadline received
  have hpos : 0 < c.grace := Duration.millis_pos hgrace
  have hcutoff : c.cutoff ls = wholeMillis deadline := cutoff_eq_wholeMillis rfl rfl
  refine ⟨fun ip => ProbeTask.run_eq_endingFrom prober ports ip, ?_, c.run locals, ?_, ?_⟩
  · intro m
    simp only [received, mem_arrivalsBefore, lt_wholeMillis_iff]
  · exact (collect_eq clock prober ports timeouts hgrace locals).trans (if_pos hclock)
  · simp only [received, ← hcutoff]
    exact ⟨mappings_run hpos locals, counters_run hpos locals⟩

/-- Five addresses race. The first finds a port taken and is mapped from the next one; the second
    is seen under the same external address, later; the third is seen as the fourth, whose task
    breaks down; and the fifth is too late. -/
def race : Collector where
  prober := fun endpoint _ =>
    match endpoint with
    | .v4 ⟨10, 0, 0, 1⟩ 5000 => ⟨1, .failed .addressInUse⟩
    | .v4 ⟨10, 0, 0, 1⟩ _ => ⟨2, .found (.v4 ⟨203, 0, 113, 9⟩)⟩
    | .v4 ⟨10, 0, 0, 2⟩ _ => ⟨4, .found (.v4 ⟨203, 0, 113, 9⟩)⟩
    | .v4 ⟨10, 0, 0, 3⟩ _ => ⟨5, .found (.v4 ⟨10, 0, 0, 4⟩)⟩
    | .v4 ⟨10, 0, 0, 4⟩ _ => ⟨2, .crashed⟩
    | _ => ⟨9, .found (.v4 ⟨203, 0, 113, 7⟩)⟩
  ports := [5000, 5001]
  initial := 5
  grace := 3

/-- The addresses of the race, the first one twice. -/
def racers : List IpAddr :=
  [.v4 ⟨10, 0, 0, 1⟩, .v4 ⟨10, 0, 0, 2⟩, .v4 ⟨10, 0, 0, 1⟩, .v4 ⟨10, 0, 0, 3⟩, .v4 ⟨10, 0, 0, 4⟩,
    .v4 ⟨10, 0, 0, 5⟩]

/-- The time budget of the race. -/
def raceTimeouts : Timeouts :=
  { initial := .ofMillis 5, grace := .ofMillis 3 }

theorem collect_race_eq_forecast :
    0 < raceTimeouts.grace.totalNanos ∧
      race.clockSuffices .hourOld raceTimeouts (distinct racers) ∧
      ∃ r, collect race.prober race.ports raceTimeouts racers .hourOld = .ok r ∧
        r.mappings =
          [⟨.v4 ⟨203, 0, 113, 9⟩, .v4 ⟨10, 0, 0, 1⟩⟩, ⟨.v4 ⟨10, 0, 0, 4⟩, .v4 ⟨10, 0, 0, 3⟩⟩,
            ⟨.v4 ⟨10, 0, 0, 2⟩, .v4 ⟨10, 0, 0, 2⟩⟩, ⟨.v4 ⟨10, 0, 0, 5⟩, .v4 ⟨10, 0, 0, 5⟩⟩] ∧
        r.resolved = 3 ∧ r.duplicates = 1 ∧ r.launched = 5 ∧ r.joined = 5 ∧ r.elapsed = 6 := by
  have hgrace : 0 < raceTimeouts.grace.totalNanos := by decide
  have hclock : race.clockSuffices .hourOld raceTimeouts (distinct racers) := by decide
  obtain ⟨-, -, r, hcollect, hmappings, hresolved, hduplicates, hlaunched, hjoined, helapsed⟩ :=
    collect_eq_forecast .hourOld race.prober race.ports raceTimeouts hgrace racers (Or.inr hclock)
  refine ⟨hgrace, hclock, r, hcollect, ?_, ?_, ?_, ?_, ?_, ?_⟩
  · rw [hmappings]
    decide
  · rw [hresolved]
    decide
  · rw [hduplicates]
    decide
  · rw [hlaunched]
    decide
  · rw [hjoined]
    decide
  · rw [helapsed]
    decide

/-- A time budget of two nanoseconds. -/
def fleetingTimeouts : Timeouts where
  initial := ⟨0, 1, by decide⟩
  grace := ⟨0, 1, by decide⟩

/-- A collection within that budget, whose probes find an address, but not so soon. -/
def lateCollector : Collector where
  prober := fun _ _ => ⟨50, .found (.v4 ⟨203, 0, 113, 7⟩)⟩
  ports := [0]
  initial := fleetingTimeouts.initial.millis
  grace := fleetingTimeouts.grace.millis

/-- The only address to collect for. -/
def lateLocals : List IpAddr :=
  [.v4 ⟨10, 0, 0, 1⟩]

/-- Nothing happens there at once that could go either way. -/
theorem lateCollector_undisturbed :
    lateCollector.ClearOfDeadlines (distinct lateLocals) ∧
      lateCollector.TieFree (distinct lateLocals) := by
  unfold ClearOfDeadlines TieFree
  decide

/-- **The deadline is not met to the nanosecond**, whatever the clock: a collection that waits for a
    fraction of a millisecond takes the whole of it, even where no task ends at a deadline and no
    two tasks deliver one external address at once. -/
theorem not_forall_elapsed_exact :
    ¬∃ clock : Clock, ∀ (prober : Prober) (ports : List Port) (timeouts : Timeouts)
      (locals : List IpAddr), 0 < timeouts.initial.totalNanos → 0 < timeouts.grace.totalNanos →
      let c : Collector := ⟨prober, ports, timeouts.initial.millis, timeouts.grace.millis⟩
      let ls := distinct locals
      c.ClearOfDeadlines ls → c.TieFree ls →
      ∃ r, collect prober ports timeouts locals clock = .ok r ∧
        r.elapsed * 1000000 = min (c.exactCutoff timeouts ls) (c.lastEnd ls * 1000000) := by
  rintro ⟨clock, hall⟩
  obtain ⟨hclear, hfree⟩ := lateCollector_undisturbed
  obtain ⟨r, hcollect, helapsed⟩ := hall lateCollector.prober lateCollector.ports fleetingTimeouts
    lateLocals (by decide) (by decide) hclear hfree
  rw [collect_eq_ok hcollect] at helapsed
  exact absurd helapsed (by decide +kernel)

end Collector

end NatDiscovery
