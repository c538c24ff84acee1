import NatDiscovery.Deadline
import NatDiscovery.Distinct
import NatDiscovery.ProbeTask
import NatDiscovery.Timeouts

/-!
# `NatDiscovery.Collector` — all local addresses at once

One task per distinct local address reports to a single collector, which alone holds the mapping
table. The collector waits until every task is over or the deadline has passed, then shuts the
remaining tasks down and joins them all. Time is virtual: the run goes from one instant at which a
probe ends to the next.

At time 0 the collector looks at its deadline before any task has run, so an initial wait of 0 ends
the collection at once. A deadline that falls on an instant at which a probe ends comes first.

## Contents
- `Tally`, `Tally.start`, `Tally.receive`: what the collector knows, and what a mapping does to it
- `Wait`, `wait`: the wait of the collector, as tasks and tally advance together
- `Report`, `Collector.run`: a whole collection
- `collect`: the same with a clock that cannot express every instant
-/

namespace NatDiscovery

/-! ## The collector's side -/

/-- What the collector knows. -/
structure Tally where
  deadline : Deadline
  table : MappingTable := {}
  /-- Mappings received, duplicates included. -/
  resolved : Nat := 0
  /-- Mappings received for an external address that had an owner. -/
  duplicates : Nat := 0

namespace Tally

/-- The tally before anything has arrived. -/
def start (initial : Nat) : Tally :=
  { deadline := .start 0 initial }

@[simp] theorem due_start (initial : Nat) : (start initial).deadline.due = initial :=
  Nat.zero_add initial

/-- The tally after a mapping has arrived. -/
def receive (grace now : Nat) (t : Tally) (m : Mapping) : Tally where
  deadline := t.deadline.onMapping now grace
  table := t.table.insert m
  resolved := t.resolved + 1
  duplicates := if t.table.accepts m then t.duplicates else t.duplicates + 1

/-- The tally after mappings have arrived at the same instant, one after the other. -/
def receiveAll (grace now : Nat) (t : Tally) (ms : List Mapping) : Tally :=
  ms.foldl (receive grace now) t

end Tally

/-! ## The wait -/

/-- The tasks and the tally when the wait is over, and when that was. -/
structure Wait where
  elapsed : Nat
  tasks : List ProbeTask
  tally : Tally

/-- The next instant at which a probe ends. -/
def nextWake (tasks : List ProbeTask) : Option Nat :=
  (tasks.filterMap ProbeTask.wakes?).min?

theorem exists_wakes_of_nextWake {tasks : List ProbeTask} {next : Nat}
    (h : nextWake tasks = some next) : ∃ t ∈ tasks, t.wakes? = some next := by
  have hmem := List.min?_mem h
  simpa using hmem

/-- The tasks as far as they get at an instant. -/
def pollAll (prober : Prober) (now : Nat) (tasks : List ProbeTask) : List ProbeTask :=
  tasks.map fun t => (t.poll prober now).1

/-- The mappings that the tasks send at an instant, in the order of the tasks. -/
def sentAll (prober : Prober) (now : Nat) (tasks : List ProbeTask) : List Mapping :=
  tasks.filterMap fun t => (t.poll prober now).2

/-- A quantity added up over all tasks. -/
def totalOf (quantity : ProbeTask → Nat) (tasks : List ProbeTask) : Nat :=
  tasks.foldr (fun t n => quantity t + n) 0

/-- A bound on the probes that may still end. -/
def totalWeight (tasks : List ProbeTask) : Nat :=
  totalOf ProbeTask.weight tasks

theorem totalWeight_pollAll_le (prober : Prober) (now : Nat) (tasks : List ProbeTask) :
    totalWeight (pollAll prober now tasks) ≤ totalWeight tasks := by
  induction tasks with
  | nil => simp [pollAll, totalWeight]
  | cons t ts ih =>
    have := ProbeTask.weight_poll_le prober now t
    simp only [pollAll, totalWeight, totalOf, List.map_cons, List.foldr_cons] at ih ⊢
    omega

/-- Polling at the end of a probe brings the tasks closer to their end. -/
theorem totalWeight_pollAll_lt (prober : Prober) {next : Nat} {tasks : List ProbeTask}
    (h : nextWake tasks = some next) :
    totalWeight (pollAll prober next tasks) < totalWeight tasks := by
  obtain ⟨t, ht, hw⟩ := exists_wakes_of_nextWake h
  clear h
  induction tasks with
  | nil => simp at ht
  | cons u us ih =>
    simp only [pollAll, totalWeight, totalOf, List.map_cons, List.foldr_cons]
    rcases List.mem_cons.1 ht with rfl | ht
    -- The head wakes: it gets strictly lighter, the others no heavier.
    · have hlt := ProbeTask.weight_poll_lt prober hw
      have hle := totalWeight_pollAll_le prober next us
      simp only [pollAll, totalWeight, totalOf] at hle
      omega
    -- A later task wakes: the head gets no heavier.
    · have hle := ProbeTask.weight_poll_le prober next u
      have hlt := ih ht
      simp only [pollAll, totalWeight, totalOf] at hlt
      omega

/-- The wait from an instant at which the tasks have been polled and their mappings received. -/
def wait (prober : Prober) (grace now : Nat) (tasks : List ProbeTask) (tally : Tally) : Wait :=
  match h : nextWake tasks with
  -- Every task is over, so nothing can arrive any more.
  | none => ⟨now, tasks, tally⟩
  | some next =>
    have := totalWeight_pollAll_lt prober h
    -- A deadline at this very instant is seen before any task runs.
    if tally.deadline.due ≤ next then ⟨tally.deadline.due, tasks, tally⟩
    else
      wait prober grace next (pollAll prober next tasks)
        (tally.receiveAll grace next (sentAll prober next tasks))
termination_by totalWeight tasks

/-! ## A whole collection -/

/-- The result of a collection. -/
structure Report where
  /-- The mappings, or none at all when nothing was resolved. -/
  mappings : List Mapping := []
  /-- Tasks started, one for each distinct local address. -/
  launched : Nat := 0
  /-- Mappings received before the deadline, duplicates included. -/
  resolved : Nat := 0
  /-- Mappings received for an external address that had an owner. -/
  duplicates : Nat := 0
  /-- Tasks joined before returning. -/
  joined : Nat := 0
  /-- Milliseconds from start to return. -/
  elapsed : Nat := 0
  /-- The probes started, task by task: when, and from where. -/
  probes : List (Nat × Endpoint) := []
  /-- The number of probes that have ended. -/
  finished : Nat := 0
  deriving DecidableEq, Repr

/-- What a collection needs besides the local addresses: how probes behave, the candidate ports, and
the two waits in milliseconds. -/
structure Collector where
  prober : Prober
  ports : List Port
  initial : Nat
  grace : Nat

namespace Collector

/-- The mappings of a report: none without an entry, else the table once the local addresses without
a mapping have been mapped to themselves. -/
def mappingsOf (table : MappingTable) (locals : List IpAddr) : List Mapping :=
  if table.isEmpty then [] else (table.fillIdentity locals).mappings

/-- The tasks and the tally when the collector stops waiting. -/
def waitFor (c : Collector) (locals : List IpAddr) : Wait :=
  let tasks := locals.map (ProbeTask.start c.ports)
  let tally := Tally.start c.initial
  -- Without any time to wait, no task gets to run.
  if tally.deadline.due ≤ 0 then ⟨0, tasks, tally⟩
  else
    wait c.prober c.grace 0 (pollAll c.prober 0 tasks)
      (tally.receiveAll c.grace 0 (sentAll c.prober 0 tasks))

/-- The report of a wait, once the tasks that are left have been shut down and all are joined. -/
def reportOf (locals : List IpAddr) (w : Wait) : Report :=
  let joined := w.tasks.map ProbeTask.cancel
  { mappings := mappingsOf w.tally.table locals
    launched := locals.length
    resolved := w.tally.resolved
    duplicates := w.tally.duplicates
    joined := joined.length
    elapsed := w.elapsed
    probes := joined.flatMap ProbeTask.probes
    finished := totalOf ProbeTask.finished joined }

/-- Resolves all local addresses at once. Repeated ones count once, and without any there is nothing
to wait for. -/
def run (c : Collector) (locals : List IpAddr) : Report :=
  let locals := distinct locals
  if locals.isEmpty then {} else reportOf locals (c.waitFor locals)

end Collector

/-! ## The clock -/

/-- A collection needs an instant that the clock cannot express. -/
inductive ClockError where
  | outOfRange
  deriving DecidableEq, Repr

/-- The deadlines that a wait computed can be expressed: the initial one, and the one that the first
mapping moved it to. -/
def Wait.fitsClock (clock : Clock) (timeouts : Timeouts) (w : Wait) : Bool :=
  timeouts.initial.fitsClock clock 0
    && (w.tally.deadline.phase = .awaitingFirst
      || timeouts.grace.fitsClock clock (w.tally.deadline.due - timeouts.grace.millis))

/-- No instant that a collection needs is beyond the clock; without addresses it needs none. -/
def Collector.fitsClock (c : Collector) (clock : Clock) (timeouts : Timeouts)
    (locals : List IpAddr) : Bool :=
  (distinct locals).isEmpty || (c.waitFor (distinct locals)).fitsClock clock timeouts

/-- Resolves all local addresses at once within a time budget, by this clock. -/
def collect (prober : Prober) (ports : List Port) (timeouts : Timeouts) (locals : List IpAddr)
    (clock : Clock := .hourOld) : Except ClockError Report :=
  let c : Collector := ⟨prober, ports, timeouts.initial.millis, timeouts.grace.millis⟩
  if c.fitsClock clock timeouts locals then .ok (c.run locals) else .error .outOfRange

end NatDiscovery
