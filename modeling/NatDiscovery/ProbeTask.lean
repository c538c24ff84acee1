import NatDiscovery.Mapping
import NatDiscovery.NetworkError

/-!
# `NatDiscovery.ProbeTask` — finding the external address of one local address

A task probes from the candidate ports in order. Only a port that is taken sends it on to the next;
any other answer ends it, and at most one mapping comes out of it. A task is advanced from outside:
`poll` takes it as far as it gets at an instant, and `cancel` is what a shutdown does to it. It keeps
a log of the probes it has started.

How probes behave is given by a `Prober`. A probe that never answers is one whose delay exceeds
every deadline of the run.

## Contents
- `Answer`, `Step`, `Prober`: what probes do
- `ProbeTask`, `poll`, `cancel`: a task and how it is advanced
- `weight`, `weight_poll_lt`: a poll at the end of a probe brings the task closer to its end
- `ProbeTask.run`: a task run by itself, with or without a shutdown
-/

namespace NatDiscovery

/-! ## What probes do -/

/-- How a probe ends. -/
inductive Answer where
  /-- A server sees the local address as this one. -/
  | found (external : IpAddr)
  /-- The probe failed. -/
  | failed (cause : NetworkError)
  /-- The probe broke down and takes its task with it. -/
  | crashed
  deriving DecidableEq, Repr

/-- How long a probe takes, in milliseconds, and how it ends. -/
structure Step where
  delay : Nat
  answer : Answer
  deriving DecidableEq, Repr

/-- The step of each probe: from which endpoint it starts, and how many probes of the same local
address came before it. -/
abbrev Prober := Endpoint → Nat → Step

/-- How a task ends. -/
inductive Outcome where
  | resolved
  /-- Every candidate port was taken. -/
  | exhausted
  | failed
  | cancelled
  | crashed
  deriving DecidableEq, Repr

/-- The outcome of a task whose last probe ends so; none when the next port is tried. -/
def Answer.outcome? : Answer → Option Outcome
  | .found _ => some .resolved
  | .failed cause => if cause.isAddressInUse then none else some .failed
  | .crashed => some .crashed

/-- The mapping of a local address that an answer establishes. -/
def Answer.mapping? (a : Answer) (address : IpAddr) : Option Mapping :=
  match a with
  | .found external => some ⟨external, address⟩
  | _ => none

theorem Answer.outcome?_eq_resolved_iff {a : Answer} :
    a.outcome? = some .resolved ↔ ∃ external, a = .found external := by
  cases a with
  | found e => simp [outcome?]
  | failed e => by_cases h : e.isAddressInUse <;> simp [outcome?, h]
  | crashed => simp [outcome?]

/-- An answer that leads to the next port establishes nothing. -/
theorem Answer.mapping?_eq_none {a : Answer} (address : IpAddr) (h : a.outcome? = none) :
    a.mapping? address = none := by
  cases a with
  | found e => simp [outcome?] at h
  | failed e => rfl
  | crashed => rfl

/-! ## The task -/

/-- Where a task stands. -/
inductive ProbeTask.Phase where
  /-- Between two ports. -/
  | idle
  /-- A probe is under way, and how it will end. -/
  | probing (ends : Nat) (answer : Answer)
  /-- The task is over. -/
  | ended (outcome : Outcome)
  deriving DecidableEq, Repr

/-- The task of one local address. -/
structure ProbeTask where
  address : IpAddr
  /-- The ports not tried yet. -/
  untried : List Port
  phase : ProbeTask.Phase
  /-- The probes started: when, and from where. -/
  probes : List (Nat × Endpoint)
  /-- The number of probes that have ended. -/
  finished : Nat
  deriving DecidableEq, Repr

namespace ProbeTask

/-- A task that has not done anything yet. -/
def start (ports : List Port) (address : IpAddr) : ProbeTask :=
  ⟨address, ports, .idle, [], 0⟩

/-- Goes through the ports at an instant, up to the first probe that takes time or ends the task. -/
def tryPorts (prober : Prober) (now : Nat) (address : IpAddr) :
    List Port → List (Nat × Endpoint) → Nat → ProbeTask × Option Mapping
  | [], probes, finished => (⟨address, [], .ended .exhausted, probes, finished⟩, none)
  | port :: ports, probes, finished =>
    let endpoint := Endpoint.of address port
    let step := prober endpoint probes.length
    let probes := probes ++ [(now, endpoint)]
    if 0 < step.delay then
      (⟨address, ports, .probing (now + step.delay) step.answer, probes, finished⟩, none)
    else
      match step.answer.outcome? with
      | some outcome =>
        (⟨address, ports, .ended outcome, probes, finished + 1⟩, step.answer.mapping? address)
      | none => tryPorts prober now address ports probes (finished + 1)

/-- The task as far as it gets at an instant, with the mapping that it sends. -/
def poll (prober : Prober) (now : Nat) (t : ProbeTask) : ProbeTask × Option Mapping :=
  match t.phase with
  | .idle => tryPorts prober now t.address t.untried t.probes t.finished
  | .probing ends answer =>
    if now < ends then (t, none)
    else
      match answer.outcome? with
      | some outcome =>
        ({ t with phase := .ended outcome, finished := t.finished + 1 }, answer.mapping? t.address)
      | none => tryPorts prober now t.address t.untried t.probes (t.finished + 1)
  | .ended _ => (t, none)

/-- The task after a shutdown. A probe under way is dropped; a task without ports is exhausted all
the same. -/
def cancel (t : ProbeTask) : ProbeTask :=
  match t.phase with
  | .idle => { t with phase := .ended (if t.untried.isEmpty then .exhausted else .cancelled) }
  | .probing _ _ => { t with phase := .ended .cancelled, finished := t.finished + 1 }
  | .ended _ => t

/-- After a shutdown the task is over. -/
theorem exists_outcome_cancel (t : ProbeTask) : ∃ outcome, t.cancel.phase = .ended outcome := by
  unfold cancel
  split
  · exact ⟨_, rfl⟩
  · exact ⟨_, rfl⟩
  · rename_i outcome h
    exact ⟨outcome, h⟩

/-- The instant at which the probe under way ends. -/
def wakes? (t : ProbeTask) : Option Nat :=
  match t.phase with
  | .probing ends _ => some ends
  | _ => none

/-! ## Progress -/

/-- A bound on the probes that may still end. -/
def weight (t : ProbeTask) : Nat :=
  match t.phase with
  | .ended _ => 0
  | _ => t.untried.length + 1

theorem weight_tryPorts_le (prober : Prober) (now : Nat) (address : IpAddr) (ports : List Port)
    (probes : List (Nat × Endpoint)) (finished : Nat) :
    (tryPorts prober now address ports probes finished).1.weight ≤ ports.length := by
  induction ports generalizing probes finished with
  | nil => simp [tryPorts, weight]
  | cons port ports ih =>
    simp only [tryPorts]
    split
    · simp [weight]
    · split
      · simp [weight]
      · exact Nat.le_trans (ih _ _) (by simp)

/-- A poll never takes a task further from its end. -/
theorem weight_poll_le (prober : Prober) (now : Nat) (t : ProbeTask) :
    (t.poll prober now).1.weight ≤ t.weight := by
  unfold poll
  split
  · rename_i h
    refine Nat.le_trans (weight_tryPorts_le ..) ?_
    simp [weight, h]
  · rename_i ends answer h
    split
    · exact Nat.le_refl _
    · split
      · simp [weight]
      · refine Nat.le_trans (weight_tryPorts_le ..) ?_
        simp [weight, h]
  · exact Nat.le_refl _

/-- A poll at the end of the probe under way brings the task closer to its end. -/
theorem weight_poll_lt (prober : Prober) {now : Nat} {t : ProbeTask} (h : t.wakes? = some now) :
    (t.poll prober now).1.weight < t.weight := by
  unfold wakes? at h
  split at h
  · rename_i ends answer hp
    obtain rfl := Option.some.inj h
    simp only [poll, hp, Nat.lt_irrefl, if_false]
    split
    · simp [weight, hp]
    · refine Nat.lt_of_le_of_lt (weight_tryPorts_le ..) ?_
      simp [weight, hp]
  · simp at h

/-! ## A task by itself -/

/-- The end of a task that ran by itself. -/
structure Run where
  /-- When it ended. -/
  elapsed : Nat
  task : ProbeTask
  /-- The mapping that reached the receiver. -/
  sent : Option Mapping

/-- Takes a task that has just been polled to its end: from the end of one probe to the end of the
next, unless a shutdown comes first. -/
def drive (prober : Prober) (shutdown : Option Nat) (now : Nat)
    (polled : ProbeTask × Option Mapping) : Run :=
  match h : polled.1.wakes? with
  | none => ⟨now, polled.1, polled.2⟩
  | some next =>
    have := weight_poll_lt prober h
    match shutdown with
    | none => drive prober none next (polled.1.poll prober next)
    | some stop =>
      if stop ≤ next then ⟨stop, polled.1.cancel, none⟩
      else drive prober (some stop) next (polled.1.poll prober next)
termination_by polled.1.weight

/-- Runs a task by itself from time 0. A shutdown at time 0 comes before the task starts. A mapping
is lost when the receiver has closed. -/
def run (prober : Prober) (shutdown : Option Nat) (listening : Bool) (ports : List Port)
    (address : IpAddr) : Run :=
  let task := start ports address
  if shutdown = some 0 then ⟨0, task.cancel, none⟩
  else
    let r := drive prober shutdown 0 (task.poll prober 0)
    { r with sent := r.sent.filter fun _ => listening }

end ProbeTask

end NatDiscovery
