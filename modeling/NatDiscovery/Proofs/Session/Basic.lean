import Mathlib.Logic.Relation
import NatDiscovery.Collector

/-!
# `Proofs.Session.Basic` — a collection move by move

`Collector.run` computes a collection on a virtual clock. In the field the tasks, the collector and
the clock move independently: a probe may end at any moment or never, a mapping may wait in the
channel while the deadline passes, and a task may notice a shutdown late. A **session** is a state
of such a collection, and `Step` is one move of one party, in any order that the parties allow.

The channel is bounded by the number of tasks. A task whose channel is full has to wait; one whose
channel is closed loses its mapping.

## Contents
- `ProbeTask.startProbe`, `ProbeTask.settle`: the two moves of a task that a poll is made of
- `Worker`, `Worker.Move`: a task with the mapping that it is about to send
- `Session`, `Session.start`, `Session.Step`, `Session.Reachable`
- `Session.report`: what the collector returns
-/

namespace NatDiscovery

namespace ProbeTask

/-- The task once the probe from its next port has been started. -/
def startProbe (prober : Prober) (now : Nat) (t : ProbeTask) (port : Port) (ports : List Port) :
    ProbeTask :=
  let endpoint := Endpoint.of t.address port
  let step := prober endpoint t.probes.length
  { t with
    untried := ports
    phase := .probing (now + step.delay) step.answer
    probes := t.probes ++ [(now, endpoint)] }

/-- The task once its probe has ended with this answer. -/
def settle (t : ProbeTask) (answer : Answer) : ProbeTask :=
  { t with
    phase := match answer.outcome? with
      | some outcome => .ended outcome
      | none => .idle
    finished := t.finished + 1 }

/-- The task once it is over. -/
def endWith (t : ProbeTask) (outcome : Outcome) : ProbeTask :=
  { t with phase := .ended outcome }

/-- The task once its probe has been dropped. -/
def dropProbe (t : ProbeTask) : ProbeTask :=
  { t with phase := .ended .cancelled, finished := t.finished + 1 }

/-- The number of probes under way. -/
def underWay (t : ProbeTask) : Nat :=
  match t.phase with
  | .probing _ _ => 1
  | _ => 0

end ProbeTask

/-! ## Tasks and what they send -/

/-- A task at large. -/
structure Worker where
  task : ProbeTask
  /-- The mapping that the task is about to send. -/
  outbox : Option Mapping
  /-- The collector has taken note of the task's end. -/
  joined : Bool
  deriving DecidableEq, Repr

namespace Worker

/-- A task by itself, with nothing to send. -/
def quiet (t : ProbeTask) : Worker :=
  ⟨t, none, false⟩

/-- The task is over, and nothing is left to send. -/
def Over (w : Worker) : Prop :=
  w.outbox = none ∧ ∃ outcome, w.task.phase = .ended outcome

/-- The task has found an external address. -/
def isResolved (w : Worker) : Bool :=
  w.task.phase = .ended .resolved

/-- The moves of a task by itself, at an instant, with or without a shutdown.

    Looking for a shutdown and starting the next probe is one move. A probe under way may end
    although there has been a shutdown, since either may be noticed first. -/
inductive Move (prober : Prober) (now : Nat) (shutDown : Bool) (w : Worker) : Worker → Prop where
  /-- The probe from the next port is started. -/
  | probe {port : Port} {ports : List Port} (idle : w.task.phase = .idle)
      (next : w.task.untried = port :: ports) (running : shutDown = false) :
      Move prober now shutDown w { w with task := w.task.startProbe prober now port ports }
  /-- There is no port left. -/
  | exhaust (idle : w.task.phase = .idle) (none_left : w.task.untried = []) :
      Move prober now shutDown w { w with task := w.task.endWith .exhausted }
  /-- The shutdown is noticed between two ports. -/
  | cancel (idle : w.task.phase = .idle) (some_left : w.task.untried ≠ [])
      (stopped : shutDown = true) :
      Move prober now shutDown w { w with task := w.task.endWith .cancelled }
  /-- The probe under way ends. -/
  | answer {ends : Nat} {answer : Answer} (probing : w.task.phase = .probing ends answer) :
      Move prober now shutDown w
        { w with task := w.task.settle answer, outbox := answer.mapping? w.task.address }
  /-- The shutdown is noticed during a probe. -/
  | drop {ends : Nat} {answer : Answer} (probing : w.task.phase = .probing ends answer)
      (stopped : shutDown = true) :
      Move prober now shutDown w { w with task := w.task.dropProbe }

end Worker

/-! ## Sessions -/

/-- How far the collector is. -/
inductive Stage where
  /-- In its wait, or just past it. -/
  | waiting
  /-- The channel is closed. -/
  | closed
  /-- The shutdown has been triggered, and the tasks are being joined. -/
  | joining
  | returned
  deriving DecidableEq, Repr

/-- A collection under way. -/
structure Session where
  now : Nat
  stage : Stage
  workers : List Worker
  /-- The mappings sent and not received yet. -/
  channel : List Mapping
  tally : Tally
  /-- The mappings received, in their order. -/
  received : List Mapping
  /-- The mappings sent to the closed channel. -/
  lost : List Mapping
  /-- The rounds of the wait. -/
  rounds : Nat
  joined : Nat

namespace Session

/-- The collection of these addresses before its first move. Without any address it has returned
    already. -/
def start (c : Collector) (locals : List IpAddr) : Session where
  now := 0
  stage := if (distinct locals).isEmpty then .returned else .waiting
  workers := (distinct locals).map fun ip => .quiet (.start c.ports ip)
  channel := []
  tally := .start c.initial
  received := []
  lost := []
  rounds := 0
  joined := 0

/-- The collector is in its wait. -/
def Waiting (s : Session) : Prop :=
  s.stage = .waiting ∧ s.tally.deadline.isDone = false

/-- The channel has been closed. -/
def isClosed (s : Session) : Bool :=
  s.stage ≠ .waiting

/-- The shutdown has been triggered. -/
def isShutDown (s : Session) : Bool :=
  s.stage = .joining ∨ s.stage = .returned

/-- The number of mappings that the channel can hold. -/
def capacity (s : Session) : Nat :=
  s.workers.length

/-- The session after the last round of its wait. -/
def stopWaiting (s : Session) : Session :=
  { s with
    tally := { s.tally with deadline := s.tally.deadline.finish }
    rounds := s.rounds + 1 }

/-- **One move of one party.** -/
inductive Step (c : Collector) (s : Session) : Session → Prop where
  /-- Time passes. -/
  | tick (d : Nat) (running : s.stage ≠ .returned) : Step c s { s with now := s.now + d }
  /-- A task moves by itself. -/
  | move {pre post : List Worker} {w w' : Worker} (split : s.workers = pre ++ w :: post)
      (moves : w.Move c.prober s.now s.isShutDown w') :
      Step c s { s with workers := pre ++ w' :: post }
  /-- A task sends its mapping; it can while the channel has room. -/
  | send {pre post : List Worker} {w : Worker} {m : Mapping}
      (split : s.workers = pre ++ w :: post) (ready : w.outbox = some m)
      (isOpen : s.isClosed = false) (room : s.channel.length < s.capacity) :
      Step c s { s with
        workers := pre ++ { w with outbox := none } :: post
        channel := s.channel ++ [m] }
  /-- A task finds the channel closed. -/
  | lose {pre post : List Worker} {w : Worker} {m : Mapping}
      (split : s.workers = pre ++ w :: post) (ready : w.outbox = some m)
      (closed : s.isClosed = true) :
      Step c s { s with
        workers := pre ++ { w with outbox := none } :: post
        lost := s.lost ++ [m] }
  /-- A round of the wait that receives a mapping. -/
  | receive {m : Mapping} {ms : List Mapping} (waiting : s.Waiting) (next : s.channel = m :: ms) :
      Step c s { s with
        channel := ms
        tally := s.tally.receive c.grace s.now m
        received := s.received ++ [m]
        rounds := s.rounds + 1 }
  /-- A round of the wait that finds that nothing can arrive any more. -/
  | drained (waiting : s.Waiting) (empty : s.channel = []) (isOver : ∀ w ∈ s.workers, w.Over) :
      Step c s s.stopWaiting
  /-- A round of the wait that ends at the deadline. -/
  | expire (waiting : s.Waiting) (due : s.tally.deadline.due ≤ s.now) : Step c s s.stopWaiting
  /-- After the wait the channel is closed. -/
  | close (waited : s.stage = .waiting) (done : s.tally.deadline.isDone = true) :
      Step c s { s with stage := .closed }
  /-- Then the shutdown is triggered. -/
  | shutDown (closed : s.stage = .closed) : Step c s { s with stage := .joining }
  /-- A task that is over is joined. -/
  | join {pre post : List Worker} {w : Worker} (joining : s.stage = .joining)
      (split : s.workers = pre ++ w :: post) (isOver : w.Over) (unjoined : w.joined = false) :
      Step c s { s with
        workers := pre ++ { w with joined := true } :: post
        joined := s.joined + 1 }
  /-- The collector returns once no task is left to join. -/
  | finish (joining : s.stage = .joining) (all : ∀ w ∈ s.workers, w.joined = true) :
      Step c s { s with stage := .returned }

/-- Any number of moves. -/
abbrev Steps (c : Collector) : Session → Session → Prop :=
  Relation.ReflTransGen (Step c)

/-- The sessions that a collection of these addresses can come to. -/
def Reachable (c : Collector) (locals : List IpAddr) (s : Session) : Prop :=
  Steps c (start c locals) s

/-- What the collector returns. -/
def report (s : Session) : Report where
  mappings := Collector.mappingsOf s.tally.table (s.workers.map fun w => w.task.address)
  launched := s.workers.length
  resolved := s.tally.resolved
  duplicates := s.tally.duplicates
  joined := s.joined
  elapsed := s.now
  probes := s.workers.flatMap fun w => w.task.probes
  finished := totalOf ProbeTask.finished (s.workers.map Worker.task)

/-- **Induction over a session.** What holds at the start and is kept by every move holds of every
    session that can be reached. -/
theorem Reachable.induction {c : Collector} {locals : List IpAddr} {P : Session → Prop}
    (init : P (start c locals)) (keep : ∀ s s', P s → Step c s s' → P s') {s : Session}
    (h : Reachable c locals s) : P s := by
  induction h with
  | refl => exact init
  | tail _ step ih => exact keep _ _ ih step

end Session

end NatDiscovery
