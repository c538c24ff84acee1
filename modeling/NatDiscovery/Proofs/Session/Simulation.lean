import NatDiscovery.Proofs.Forecast
import NatDiscovery.Proofs.Session.Invariant

/-!
# `Proofs.Session.Simulation` — the computed collection is a session

`Collector.run` takes all tasks as far as they get at an instant, hands their mappings to the
collector, and goes on to the next instant. Each of these is a sequence of moves, so **the report
that is computed is one that a session returns** (`exists_session_run`): what holds of every session
holds of whatever `collect` returns (`exists_session_collect`).

From any session the collector can be brought to return (`exists_returned`): a shutdown leaves no
task behind.

## Contents
- `Worker.moves_tryPorts`, `Worker.moves_poll`, `Worker.moves_cancel`: a poll and a cancellation
- `steps_of_moves`, `steps_pollAll`, `steps_receiveAll`: one instant of the wait
- `steps_retire`, `exists_returned`: the end of a collection
- `exists_session_run`, `exists_session_collect`
-/

namespace NatDiscovery

namespace ProbeTask

/-- An answer that ends the task. -/
theorem settle_of_some {answer : Answer} {outcome : Outcome} (t : ProbeTask)
    (h : answer.outcome? = some outcome) :
    t.settle answer = { t with phase := .ended outcome, finished := t.finished + 1 } := by
  simp only [settle, h]

/-- An answer that leads to the next port. -/
theorem settle_of_none {answer : Answer} (t : ProbeTask) (h : answer.outcome? = none) :
    t.settle answer = { t with phase := .idle, finished := t.finished + 1 } := by
  simp only [settle, h]

end ProbeTask

namespace Worker

/-- Any number of moves of one task. -/
abbrev Moves (prober : Prober) (now : Nat) (shutDown : Bool) : Worker → Worker → Prop :=
  Relation.ReflTransGen (Move prober now shutDown)

variable {prober : Prober} {now : Nat} {shutDown : Bool} {w : Worker}

/-- A probe that ends the task. -/
theorem moves_answer_some {t : ProbeTask} {ends : Nat} {answer : Answer} {outcome : Outcome}
    (hphase : t.phase = .probing ends answer) (hout : answer.outcome? = some outcome) :
    Moves prober now shutDown (quiet t)
      ⟨{ t with phase := .ended outcome, finished := t.finished + 1 },
        answer.mapping? t.address, false⟩ := by
  rw [← t.settle_of_some hout]
  exact .single (.answer hphase)

/-- A probe that leads to the next port. -/
theorem moves_answer_none {t : ProbeTask} {ends : Nat} {answer : Answer}
    (hphase : t.phase = .probing ends answer) (hout : answer.outcome? = none) :
    Moves prober now shutDown (quiet t)
      (quiet { t with phase := .idle, finished := t.finished + 1 }) := by
  have hanswer : Move prober now shutDown (quiet t)
      ⟨t.settle answer, answer.mapping? t.address, false⟩ := .answer hphase
  rw [t.settle_of_none hout, Answer.mapping?_eq_none _ hout] at hanswer
  exact .single hanswer

/-- Going through the ports at an instant is a sequence of moves. -/
theorem moves_tryPorts (prober : Prober) (now : Nat) (address : IpAddr) (ports : List Port)
    (probes : List (Nat × Endpoint)) (finished : Nat) :
    let r := ProbeTask.tryPorts prober now address ports probes finished
    Moves prober now false (quiet ⟨address, ports, .idle, probes, finished⟩) ⟨r.1, r.2, false⟩ := by
  induction ports generalizing probes finished with
  | nil => exact .single (.exhaust rfl rfl)
  | cons port ports ih =>
      have hprobe : Move prober now false
          (quiet ⟨address, port :: ports, .idle, probes, finished⟩) _ := .probe rfl rfl rfl
      simp only [ProbeTask.tryPorts]
      split
      · exact .single hprobe
      · -- The probe ends at once.
        refine .head hprobe ?_
        split
        · rename_i outcome hout
          exact moves_answer_some rfl hout
        · rename_i hout
          exact .trans (moves_answer_none rfl hout) (ih _ _)

/-- A poll is a sequence of moves. -/
theorem moves_poll (prober : Prober) (now : Nat) (t : ProbeTask) :
    Moves prober now false (quiet t) ⟨(t.poll prober now).1, (t.poll prober now).2, false⟩ := by
  obtain ⟨address, untried, phase, probes, finished⟩ := t
  cases phase with
  | idle => exact moves_tryPorts prober now address untried probes finished
  | probing ends answer =>
      simp only [ProbeTask.poll]
      split
      · exact .refl
      · split
        · rename_i outcome hout
          exact moves_answer_some rfl hout
        · rename_i hout
          exact .trans (moves_answer_none rfl hout) (moves_tryPorts _ _ _ _ _ _)
  | ended outcome => exact .refl

/-- After a shutdown a task comes to its end by itself. -/
theorem moves_cancel (prober : Prober) (now : Nat) (w : Worker) :
    Moves prober now true w { w with task := w.task.cancel } := by
  cases hphase : w.task.phase with
  | idle =>
      cases hports : w.task.untried with
      | nil =>
          have hend : w.task.cancel = w.task.endWith .exhausted := by
            simp [ProbeTask.cancel, hphase, hports, ProbeTask.endWith]
          rw [hend]
          exact .single (.exhaust hphase hports)
      | cons port ports =>
          have hend : w.task.cancel = w.task.endWith .cancelled := by
            simp [ProbeTask.cancel, hphase, hports, ProbeTask.endWith]
          rw [hend]
          exact .single (.cancel hphase (by simp [hports]) rfl)
  | probing ends answer =>
      have hend : w.task.cancel = w.task.dropProbe := by
        simp [ProbeTask.cancel, hphase, ProbeTask.dropProbe]
      rw [hend]
      exact .single (.drop hphase rfl)
  | ended outcome =>
      have hend : w.task.cancel = w.task := by
        simp [ProbeTask.cancel, hphase]
      rw [hend]

/-- A task that has been shut down and joined. -/
def retire (w : Worker) : Worker :=
  ⟨w.task.cancel, none, true⟩

/-- A task that has been joined is as a shutdown would leave it. -/
theorem Sound.retire_eq (h : w.Sound) (hjoined : w.joined = true) : w.retire = w := by
  obtain ⟨hnone, outcome, hphase⟩ := h.isOver hjoined
  have hcancel : w.task.cancel = w.task := by
    simp [ProbeTask.cancel, hphase]
  rw [retire, hcancel, ← hnone, ← hjoined]

end Worker

namespace Session

variable {c : Collector} {locals : List IpAddr} {s : Session} {pre post : List Worker}

/-! ## One instant of the wait -/

/-- What one task can do among the others. -/
theorem steps_of_moves {w w' : Worker} (split : s.workers = pre ++ w :: post)
    (h : Worker.Moves c.prober s.now s.isShutDown w w') :
    Steps c s { s with workers := pre ++ w' :: post } := by
  induction h with
  | refl => rw [← split]
  | tail _ move ih => exact .tail ih (.move rfl move)

/-- A task is polled, and what it sends is in the channel. -/
theorem steps_poll {t : ProbeTask} (waiting : s.stage = .waiting)
    (split : s.workers = pre ++ .quiet t :: post) (room : s.channel.length < s.capacity) :
    Steps c s { s with
      workers := pre ++ .quiet (t.poll c.prober s.now).1 :: post
      channel := s.channel ++ (t.poll c.prober s.now).2.toList } := by
  have hmoves : Worker.Moves c.prober s.now s.isShutDown (.quiet t)
      ⟨(t.poll c.prober s.now).1, (t.poll c.prober s.now).2, false⟩ := by
    have hopen : s.isShutDown = false := by
      simp [isShutDown, waiting]
    rw [hopen]
    exact Worker.moves_poll c.prober s.now t
  have hpolled := steps_of_moves split hmoves
  cases hsent : (t.poll c.prober s.now).2 with
  | none =>
      rw [hsent] at hpolled
      simpa [Worker.quiet] using hpolled
  | some m =>
      refine .tail hpolled (@Step.send c _ pre post
        ⟨(t.poll c.prober s.now).1, (t.poll c.prober s.now).2, false⟩ m rfl hsent ?_ ?_)
      · simp [isClosed, waiting]
      · have hcap : s.capacity = (pre ++ .quiet t :: post).length := by
          rw [capacity, split]
        show s.channel.length < (pre ++ _ :: post).length
        rw [List.length_append, List.length_cons] at hcap ⊢
        omega

/-- All tasks are polled, one after the other. -/
theorem steps_pollAll {tasks : List ProbeTask} (waiting : s.stage = .waiting)
    (split : s.workers = pre ++ tasks.map .quiet) (room : s.channel.length ≤ pre.length) :
    Steps c s { s with
      workers := pre ++ (pollAll c.prober s.now tasks).map .quiet
      channel := s.channel ++ sentAll c.prober s.now tasks } := by
  induction tasks generalizing s pre with
  | nil =>
      have hchannel : s.channel ++ sentAll c.prober s.now [] = s.channel := List.append_nil _
      rw [hchannel]
      show Steps c s { s with workers := pre ++ [].map .quiet }
      rw [← split]
  | cons t tasks ih =>
      rw [List.map_cons] at split
      have hroom : s.channel.length < s.capacity := by
        rw [capacity, split, List.length_append, List.length_cons]
        omega
      have hhead := steps_poll (c := c) waiting split hroom
      refine .trans hhead ?_
      -- The task polled joins those before it, and has put at most one mapping into the channel.
      have hrest := @ih
        { s with
          workers := pre ++ .quiet (t.poll c.prober s.now).1 :: tasks.map .quiet
          channel := s.channel ++ (t.poll c.prober s.now).2.toList }
        (pre ++ [.quiet (t.poll c.prober s.now).1]) waiting (List.append_cons _ _ _) ?_
      · have hsent : (t.poll c.prober s.now).2.toList ++ sentAll c.prober s.now tasks =
            sentAll c.prober s.now (t :: tasks) := by
          cases h : (t.poll c.prober s.now).2 <;> simp [sentAll, h]
        simpa [pollAll, ← hsent] using hrest
      · have hone : (t.poll c.prober s.now).2.toList.length ≤ 1 := by
          cases (t.poll c.prober s.now).2 <;> simp
        simp only [List.length_append, List.length_singleton]
        omega

/-- What is in the channel is received, one mapping after the other. -/
theorem steps_receiveAll {ms : List Mapping} (waiting : s.Waiting) (next : s.channel = ms) :
    Steps c s { s with
      channel := []
      tally := s.tally.receiveAll c.grace s.now ms
      received := s.received ++ ms
      rounds := s.rounds + ms.length } := by
  induction ms generalizing s with
  | nil =>
      rw [List.append_nil]
      show Steps c s { s with channel := [] }
      rw [← next]
  | cons m ms ih =>
      refine .head (.receive waiting next) ?_
      have hrest := @ih
        { s with
          channel := ms
          tally := s.tally.receive c.grace s.now m
          received := s.received ++ [m]
          rounds := s.rounds + 1 } ⟨waiting.1, Deadline.isDone_onMapping waiting.2 _ _⟩ rfl
      simpa [Tally.receiveAll, Nat.add_assoc, Nat.add_comm 1] using hrest

/-! ## The end of a collection -/

/-- After the shutdown a task comes to its end and is joined. What it still had to send is lost. -/
theorem steps_retire_one {w : Worker} (joining : s.stage = .joining)
    (split : s.workers = pre ++ w :: post) (hw : w.Sound) :
    ∃ lost joined, Steps c s
      { s with workers := pre ++ w.retire :: post, lost := lost, joined := joined } := by
  cases hjoined : w.joined with
  | true =>
      -- Nothing is left to do.
      refine ⟨s.lost, s.joined, ?_⟩
      rw [hw.retire_eq hjoined, ← split]
  | false =>
      have hmoves : Worker.Moves c.prober s.now s.isShutDown w { w with task := w.task.cancel } := by
        have hshut : s.isShutDown = true := by
          simp [isShutDown, joining]
        rw [hshut]
        exact Worker.moves_cancel c.prober s.now w
      have hended := steps_of_moves split hmoves
      have hover := w.task.exists_outcome_cancel
      cases hout : w.outbox with
      | none =>
          have hjoin := @Step.join c
            { s with workers := pre ++ { w with task := w.task.cancel } :: post }
            pre post { w with task := w.task.cancel } joining rfl ⟨hout, hover⟩ hjoined
          simp only [hout] at hended hjoin
          exact ⟨s.lost, s.joined + 1, .tail hended hjoin⟩
      | some m =>
          have hlose := @Step.lose c
            { s with workers := pre ++ { w with task := w.task.cancel } :: post }
            pre post { w with task := w.task.cancel } m rfl hout (by simp [isClosed, joining])
          have hjoin := @Step.join c
            { s with
              workers := pre ++ ⟨w.task.cancel, none, w.joined⟩ :: post
              lost := s.lost ++ [m] }
            pre post ⟨w.task.cancel, none, w.joined⟩ joining rfl ⟨rfl, hover⟩ hjoined
          exact ⟨s.lost ++ [m], s.joined + 1, .tail (.tail hended hlose) hjoin⟩

/-- After the shutdown all tasks are joined, one after the other. -/
theorem steps_retire {ws : List Worker} (joining : s.stage = .joining)
    (split : s.workers = pre ++ ws) (hws : ∀ w ∈ ws, w.Sound) :
    ∃ lost joined, Steps c s
      { s with workers := pre ++ ws.map Worker.retire, lost := lost, joined := joined } := by
  induction ws generalizing s pre with
  | nil =>
      refine ⟨s.lost, s.joined, ?_⟩
      rw [List.map_nil, ← split]
  | cons w ws ih =>
      obtain ⟨lost, joined, hone⟩ :=
        steps_retire_one (c := c) joining split (hws w List.mem_cons_self)
      obtain ⟨lost', joined', hrest⟩ := @ih
        { s with workers := pre ++ w.retire :: ws, lost := lost, joined := joined }
        (pre ++ [w.retire]) joining (List.append_cons _ _ _)
        (fun v hv => hws v (List.mem_cons_of_mem _ hv))
      refine ⟨lost', joined', .trans hone ?_⟩
      simpa using hrest

/-- A shutdown brings the collector to return. -/
theorem exists_returned_of_joining (hinv : s.Inv locals) (joining : s.stage = .joining) :
    ∃ s', Steps c s s' ∧ s'.stage = .returned ∧ s'.workers = s.workers.map Worker.retire ∧
      s'.now = s.now ∧ s'.tally = s.tally := by
  obtain ⟨lost, joined, hretire⟩ :=
    @steps_retire c s [] s.workers joining (List.nil_append _).symm hinv.sound
  refine ⟨_, .tail hretire (.finish joining ?_), rfl, rfl, rfl, rfl⟩
  intro w hw
  obtain ⟨v, _, rfl⟩ := List.mem_map.mp hw
  rfl

/-- From the end of the wait on, the collector comes to return without anything to wait for, and
    receives nothing more. -/
theorem exists_returned_of_waited (hinv : s.Inv locals) (hlater : s.stage ≠ .returned)
    (hdone : s.stage = .waiting → s.tally.deadline.isDone = true) :
    ∃ s', Steps c s s' ∧ s'.stage = .returned ∧ s'.workers = s.workers.map Worker.retire ∧
      s'.now = s.now ∧ s'.tally = s.tally := by
  cases hstage : s.stage with
  | returned => exact absurd hstage hlater
  | joining => exact exists_returned_of_joining hinv hstage
  | closed =>
      have hshut : Step c s { s with stage := .joining } := .shutDown hstage
      obtain ⟨s', hsteps, hs'⟩ := exists_returned_of_joining (c := c) (inv_step hinv hshut) rfl
      exact ⟨s', .head hshut hsteps, hs'⟩
  | waiting =>
      have hclose : Step c s { s with stage := .closed } := .close hstage (hdone hstage)
      have hshut : Step c { s with stage := .closed } { s with stage := .joining } := .shutDown rfl
      obtain ⟨s', hsteps, hs'⟩ :=
        exists_returned_of_joining (c := c) (inv_step (inv_step hinv hclose) hshut) rfl
      exact ⟨s', .head hclose (.head hshut hsteps), hs'⟩

/-- **No collection is stuck.** Whatever has happened so far, the collector can still come to
    return. -/
theorem exists_returned (hinv : s.Inv locals) : ∃ s', Steps c s s' ∧ s'.stage = .returned := by
  by_cases hreturned : s.stage = .returned
  · exact ⟨s, .refl, hreturned⟩
  by_cases hwaiting : s.Waiting
  · -- The deadline will pass.
    have htick : Step c s { s with now := s.now + s.tally.deadline.due } := .tick _ hreturned
    have hexpire : Step c { s with now := s.now + s.tally.deadline.due } _ :=
      .expire hwaiting (Nat.le_add_left _ _)
    obtain ⟨s', hsteps, hstage, _⟩ := exists_returned_of_waited (c := c)
      (inv_step (inv_step hinv htick) hexpire) hreturned fun _ => rfl
    exact ⟨s', .head htick (.head hexpire hsteps), hstage⟩
  · obtain ⟨s', hsteps, hstage, _⟩ := exists_returned_of_waited (c := c) hinv hreturned fun h =>
      by simpa [Waiting, h] using hwaiting
    exact ⟨s', hsteps, hstage⟩

/-! ## The computed collection -/

/-- A session that has stopped waiting, with nothing of its tasks on its way, can return the report
    of that wait. -/
theorem exists_report_of_stopped {tasks : List ProbeTask} (h : Reachable c locals s)
    (waiting : s.stage = .waiting) (stop : Step c s s.stopWaiting)
    (split : s.workers = tasks.map .quiet) :
    ∃ s', Reachable c locals s' ∧ s'.stage = .returned ∧
      s'.report = Collector.reportOf (distinct locals) ⟨s.now, tasks, s.tally⟩ := by
  have hstopped : Reachable c locals s.stopWaiting := .tail h stop
  obtain ⟨s', hsteps, hstage, hworkers, hnow, htally⟩ :=
    exists_returned_of_waited (c := c) hstopped.inv (by simp [stopWaiting, waiting]) fun _ => rfl
  have hreach : Reachable c locals s' := hstopped.trans hsteps
  have hretired : s'.workers = tasks.map fun t => (Worker.quiet t).retire := by
    rw [hworkers]
    show s.workers.map Worker.retire = _
    rw [split, List.map_map]
    rfl
  have hlength : s'.workers.length = (distinct locals).length := by
    rw [← hreach.inv.addresses, List.length_map]
  have hjoined : s'.joined = tasks.length := by
    rw [hreach.inv.joined_eq, List.countP_eq_length.mpr (hreach.inv.returned hstage), hretired,
      List.length_map]
  refine ⟨s', hreach, hstage, ?_⟩
  simp only [report, Collector.reportOf, hreach.inv.addresses, hlength, hjoined, hnow, htally,
    stopWaiting, List.length_map]
  rw [hretired, List.flatMap_map, List.flatMap_map, List.map_map]
  rfl

/-- The session of a wait at an instant: nothing is on its way. -/
def atInstant (now : Nat) (tasks : List ProbeTask) (tally : Tally) (received : List Mapping) :
    Session where
  now := now
  stage := .waiting
  workers := tasks.map .quiet
  channel := []
  tally := tally
  received := received
  lost := []
  rounds := received.length
  joined := 0

/-- From one instant of the wait to the next. -/
theorem steps_atInstant {now next : Nat} {tasks : List ProbeTask} {tally : Tally}
    {received : List Mapping} (hle : now ≤ next) (hwait : tally.deadline.isDone = false) :
    Steps c (atInstant now tasks tally received)
      (atInstant next (pollAll c.prober next tasks)
        (tally.receiveAll c.grace next (sentAll c.prober next tasks))
        (received ++ sentAll c.prober next tasks)) := by
  have htick : Step c (atInstant now tasks tally received)
      (atInstant next tasks tally received) := by
    have hd := Step.tick (c := c) (s := atInstant now tasks tally received) (next - now)
      (by simp [atInstant])
    rwa [show (atInstant now tasks tally received).now + (next - now) = next from
      Nat.add_sub_cancel' hle] at hd
  have hpoll := @steps_pollAll c (atInstant next tasks tally received) [] tasks rfl rfl
    (Nat.le_refl 0)
  refine .head htick (.trans hpoll ?_)
  have hreceive := @steps_receiveAll c
    { atInstant next tasks tally received with
      workers := (pollAll c.prober next tasks).map .quiet
      channel := sentAll c.prober next tasks } _ ⟨rfl, hwait⟩ rfl
  have hrounds : (received ++ sentAll c.prober next tasks).length =
      received.length + (sentAll c.prober next tasks).length := List.length_append
  simp only [atInstant] at hreceive ⊢
  rw [hrounds]
  exact hreceive

/-- The tally of a wait that goes on stays open, and its deadline ahead. -/
theorem open_receiveAll {tally : Tally} (hwait : tally.deadline.isDone = false) {now : Nat}
    (hdue : now ≤ tally.deadline.due) (grace : Nat) (ms : List Mapping) :
    (tally.receiveAll grace now ms).deadline.isDone = false ∧
      now ≤ (tally.receiveAll grace now ms).deadline.due := by
  rw [Tally.deadline_receiveAll]
  split
  · exact ⟨hwait, hdue⟩
  · refine ⟨Deadline.isDone_onMapping hwait now grace, ?_⟩
    unfold Deadline.onMapping
    split
    · exact Nat.le_add_right now grace
    · exact hdue

/-- A wait that a session has come to. -/
structure Underway (c : Collector) (locals : List IpAddr) (now : Nat) (tasks : List ProbeTask)
    (tally : Tally) : Prop where
  reached : ∃ received, Reachable c locals (atInstant now tasks tally received)
  following : c.Following (distinct locals) now tasks
  running : tally.deadline.isDone = false
  early : now ≤ tally.deadline.due

theorem underway_start (hsome : distinct locals ≠ []) :
    let tasks := (distinct locals).map (ProbeTask.start c.ports)
    Underway c locals 0 (pollAll c.prober 0 tasks)
      ((Tally.start c.initial).receiveAll c.grace 0
        (sentAll c.prober 0 tasks)) := by
  obtain ⟨hrunning, hearly⟩ := @open_receiveAll (.start c.initial) rfl 0
    (Nat.zero_le _) c.grace (sentAll c.prober 0 ((distinct locals).map (ProbeTask.start c.ports)))
  have hstart : start c locals = atInstant 0 ((distinct locals).map (ProbeTask.start c.ports))
      (.start c.initial) [] := by
    simp [start, atInstant, hsome]
  have hsteps := @steps_atInstant c 0 0 ((distinct locals).map (ProbeTask.start c.ports))
    (.start c.initial) [] (Nat.le_refl 0) rfl
  rw [← hstart] at hsteps
  exact ⟨⟨_, hsteps⟩, (Collector.following_start c _).1, hrunning, hearly⟩

theorem underway_step {now next : Nat} {tasks : List ProbeTask} {tally : Tally}
    (h : Underway c locals now tasks tally) (hnext : nextWake tasks = some next)
    (hdue : next < tally.deadline.due) :
    Underway c locals next (pollAll c.prober next tasks)
      (tally.receiveAll c.grace next (sentAll c.prober next tasks)) := by
  obtain ⟨received, hreach⟩ := h.reached
  obtain ⟨hlater, _⟩ := h.following.nextWake_bounds hnext
  obtain ⟨hrunning, hearly⟩ :=
    open_receiveAll h.running (Nat.le_of_lt hdue) c.grace (sentAll c.prober next tasks)
  refine ⟨⟨_, hreach.trans (steps_atInstant (Nat.le_of_lt hlater) h.running)⟩, ?_, hrunning, hearly⟩
  exact (Collector.following_step h.following hlater fun _ ht _ hwakes =>
    nextWake_le hnext ht hwakes).1

/-- A wait whose tasks are all over can end there. -/
theorem Underway.exists_report_of_drained {now : Nat} {tasks : List ProbeTask} {tally : Tally}
    (h : Underway c locals now tasks tally) (hstop : nextWake tasks = none) :
    ∃ s, Reachable c locals s ∧ s.stage = .returned ∧
      s.report = Collector.reportOf (distinct locals) ⟨now, tasks, tally⟩ := by
  obtain ⟨received, hreach⟩ := h.reached
  refine exists_report_of_stopped hreach rfl (.drained ⟨rfl, h.running⟩ rfl ?_) rfl
  intro w hw
  obtain ⟨t, ht, rfl⟩ := List.mem_map.mp hw
  obtain ⟨ip, _, htracks⟩ := h.following.exists_address ht
  cases htracks with
  | probing phase =>
      have hnone := nextWake_eq_none_iff.mp hstop t ht
      simp [ProbeTask.wakes?, phase] at hnone
  | @ended outcome phase => exact ⟨rfl, outcome, phase⟩

/-- A wait can end at its deadline. -/
theorem Underway.exists_report_of_due {now : Nat} {tasks : List ProbeTask} {tally : Tally}
    (h : Underway c locals now tasks tally) :
    ∃ s, Reachable c locals s ∧ s.stage = .returned ∧
      s.report = Collector.reportOf (distinct locals) ⟨tally.deadline.due, tasks, tally⟩ := by
  obtain ⟨received, hreach⟩ := h.reached
  have htick := Step.tick (c := c) (s := atInstant now tasks tally received)
    (tally.deadline.due - now) (by simp [atInstant])
  have hnow : (atInstant now tasks tally received).now + (tally.deadline.due - now) =
      tally.deadline.due := Nat.add_sub_cancel' h.early
  rw [hnow] at htick
  exact exists_report_of_stopped (.tail hreach htick) rfl (.expire ⟨rfl, h.running⟩ (Nat.le_refl _))
    rfl

/-- **The report that is computed is one that a session returns.** -/
theorem exists_session_run (c : Collector) (locals : List IpAddr) :
    ∃ s, Reachable c locals s ∧ s.stage = .returned ∧ s.report = c.run locals := by
  by_cases hnone : distinct locals = []
  · refine ⟨start c locals, .refl, by simp [start, hnone], ?_⟩
    simp [report, start, Collector.run, hnone, Collector.mappingsOf, MappingTable.isEmpty, totalOf,
      Tally.start]
  · rw [Collector.run_of_ne_nil hnone]
    rcases Nat.eq_zero_or_pos c.initial with hzero | hpos
    · -- There is no time to wait.
      rw [Collector.waitFor_of_zero hzero]
      have hdue : (Tally.start c.initial).deadline.due ≤ 0 := by
        rw [Tally.due_start]
        exact Nat.le_of_eq hzero
      have hstage : (start c locals).stage = .waiting := by
        simp [start, hnone]
      have hworkers : (start c locals).workers =
          ((distinct locals).map (ProbeTask.start c.ports)).map .quiet := by
        rw [List.map_map]
        rfl
      exact exists_report_of_stopped .refl hstage (.expire ⟨hstage, rfl⟩ hdue) hworkers
    · rw [Collector.waitFor_of_pos hpos]
      obtain ⟨last, tasks, tally, hunder, hend⟩ := wait_induction (Underway c locals)
        (fun _ _ _ _ h hnext hdue => underway_step h hnext hdue) (underway_start hnone)
      rcases hend with ⟨hstop, hwait⟩ | ⟨_, _, _, hwait⟩
      · rw [hwait]
        exact hunder.exists_report_of_drained hstop
      · rw [hwait]
        exact hunder.exists_report_of_due

/-- **What a collection returns is what a session returns**, within the waits that it was given. -/
theorem exists_session_collect {prober : Prober} {ports : List Port} {timeouts : Timeouts}
    {locals : List IpAddr} {clock : Clock} {r : Report}
    (h : collect prober ports timeouts locals clock = .ok r) :
    ∃ s, Reachable ⟨prober, ports, timeouts.initial.millis, timeouts.grace.millis⟩ locals s ∧
      s.stage = .returned ∧ s.report = r := by
  rw [collect_eq_ok h]
  exact exists_session_run _ locals

end Session

end NatDiscovery
