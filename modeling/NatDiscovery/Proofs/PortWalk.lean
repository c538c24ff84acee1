import Mathlib.Data.List.Forall2
import NatDiscovery.Proofs.Course
import NatDiscovery.Proofs.Faults
import NatDiscovery.Proofs.Session.Simulation

/-!
# `Proofs.PortWalk` — one list of ports for all addresses

The ports are chosen once, before any task starts, and every task goes through the same list by
itself. **The ports that an address probes are a prefix of that list**, and it goes on to the next
one only when the probe before has found its port taken. Where the tasks stop makes no difference:
at a success, a failure, a crash, the shutdown, or the end of the list.

That a probe comes after the answer to the one before it is said in two ways. In a session, which
knows no more of time than the order of the moves, all probes of a task but the last have ended. In
the computed collection each starts no earlier than the delay of the one before it allows.

## Contents
- `Config.Offers`, `Config.offers_iff`: the list
- `Walks`, `WalkEnd`: the way of one address through the ports, and its end
- `ProbeTask.InTurn`, `Worker.Move.inTurn`, `Session.Reachable.inTurn`: the order of the ports
- `Spaced`, `ProbeTask.Paced`: the times of the probes
- `Collector.forall₂_waitFor`, `Collector.walks_run`: a computed collection
- `exists_offered_ports`: all probes of a resolution
-/

namespace NatDiscovery

/-! ## The list -/

/-- Any ports of a range can be drawn, as many as are sampled. -/
theorem PortRange.exists_draws {r : PortRange} {ports : List Port}
    (hlength : ports.length = sampleCount) (hports : ∀ p ∈ ports, r.contains p = true) :
    ∃ draws, r.sample draws = ports := by
  refine ⟨fun i => (ports.getD i 0).toNat - r.start.toNat, ?_⟩
  apply List.ext_getElem
  · rw [length_sample, hlength]
  · intro i hi hi'
    obtain ⟨hstart, hstop⟩ := contains_iff.mp (hports _ (List.getElem_mem hi'))
    rw [UInt16.le_iff_toNat_le] at hstart
    rw [UInt16.lt_iff_toNat_lt] at hstop
    have hmod : (ports[i].toNat - r.start.toNat) % (r.stop.toNat - r.start.toNat) =
        ports[i].toNat - r.start.toNat := Nat.mod_eq_of_lt (by omega)
    have hsum : r.start.toNat + (ports[i].toNat - r.start.toNat) = ports[i].toNat := by omega
    simp only [sample, List.getElem_map, List.getElem_range, pick, List.getD_eq_getElem?_getD,
      List.getElem?_eq_getElem hi', Option.getD_some, hmod, hsum, UInt16.ofNat_toNat]

/-- The lists of ports that a configuration allows for. -/
structure Config.Offers (config : Config) (ports : List Port) : Prop where
  range : ∀ r, config.portRange = some r →
    ports.length = 5 ∧ ∀ p ∈ ports, r.start ≤ p ∧ p < r.stop
  single : config.portRange = none → ∀ p, config.udpPort = some p → p ≠ 0 → ports = [p]
  any : config.portRange = none → config.udpPort = none ∨ config.udpPort = some 0 → ports = [0]

/-- The ports chosen are on offer. -/
theorem Config.offers_ports {config : Config} {draws : Draws} {ports : List Port}
    (h : config.ports draws = .ok ports) : config.Offers ports := by
  unfold Config.ports candidatePorts at h
  cases hrange : config.portRange with
  | some r =>
      rw [hrange] at h
      simp only at h
      split at h
      · rename_i hlt
        obtain rfl := Except.ok.inj h
        refine ⟨?_, fun hnone => ?_, fun hnone => ?_⟩
        · intro r' hr'
          obtain rfl := Option.some.inj (hrange.symm.trans hr')
          exact ⟨PortRange.length_sample r draws, fun p hp =>
            PortRange.contains_iff.mp (PortRange.contains_of_mem_sample hlt hp)⟩
        · rw [hrange] at hnone
          injection hnone
        · rw [hrange] at hnone
          injection hnone
      · injection h
  | none =>
      rw [hrange] at h
      refine ⟨fun r hr => ?_, fun _ p hp _ => ?_, fun _ hport => ?_⟩
      · rw [hrange] at hr
        injection hr
      · rw [hp] at h
        exact (Except.ok.inj h).symm
      · rcases hport with hport | hport
        · rw [hport] at h
          exact (Except.ok.inj h).symm
        · rw [hport] at h
          exact (Except.ok.inj h).symm

/-- **The lists on offer are the ones that can be drawn.** -/
theorem Config.offers_iff {config : Config} {ports : List Port} :
    config.Offers ports ↔ ∃ draws, config.ports draws = .ok ports := by
  refine ⟨?_, fun ⟨_, h⟩ => offers_ports h⟩
  intro h
  unfold Config.ports candidatePorts
  cases hrange : config.portRange with
  | some r =>
      obtain ⟨hlength, hports⟩ := h.range r hrange
      obtain ⟨draws, hdraws⟩ :=
        PortRange.exists_draws hlength fun p hp => PortRange.contains_iff.mpr (hports p hp)
      obtain ⟨p, hp⟩ := List.exists_mem_of_length_pos (l := ports) (by omega)
      obtain ⟨hstart, hstop⟩ := hports p hp
      exact ⟨draws, by simp only [if_pos (UInt16.lt_of_le_of_lt hstart hstop), hdraws]⟩
  | none =>
      cases hport : config.udpPort with
      | none => exact ⟨id, by rw [h.any hrange (Or.inl hport)]⟩
      | some p =>
          by_cases hzero : p = 0
          · subst hzero
            exact ⟨id, by rw [h.any hrange (Or.inr hport)]⟩
          · exact ⟨id, by rw [h.single hrange p hport hzero]⟩

/-! ## The order of the ports -/

/-- The probes go through the ports from an address in their order, each one but the last finding
    its port taken. -/
structure Walks (prober : Prober) (ports : List Port) (address : IpAddr)
    (probes : List (Nat × Endpoint)) : Prop where
  inOrder : probes.map Prod.snd <+: ports.map (Endpoint.of address)
  taken : ∀ i p, probes[i]? = some p → i + 1 < probes.length →
    (prober p.2 i).answer = .failed .addressInUse

theorem walks_nil (prober : Prober) (ports : List Port) (address : IpAddr) :
    Walks prober ports address [] :=
  ⟨List.nil_prefix, fun i p hp => by simp at hp⟩

/-- What may end a walk, and with which outcome: the shutdown, the end of the list with all its
    ports taken, or the answer to the last probe. -/
inductive WalkEnd (prober : Prober) (ports : List Port) (probes : List (Nat × Endpoint)) :
    Outcome → Prop where
  | cancelled : WalkEnd prober ports probes .cancelled
  | exhausted (all : probes.length = ports.length)
      (taken : ∀ i p, probes[i]? = some p → (prober p.2 i).answer = .failed .addressInUse) :
      WalkEnd prober ports probes .exhausted
  | decided {i : Nat} {p : Nat × Endpoint} {outcome : Outcome} (started : probes[i]? = some p)
      (last : i + 1 = probes.length) (decides : (prober p.2 i).answer.outcome? = some outcome) :
      WalkEnd prober ports probes outcome

namespace ProbeTask

/-- The task has tried the ports in their order, and none of them after one that was not taken. -/
structure InTurn (prober : Prober) (ports : List Port) (t : ProbeTask) : Prop where
  tried : t.probes.map Prod.snd = (ports.take t.probes.length).map (Endpoint.of t.address)
  untried : t.untried = ports.drop t.probes.length
  taken : ∀ i p, t.probes[i]? = some p → i + 1 < t.probes.length ∨ t.phase = .idle →
    (prober p.2 i).answer = .failed .addressInUse
  underWay : ∀ ends answer, t.phase = .probing ends answer →
    ∃ i p, t.probes[i]? = some p ∧ i + 1 = t.probes.length ∧ (prober p.2 i).answer = answer
  ended : ∀ outcome, t.phase = .ended outcome → WalkEnd prober ports t.probes outcome

section InTurn

variable {prober : Prober} {ports : List Port} {t t' : ProbeTask}

theorem InTurn.walks (h : t.InTurn prober ports) : Walks prober ports t.address t.probes :=
  ⟨h.tried ▸ (List.take_prefix _ _).map _, fun i p hp hlt => h.taken i p hp (Or.inl hlt)⟩

theorem InTurn.length_le (h : t.InTurn prober ports) : t.probes.length ≤ ports.length := by
  have hlength := congrArg List.length h.tried
  rw [List.length_map, List.length_map, List.length_take] at hlength
  omega

theorem inTurn_start (prober : Prober) (ports : List Port) (address : IpAddr) :
    (start ports address).InTurn prober ports :=
  ⟨rfl, rfl, fun i p hp => by simp [start] at hp, fun _ _ hphase => (by injection hphase),
    fun _ hphase => by injection hphase⟩

/-- The next probe is the one from the next port. -/
theorem InTurn.startProbe (h : t.InTurn prober ports) (idle : t.phase = .idle) {port : Port}
    {rest : List Port} (next : t.untried = port :: rest) (now : Nat) :
    (t.startProbe prober now port rest).InTurn prober ports := by
  have hdrop : ports.drop t.probes.length = port :: rest := h.untried.symm.trans next
  have hport : ports[t.probes.length]? = some port := by
    rw [← List.head?_drop, hdrop, List.head?_cons]
  refine ⟨?_, ?_, ?_, ?_, ?_⟩
  · simp only [ProbeTask.startProbe, List.map_append, List.length_append, List.length_singleton,
      List.take_add_one, hport, h.tried, Option.toList_some, List.map_cons, List.map_nil]
  · simp only [ProbeTask.startProbe, List.length_append, List.length_singleton]
    rw [← List.tail_drop, hdrop, List.tail_cons]
  · intro i p hp hor
    rcases hor with hlt | hphase
    · simp only [ProbeTask.startProbe, List.length_append, List.length_singleton] at hp hlt
      rw [List.getElem?_append_left (by omega)] at hp
      exact h.taken i p hp (Or.inr idle)
    · injection hphase
  · intro ends answer hphase
    injection hphase with _ hanswer
    exact ⟨t.probes.length, (now, .of t.address port), by simp [ProbeTask.startProbe],
      by simp [ProbeTask.startProbe], hanswer⟩
  · intro outcome hphase
    injection hphase

/-- Only an answer that the port is taken leads to the next one. -/
theorem InTurn.settle (h : t.InTurn prober ports) {ends : Nat} {answer : Answer}
    (probing : t.phase = .probing ends answer) : (t.settle answer).InTurn prober ports := by
  obtain ⟨k, q, hq, hlast, hanswer⟩ := h.underWay ends answer probing
  cases hout : answer.outcome? with
  | some outcome =>
      rw [t.settle_of_some hout]
      refine ⟨h.tried, h.untried, ?_, ?_, ?_⟩
      · intro i p hp hor
        rcases hor with hlt | hphase
        · exact h.taken i p hp (Or.inl hlt)
        · injection hphase
      · intro _ _ hphase
        injection hphase
      · intro outcome' hphase
        injection hphase with houtcome
        exact .decided hq hlast (by rw [hanswer, hout, houtcome])
  | none =>
      rw [t.settle_of_none hout]
      have htaken : (prober q.2 k).answer = .failed .addressInUse := by
        by_contra hne
        rw [hanswer] at hne
        rw [Answer.outcome?_of_ne hne] at hout
        injection hout
      refine ⟨h.tried, h.untried, ?_, ?_, ?_⟩
      · intro i p hp _
        by_cases hlt : i + 1 < t.probes.length
        · exact h.taken i p hp (Or.inl hlt)
        · -- The probe whose answer this is.
          have hi : i < t.probes.length := (List.getElem?_eq_some_iff.mp hp).1
          obtain rfl : i = k := by omega
          obtain rfl := Option.some.inj (hq.symm.trans hp)
          exact htaken
      · intro _ _ hphase
        injection hphase
      · intro _ hphase
        injection hphase

/-- A task that is over tries no other port. -/
theorem InTurn.stop (h : t.InTurn prober ports) {outcome : Outcome} (finished : Nat)
    (hend : WalkEnd prober ports t.probes outcome) :
    InTurn prober ports { t with phase := .ended outcome, finished := finished } := by
  refine ⟨h.tried, h.untried, ?_, ?_, ?_⟩
  · intro i p hp hor
    rcases hor with hlt | hphase
    · exact h.taken i p hp (Or.inl hlt)
    · injection hphase
  · intro _ _ hphase
    injection hphase
  · intro outcome' hphase
    injection hphase with houtcome
    exact houtcome ▸ hend

/-- A task without a port left has tried them all. -/
theorem InTurn.exhausted (h : t.InTurn prober ports) (idle : t.phase = .idle)
    (none_left : t.untried = []) : WalkEnd prober ports t.probes .exhausted := by
  have hdrop : ports.length ≤ t.probes.length :=
    List.drop_eq_nil_iff.mp (h.untried.symm.trans none_left)
  exact .exhausted (Nat.le_antisymm h.length_le hdrop) fun i p hp => h.taken i p hp (Or.inr idle)

end InTurn

end ProbeTask

namespace Worker

variable {prober : Prober} {ports : List Port} {now : Nat} {shutDown : Bool} {w w' : Worker}

/-- A move of a task keeps to the order of the ports. -/
theorem Move.inTurn (h : w.Move prober now shutDown w') (hw : w.task.InTurn prober ports) :
    w'.task.InTurn prober ports := by
  cases h with
  | probe idle next running => exact hw.startProbe idle next now
  | exhaust idle none_left => exact hw.stop w.task.finished (hw.exhausted idle none_left)
  | cancel idle some_left stopped => exact hw.stop w.task.finished .cancelled
  | answer probing => exact hw.settle probing
  | drop probing stopped => exact hw.stop (w.task.finished + 1) .cancelled

theorem Moves.inTurn (h : Moves prober now shutDown w w') (hw : w.task.InTurn prober ports) :
    w'.task.InTurn prober ports := by
  induction h with
  | refl => exact hw
  | tail _ move ih => exact move.inTurn ih

theorem Change.inTurn (h : w.Change prober now shutDown w') (hw : w.task.InTurn prober ports) :
    w'.task.InTurn prober ports := by
  cases h with
  | moves move => exact move.inTurn hw
  | sends ready => exact hw
  | joins isOver => exact hw

end Worker

/-- A poll is made of moves, so it keeps to the order as well. -/
theorem ProbeTask.InTurn.poll {prober : Prober} {ports : List Port} {t : ProbeTask}
    (h : t.InTurn prober ports) (now : Nat) : (t.poll prober now).1.InTurn prober ports :=
  (Worker.moves_poll prober now t).inTurn h

namespace Session

variable {c : Collector} {locals : List IpAddr} {s s' : Session}

/-- In every session that can be reached the tasks keep to the order of the ports. -/
theorem Reachable.inTurn (h : Reachable c locals s) :
    ∀ w ∈ s.workers, w.task.InTurn c.prober c.ports := by
  refine h.induction (P := fun s => ∀ w ∈ s.workers, w.task.InTurn c.prober c.ports) ?_ ?_
  · intro w hw
    obtain ⟨ip, _, rfl⟩ := List.mem_map.mp hw
    exact ProbeTask.inTurn_start c.prober c.ports ip
  · intro s s' hs step
    rcases step.workers_eq_or with heq | ⟨pre, w, w', post, split, split', change⟩
    · rw [heq]
      exact hs
    · rw [split']
      exact forall_replace split hs change.inTurn

/-- All probes of a task but the last have ended. -/
theorem Inv.probes_le_finished (h : s.Inv locals) {w : Worker} (hw : w ∈ s.workers) :
    w.task.probes.length ≤ w.task.finished + 1 := by
  have hcount := (h.sound w hw).counted
  have hone : w.task.underWay ≤ 1 := by
    unfold ProbeTask.underWay
    split <;> omega
  omega

end Session

/-! ## The times of the probes -/

/-- Each probe starts no earlier than the delay of the one before it allows. -/
def Spaced (prober : Prober) (probes : List (Nat × Endpoint)) : Prop :=
  ∀ i p q, probes[i]? = some p → probes[i + 1]? = some q → p.1 + (prober p.2 i).delay ≤ q.1

/-- By this instant the last probe, if there is one, can have been answered. -/
def Answered (prober : Prober) (probes : List (Nat × Endpoint)) (now : Nat) : Prop :=
  ∀ i p, probes[i]? = some p → i + 1 = probes.length → p.1 + (prober p.2 i).delay ≤ now

section Spaced

variable {prober : Prober} {probes : List (Nat × Endpoint)} {now later : Nat} {e : Endpoint}

theorem spaced_nil (prober : Prober) : Spaced prober [] :=
  fun i p q hp => by simp at hp

theorem answered_nil (prober : Prober) (now : Nat) : Answered prober [] now :=
  fun i p hp => by simp at hp

theorem Spaced.snoc (h : Spaced prober probes) (hlast : Answered prober probes now) (e : Endpoint) :
    Spaced prober (probes ++ [(now, e)]) := by
  intro i p q hp hq
  have hi : i + 1 < (probes ++ [(now, e)]).length := (List.getElem?_eq_some_iff.mp hq).1
  rw [List.length_append, List.length_singleton] at hi
  rw [List.getElem?_append_left (by omega)] at hp
  by_cases hlt : i + 1 < probes.length
  · rw [List.getElem?_append_left hlt] at hq
    exact h i p q hp hq
  · have heq : i + 1 = probes.length := by omega
    rw [heq, List.getElem?_append_right (Nat.le_refl _), Nat.sub_self] at hq
    obtain rfl := Option.some.inj hq
    exact hlast i p hp heq

theorem answered_snoc (h : now + (prober e probes.length).delay ≤ later) :
    Answered prober (probes ++ [(now, e)]) later := by
  intro i p hp hlast
  rw [List.length_append, List.length_singleton] at hlast
  obtain rfl : i = probes.length := by omega
  rw [List.getElem?_append_right (Nat.le_refl _), Nat.sub_self] at hp
  obtain rfl := Option.some.inj hp
  exact h

end Spaced

namespace ProbeTask

/-- The task leaves its probes the time they take. It is between two ports only before its first
    probe, since a poll goes on to the next port at once. -/
structure Paced (prober : Prober) (t : ProbeTask) : Prop where
  spaced : Spaced prober t.probes
  underWay : ∀ ends answer, t.phase = .probing ends answer → Answered prober t.probes ends
  idle : t.phase = .idle → t.probes = []

variable {prober : Prober}

theorem paced_start (prober : Prober) (ports : List Port) (address : IpAddr) :
    (start ports address).Paced prober :=
  ⟨spaced_nil prober, fun _ _ hphase => by injection hphase, fun _ => rfl⟩

/-- A task that is over starts no other probe. -/
theorem paced_of_over {t : ProbeTask} {outcome : Outcome} (hphase : t.phase = .ended outcome)
    (hspaced : Spaced prober t.probes) : t.Paced prober := by
  refine ⟨hspaced, ?_, ?_⟩
  · intro ends answer hprobing
    rw [hphase] at hprobing
    injection hprobing
  · intro hidle
    rw [hphase] at hidle
    injection hidle

/-- By induction on the ports: a probe that takes no time has been answered when the next starts. -/
theorem paced_tryPorts (now : Nat) (address : IpAddr) (ports : List Port)
    {probes : List (Nat × Endpoint)} (finished : Nat) (hspaced : Spaced prober probes)
    (hlast : Answered prober probes now) :
    (tryPorts prober now address ports probes finished).1.Paced prober := by
  induction ports generalizing probes finished with
  | nil => exact paced_of_over rfl hspaced
  | cons port ports ih =>
      have hmore := hspaced.snoc hlast (.of address port)
      simp only [tryPorts]
      split
      · refine ⟨hmore, ?_, fun hphase => by injection hphase⟩
        intro ends answer hphase
        injection hphase with hends
        exact hends ▸ answered_snoc (Nat.le_refl _)
      · rename_i hdelay
        split
        · exact paced_of_over rfl hmore
        · exact ih _ hmore (answered_snoc (by omega))

theorem Paced.poll {t : ProbeTask} (h : t.Paced prober) (now : Nat) :
    (t.poll prober now).1.Paced prober := by
  unfold ProbeTask.poll
  split
  · rename_i hphase
    rw [h.idle hphase]
    exact paced_tryPorts now _ _ _ (spaced_nil prober) (answered_nil prober now)
  · rename_i ends answer hphase
    split
    · exact h
    · rename_i hends
      split
      · exact paced_of_over rfl h.spaced
      · refine paced_tryPorts now _ _ _ h.spaced ?_
        intro i p hp hlast
        exact Nat.le_trans (h.underWay ends answer hphase i p hp hlast) (Nat.not_lt.mp hends)
  · exact h

theorem probes_cancel (t : ProbeTask) : t.cancel.probes = t.probes := by
  unfold cancel
  split <;> rfl

end ProbeTask

/-! ## A computed collection -/

namespace Collector

/-- What holds of every task at its start and is kept by polls holds when the wait is over. -/
theorem forall₂_waitFor {c : Collector} {R : IpAddr → ProbeTask → Prop}
    (hstart : ∀ ip, R ip (.start c.ports ip))
    (hpoll : ∀ ip t now, R ip t → R ip (t.poll c.prober now).1) (locals : List IpAddr) :
    List.Forall₂ R locals (c.waitFor locals).tasks := by
  have hpollAll : ∀ now {tasks}, List.Forall₂ R locals tasks →
      List.Forall₂ R locals (pollAll c.prober now tasks) := by
    intro now tasks h
    rw [pollAll, List.forall₂_map_right_iff]
    exact h.imp fun ip t => hpoll ip t now
  have hstarted : List.Forall₂ R locals (locals.map (ProbeTask.start c.ports)) := by
    rw [List.forall₂_map_right_iff, List.forall₂_same]
    exact fun ip _ => hstart ip
  rcases Nat.eq_zero_or_pos c.initial with hzero | hpos
  · rw [waitFor_of_zero hzero]
    exact hstarted
  · rw [waitFor_of_pos hpos]
    obtain ⟨last, tasks, tally, htasks, hend⟩ := @wait_induction c.prober c.grace
      (fun _ tasks _ => List.Forall₂ R locals tasks)
      (fun _ _ _ next h _ _ => hpollAll next h)
      0 _ ((Tally.start c.initial).receiveAll c.grace 0
        (sentAll c.prober 0 (locals.map (ProbeTask.start c.ports))))
      (hpollAll 0 hstarted)
    rcases hend with ⟨_, hwait⟩ | ⟨_, _, _, hwait⟩
    · rw [hwait]
      exact htasks
    · rw [hwait]
      exact htasks

section Filter

variable {R : IpAddr → ProbeTask → Prop} {locals : List IpAddr} {tasks : List ProbeTask}
  {ip : IpAddr}

theorem filter_probes_of_notMem (hhome : ∀ a t, R a t → t.AtHome a)
    (h : List.Forall₂ R locals tasks) (hip : ip ∉ locals) :
    (tasks.flatMap ProbeTask.probes).filter (fun p => p.2.ip = ip) = [] := by
  induction h with
  | nil => rfl
  | @cons a t locals tasks hhead htail ih =>
      rw [List.mem_cons, not_or] at hip
      have hprobes := (hhome a t hhead).probes
      rw [List.flatMap_cons, List.filter_append, ih hip.2, List.append_nil,
        List.filter_eq_nil_iff.mpr fun p hp => by simp [hprobes p hp, Ne.symm hip.1]]

/-- Where each task is at home, the probes from one address are those of its task. -/
theorem filter_probes_eq (hhome : ∀ a t, R a t → t.AtHome a) (h : List.Forall₂ R locals tasks)
    (hnodup : locals.Nodup) (hip : ip ∈ locals) :
    ∃ t, R ip t ∧
      (tasks.flatMap ProbeTask.probes).filter (fun p => p.2.ip = ip) = t.probes := by
  induction h with
  | nil => exact absurd hip List.not_mem_nil
  | @cons a t locals tasks hhead htail ih =>
      obtain ⟨hnew, hrest⟩ := List.nodup_cons.mp hnodup
      have hprobes := (hhome a t hhead).probes
      rw [List.flatMap_cons, List.filter_append]
      by_cases heq : a = ip
      · subst heq
        rw [filter_probes_of_notMem hhome htail hnew, List.append_nil,
          List.filter_eq_self.mpr fun p hp => by simp [hprobes p hp]]
        exact ⟨t, hhead, rfl⟩
      · rw [List.filter_eq_nil_iff.mpr fun p hp => by simp [hprobes p hp, heq], List.nil_append]
        exact ih hrest ((List.mem_cons.mp hip).resolve_left (Ne.symm heq))

end Filter

/-- **Each address of a computed collection walks through the ports of the collection.** -/
theorem walks_run (c : Collector) (locals : List IpAddr) (ip : IpAddr) :
    let probes := (c.run locals).probes.filter fun p => p.2.ip = ip
    Walks c.prober c.ports ip probes ∧ Spaced c.prober probes := by
  intro probes
  by_cases hip : ip ∈ locals
  · have hsome : distinct locals ≠ [] := List.ne_nil_of_mem (mem_distinct.mpr hip)
    have htasks := @forall₂_waitFor c
      (fun ip t => t.AtHome ip ∧ t.InTurn c.prober c.ports ∧ t.Paced c.prober)
      (fun ip => ⟨⟨rfl, fun _ hp => absurd hp List.not_mem_nil⟩,
        ProbeTask.inTurn_start c.prober c.ports ip, ProbeTask.paced_start c.prober c.ports ip⟩)
      (fun ip t now h => ⟨h.1.poll now, h.2.1.poll now, h.2.2.poll now⟩)
      (distinct locals)
    obtain ⟨t, ⟨hhome, hturn, hpaced⟩, hprobes⟩ := filter_probes_eq (fun _ _ h => h.1) htasks
      (nodup_distinct locals) (mem_distinct.mpr hip)
    have heq : probes = t.probes := by
      rw [← hprobes]
      show ((c.run locals).probes.filter fun p => p.2.ip = ip) = _
      rw [run_of_ne_nil hsome]
      show (((c.waitFor (distinct locals)).tasks.map ProbeTask.cancel).flatMap
        ProbeTask.probes).filter _ = _
      rw [List.flatMap_map]
      simp only [ProbeTask.probes_cancel]
    rw [heq, ← hhome.home]
    exact ⟨hturn.walks, hpaced.spaced⟩
  · -- Nothing is probed from any other address.
    have hnone : probes = [] := by
      rw [List.filter_eq_nil_iff]
      intro p hp hpip
      exact hip (of_decide_eq_true hpip ▸ ip_mem_of_probe c locals hp)
    rw [hnone]
    exact ⟨walks_nil c.prober c.ports ip, spaced_nil c.prober⟩

end Collector

/-! ## All probes of a resolution -/

/-- **There is one list of ports for all addresses.** Whatever is drawn, it is a list that the
    configuration offers; and whatever the host and the probes are like, each address walks through
    it. So it does in the report of a resolution, with its probes spaced as their delays require,
    and at every instant of a session, where its probes are those of one task and all but the last
    have ended. That task stops at the end of the list, or at an answer that decides, or because it
    is shut down. -/
theorem exists_offered_ports (config : Config) (draws : Draws)
    (ranged : ∀ r, config.portRange = some r → r.start < r.stop) :
    ∃ ports, config.Offers ports ∧ ∀ (interfaces : List InterfaceAddress) (prober : Prober),
      (∀ clock report, resolve config interfaces draws prober clock = .ok report → ∀ ip,
        let probes := report.probes.filter fun p => p.2.ip = ip
        Walks prober ports ip probes ∧ Spaced prober probes) ∧
      ∀ plan, config.plan interfaces draws = .ok plan →
        ∀ s, Session.Reachable (config.collector prober plan) plan.locals s →
          (s.workers.map fun w => w.task.address).Nodup ∧
            ∀ w ∈ s.workers, Walks prober ports w.task.address w.task.probes ∧
              w.task.probes.length ≤ w.task.finished + 1 ∧
              ∀ outcome, w.task.phase = .ended outcome →
                WalkEnd prober ports w.task.probes outcome := by
  obtain ⟨ports, hports⟩ := exists_ports draws ranged
  refine ⟨ports, Config.offers_iff.mpr ⟨draws, hports⟩, ?_⟩
  intro interfaces prober
  have hplanned : ∀ plan, config.plan interfaces draws = .ok plan → plan.ports = ports := by
    intro plan hplan
    obtain ⟨_, _, -, hports', -⟩ := Config.plan_eq_ok hplan
    exact Except.ok.inj (hports'.symm.trans hports)
  refine ⟨?_, ?_⟩
  · intro clock report hreport ip
    obtain ⟨plan, hplan, hcollect⟩ := resolve_eq_ok hreport
    rw [← hplanned plan hplan, collect_eq_ok hcollect]
    exact Collector.walks_run (config.collector prober plan) plan.locals ip
  · intro plan hplan s hs
    refine ⟨hs.inv.addresses_nodup, ?_⟩
    intro w hw
    have hturn := hs.inTurn w hw
    rw [← hplanned plan hplan]
    exact ⟨hturn.walks, hs.inv.probes_le_finished hw, hturn.ended⟩

/-- The first address of the host finds its first port taken at 1, and is answered from the second
    one. So it is in the report, and in a session that has come to its end. -/
theorem exists_offered_ports_raceHost :
    let address : IpAddr := .v4 ⟨10, 0, 0, 1⟩
    let clock := Clock.hourOld
    ∃ ports report, raceHost.Offers ports ∧
      resolve raceHost raceAddresses id Collector.race.prober clock = .ok report ∧
      report.probes.filter (fun p => p.2.ip = address) =
        [(0, .of address 5000), (1, .of address 5001)] ∧
      Walks Collector.race.prober ports address [(0, .of address 5000), (1, .of address 5001)] ∧
      ∃ s : Session, s.stage = .returned ∧
        ∀ w ∈ s.workers, Walks Collector.race.prober ports w.task.address w.task.probes := by
  intro address clock
  obtain ⟨ports, hoffers, hwalk⟩ := exists_offered_ports raceHost id (by
    intro r hr
    obtain rfl := Option.some.inj hr
    decide)
  obtain ⟨hreported, hsession⟩ := hwalk raceAddresses Collector.race.prober
  have hprobes : (resolve raceHost raceAddresses id Collector.race.prober clock).map
      (fun r => r.probes.filter fun p => p.2.ip = address) =
        .ok [(0, .of address 5000), (1, .of address 5001)] := by
    decide +kernel
  cases hresolved : resolve raceHost raceAddresses id Collector.race.prober clock with
  | error e =>
      rw [hresolved] at hprobes
      injection hprobes
  | ok report =>
      rw [hresolved] at hprobes
      have hprobes := Except.ok.inj hprobes
      obtain ⟨plan, hplan, -⟩ := resolve_eq_ok hresolved
      obtain ⟨s, hs, hreturned, -⟩ := Session.exists_session_run
        (raceHost.collector Collector.race.prober plan) plan.locals
      refine ⟨ports, report, hoffers, rfl, hprobes, ?_, s, hreturned, ?_⟩
      · exact hprobes ▸ (hreported clock report hresolved address).1
      · exact fun w hw => ((hsession plan hplan s hs).2 w hw).1

end NatDiscovery
