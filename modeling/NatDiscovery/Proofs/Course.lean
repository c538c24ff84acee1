import Mathlib.Data.List.Basic
import NatDiscovery.Proofs.Alone

/-!
# `Proofs.Course` — the whole course of a task by itself

A task by itself is driven from the end of one probe to the end of the next. Its course can be told
without driving it: **the probes start one after the other at the sums of the delays before them**,
up to the first one that does anything but find its port taken, and as long as the shutdown has not
come. That probe decides how the task ends, if the shutdown is not there before its answer.

A shutdown at the very instant of an answer counts as before it, so no shutdown need be left out.

## Contents
- `script`, `startOf`, `decisive`, `deciding`, `endOf`: what the steps of the probes say beforehand
- `inTime`: an instant that the shutdown does not forestall
- `drive_of_late`, `drive_of_decided`, `drive_of_taken`: what the next port comes to
- `Course`, `drive_course`: the course from any port on, by induction on the ports
- `run_course`: the course of a whole run
-/

namespace NatDiscovery

/-! ## Answers -/

/-- The outcome of a task that this answer decides. -/
def Answer.conclusion : Answer → Outcome
  | .found _ => .resolved
  | .failed _ => .failed
  | .crashed => .crashed

theorem Answer.outcome?_of_taken {a : Answer} (h : a = .failed .addressInUse) :
    a.outcome? = none := by
  rw [h]
  rfl

/-- Any answer but that the port is taken decides. -/
theorem Answer.outcome?_of_ne {a : Answer} (h : a ≠ .failed .addressInUse) :
    a.outcome? = some a.conclusion := by
  cases a with
  | found external => rfl
  | failed cause =>
      have hcause : cause.isAddressInUse ≠ true := by
        rw [ne_eq, NetworkError.isAddressInUse_iff]
        exact fun hc => h (congrArg _ hc)
      simp only [outcome?, if_neg hcause, conclusion]
  | crashed => rfl

namespace ProbeTask

/-! ## What the steps say beforehand -/

/-- The steps of the probes from these ports, the first of which has `k` probes before it. -/
def script (prober : Prober) (address : IpAddr) (ports : List Port) (k : Nat) : List Step :=
  ports.mapIdx fun i port => prober (.of address port) (k + i)

/-- When the probe of this index starts if the first one does now, and each leads to the next. -/
def startOf (now : Nat) (steps : List Step) (k : Nat) : Nat :=
  now + ((steps.take k).map Step.delay).sum

/-- The index of the first probe that does not find its port taken, or else the number of probes. -/
def decisive (steps : List Step) : Nat :=
  steps.findIdx fun step => step.answer ≠ .failed .addressInUse

/-- The instant of the last answer, if nothing stops the task. -/
def endOf (now : Nat) (steps : List Step) : Nat :=
  startOf now steps (decisive steps + 1)

/-- The step that decides, if there is one. -/
def deciding (steps : List Step) : Option Step :=
  steps[decisive steps]?

/-- How the task ends that this step decides, or none. -/
def verdict : Option Step → Outcome
  | some step => step.answer.conclusion
  | none => .exhausted

/-- The mapping that the task sends that this step decides, or none. -/
def delivery (address : IpAddr) (decision : Option Step) : Option Mapping :=
  decision.bind fun step => step.answer.mapping? address

section Steps

variable {prober : Prober} {address : IpAddr} {port : Port} {ports : List Port} {now k : Nat}
  {step : Step} {steps : List Step}

theorem script_cons :
    script prober address (port :: ports) k =
      prober (.of address port) k :: script prober address ports (k + 1) := by
  simp only [script, List.mapIdx_cons, Nat.add_zero, Nat.add_assoc, Nat.add_comm 1]

theorem length_script : (script prober address ports k).length = ports.length :=
  List.length_mapIdx

@[simp] theorem startOf_zero : startOf now steps 0 = now := by
  simp [startOf]

@[simp] theorem startOf_nil : startOf now [] k = now := by
  simp [startOf]

@[simp] theorem startOf_cons_succ :
    startOf now (step :: steps) (k + 1) = startOf (now + step.delay) steps k := by
  simp [startOf, Nat.add_assoc]

theorem le_startOf : now ≤ startOf now steps k :=
  Nat.le_add_right _ _

/-- A port that is taken leaves the decision to the others. -/
theorem decisive_of_taken (h : step.answer = .failed .addressInUse) :
    decisive (step :: steps) = decisive steps + 1 := by
  simp [decisive, List.findIdx_cons, h]

theorem decisive_of_ne (h : step.answer ≠ .failed .addressInUse) :
    decisive (step :: steps) = 0 := by
  simp [decisive, List.findIdx_cons, h]

theorem endOf_of_taken (h : step.answer = .failed .addressInUse) :
    endOf now (step :: steps) = endOf (now + step.delay) steps := by
  rw [endOf, decisive_of_taken h, startOf_cons_succ, endOf]

theorem endOf_of_ne (h : step.answer ≠ .failed .addressInUse) :
    endOf now (step :: steps) = now + step.delay := by
  rw [endOf, decisive_of_ne h, startOf_cons_succ, startOf_zero]

/-- The last answer comes no earlier than the first. -/
theorem le_endOf_cons : now + step.delay ≤ endOf now (step :: steps) := by
  rw [endOf, startOf_cons_succ]
  exact le_startOf

theorem deciding_of_taken (h : step.answer = .failed .addressInUse) :
    deciding (step :: steps) = deciding steps := by
  rw [deciding, decisive_of_taken h, List.getElem?_cons_succ, deciding]

theorem deciding_of_ne (h : step.answer ≠ .failed .addressInUse) :
    deciding (step :: steps) = some step := by
  rw [deciding, decisive_of_ne h, List.getElem?_cons_zero]

/-- When all ports are taken, no step decides. -/
theorem deciding_of_all_taken (h : decisive steps = steps.length) : deciding steps = none := by
  rw [deciding, h, List.getElem?_eq_none (Nat.le_refl _)]

theorem endOf_of_all_taken (h : decisive steps = steps.length) :
    endOf now steps = startOf now steps (decisive steps) := by
  rw [endOf, startOf, startOf, h, List.take_length, List.take_of_length_le (Nat.le_succ _)]

theorem endOf_of_deciding (h : deciding steps = some step) :
    endOf now steps = startOf now steps (decisive steps) + step.delay := by
  rw [endOf, startOf, startOf, List.take_add_one, show steps[decisive steps]? = some step from h]
  simp [Nat.add_assoc]

/-- All ports are taken, or one of the steps decides. -/
theorem all_taken_or_deciding (steps : List Step) :
    decisive steps = steps.length ∨ ∃ step, deciding steps = some step := by
  rcases Nat.eq_or_lt_of_le (List.findIdx_le_length : decisive steps ≤ steps.length) with h | h
  · exact Or.inl h
  · exact Or.inr ⟨_, List.getElem?_eq_getElem h⟩

theorem delivery_eq_some_iff {decision : Option Step} {m : Mapping} :
    delivery address decision = some m ↔
      ∃ delay external, decision = some ⟨delay, .found external⟩ ∧ m = ⟨external, address⟩ := by
  rw [delivery, Option.bind_eq_some_iff]
  constructor
  · rintro ⟨⟨delay, answer⟩, hstep, hmapping⟩
    cases answer with
    | found external =>
        injection hmapping with hmapping
        exact ⟨delay, external, hstep, hmapping.symm⟩
    | failed cause => injection hmapping
    | crashed => injection hmapping
  · rintro ⟨delay, external, hstep, rfl⟩
    exact ⟨⟨delay, .found external⟩, hstep, rfl⟩

end Steps

/-! ## The shutdown -/

/-- The instant comes before the shutdown, if there is one at all. -/
def inTime (shutdown : Option Nat) (t : Nat) : Bool :=
  shutdown.all fun stop => t < stop

section Shutdown

variable {shutdown : Option Nat} {stop t u : Nat}

theorem inTime_some : inTime (some stop) t = true ↔ t < stop := by
  simp [inTime]

theorem inTime_of_le (h : inTime shutdown u = true) (hle : t ≤ u) : inTime shutdown t = true := by
  cases shutdown with
  | none => rfl
  | some stop => exact inTime_some.mpr (Nat.lt_of_le_of_lt hle (inTime_some.mp h))

theorem not_inTime_iff : ¬inTime shutdown t = true ↔ ∃ stop, shutdown = some stop ∧ stop ≤ t := by
  cases shutdown with
  | none => simp [inTime]
  | some stop => simp [inTime]

end Shutdown

/-! ## The next port

What driving a task on comes to that stands before a port: the shutdown comes before the answer of
its probe, or the answer decides, or the port is taken and the next one follows. Whether the probe
takes any time makes no difference. -/

section Port

variable {prober : Prober} {shutdown : Option Nat} {stop now next : Nat}

/-- A task with a probe under way goes on to the end of that when there is time. -/
theorem drive_of_wakes {polled : ProbeTask × Option Mapping} (h : polled.1.wakes? = some next)
    (htime : inTime shutdown next = true) :
    drive prober shutdown now polled = drive prober shutdown next (polled.1.poll prober next) := by
  cases shutdown with
  | none =>
      rw [drive]
      split
      · rename_i hnone
        rw [h] at hnone
        injection hnone
      · rename_i next' hnext
        rw [h] at hnext
        injection hnext with hnext
        subst hnext
        rfl
  | some stop => rw [drive_of_some h, if_neg (Nat.not_le.mpr (inTime_some.mp htime))]

variable (prober) (address : IpAddr) (port : Port) (ports : List Port)
  (probes : List (Nat × Endpoint)) (finished : Nat)

theorem drive_of_late (hnow : now < stop)
    (hlate : stop ≤ now + (prober (.of address port) probes.length).delay) :
    drive prober (some stop) now (tryPorts prober now address (port :: ports) probes finished) =
      ⟨stop, ⟨address, ports, .ended .cancelled, probes ++ [(now, .of address port)],
        finished + 1⟩, none⟩ := by
  have hdelay : 0 < (prober (.of address port) probes.length).delay := by omega
  simp only [tryPorts, if_pos hdelay]
  rw [drive_of_some (by rfl), if_pos hlate]
  rfl

theorem drive_of_decided {outcome : Outcome}
    (htime : inTime shutdown (now + (prober (.of address port) probes.length).delay) = true)
    (hout : (prober (.of address port) probes.length).answer.outcome? = some outcome) :
    drive prober shutdown now (tryPorts prober now address (port :: ports) probes finished) =
      ⟨now + (prober (.of address port) probes.length).delay,
        ⟨address, ports, .ended outcome, probes ++ [(now, .of address port)], finished + 1⟩,
        (prober (.of address port) probes.length).answer.mapping? address⟩ := by
  simp only [tryPorts]
  split
  · rw [drive_of_wakes (by rfl) htime, drive_of_over]
    · simp only [poll, Nat.lt_irrefl, if_false, hout]
    · simp only [poll, Nat.lt_irrefl, if_false, hout, wakes?]
  · rename_i hdelay
    rw [Nat.eq_zero_of_not_pos hdelay, hout]
    exact drive_of_over rfl

theorem drive_of_taken
    (htime : inTime shutdown (now + (prober (.of address port) probes.length).delay) = true)
    (hout : (prober (.of address port) probes.length).answer.outcome? = none) :
    drive prober shutdown now (tryPorts prober now address (port :: ports) probes finished) =
      let next := now + (prober (.of address port) probes.length).delay
      drive prober shutdown next
        (tryPorts prober next address ports (probes ++ [(now, .of address port)])
          (finished + 1)) := by
  rw [tryPorts]
  simp only
  split
  · rw [drive_of_wakes (by rfl) htime]
    simp only [poll, Nat.lt_irrefl, if_false, hout]
  · rename_i hdelay
    rw [Nat.eq_zero_of_not_pos hdelay, hout]
    rfl

end Port

/-! ## The course -/

/-- **The course of a task from some ports on**, under a shutdown that is yet to come: which probes
    it starts, and when; how it ends, and when; and what it sends. -/
structure Course (shutdown : Option Nat) (now : Nat) (address : IpAddr) (ports : List Port)
    (steps : List Step) (started : List (Nat × Endpoint)) (r : Run) : Prop where
  started : ∀ k, started[k]? =
    if k ≤ decisive steps ∧ inTime shutdown (startOf now steps k) then
      ports[k]?.map fun port => (startOf now steps k, .of address port)
    else none
  concluded : inTime shutdown (endOf now steps) = true →
    r.task.phase = .ended (verdict (deciding steps)) ∧ r.elapsed = endOf now steps ∧
      r.sent = delivery address (deciding steps)
  cancelled : ¬inTime shutdown (endOf now steps) = true →
    r.task.phase = .ended .cancelled ∧ shutdown = some r.elapsed ∧ r.sent = none

section Course

variable {shutdown : Option Nat} {stop now : Nat} {address : IpAddr} {port : Port}
  {ports : List Port} {step : Step} {steps : List Step} {started : List (Nat × Endpoint)} {r : Run}

/-- The first probe of all starts now, and is the only one unless it leads to the next in time. -/
theorem started_single (hnow : inTime shutdown now = true)
    (honly : step.answer = .failed .addressInUse → ¬inTime shutdown (now + step.delay) = true)
    (k : Nat) :
    [(now, Endpoint.of address port)][k]? =
      if k ≤ decisive (step :: steps) ∧ inTime shutdown (startOf now (step :: steps) k) then
        (port :: ports)[k]?.map fun port => (startOf now (step :: steps) k, .of address port)
      else none := by
  cases k with
  | zero => simp [hnow]
  | succ k =>
      rw [if_neg]
      · rfl
      · rintro ⟨hle, htime⟩
        by_cases htaken : step.answer = .failed .addressInUse
        · rw [startOf_cons_succ] at htime
          exact honly htaken (inTime_of_le htime le_startOf)
        · rw [decisive_of_ne htaken] at hle
          omega

theorem course_late (hnow : now < stop) (hlate : stop ≤ now + step.delay) {task : ProbeTask}
    (hphase : task.phase = .ended .cancelled) :
    Course (some stop) now address (port :: ports) (step :: steps)
      [(now, .of address port)] ⟨stop, task, none⟩ := by
  have hout : ∀ t, now + step.delay ≤ t → ¬inTime (some stop) t = true := fun t ht =>
    not_inTime_iff.mpr ⟨stop, rfl, Nat.le_trans hlate ht⟩
  refine ⟨started_single (inTime_some.mpr hnow) fun _ => hout _ (Nat.le_refl _), ?_, ?_⟩
  · intro htime
    exact absurd htime (hout _ le_endOf_cons)
  · intro _
    exact ⟨hphase, rfl, rfl⟩

theorem course_decided (hnow : inTime shutdown now = true)
    (htime : inTime shutdown (now + step.delay) = true)
    (hne : step.answer ≠ .failed .addressInUse) {task : ProbeTask}
    (hphase : task.phase = .ended step.answer.conclusion) :
    Course shutdown now address (port :: ports) (step :: steps) [(now, .of address port)]
      ⟨now + step.delay, task, step.answer.mapping? address⟩ := by
  refine ⟨started_single hnow fun htaken => absurd htaken hne, ?_, ?_⟩
  · intro _
    rw [deciding_of_ne hne, endOf_of_ne hne]
    exact ⟨hphase, rfl, rfl⟩
  · intro hlate
    rw [endOf_of_ne hne] at hlate
    exact absurd htime hlate

/-- A port that is taken puts its probe before the course of the others. -/
theorem Course.cons (h : Course shutdown (now + step.delay) address ports steps started r)
    (hnow : inTime shutdown now = true) (htaken : step.answer = .failed .addressInUse) :
    Course shutdown now address (port :: ports) (step :: steps)
      ((now, .of address port) :: started) r := by
  refine ⟨?_, ?_, ?_⟩
  · intro k
    cases k with
    | zero => simp [hnow]
    | succ k =>
        simp only [List.getElem?_cons_succ, startOf_cons_succ, decisive_of_taken htaken,
          Nat.add_le_add_iff_right]
        exact h.started k
  · rw [endOf_of_taken htaken, deciding_of_taken htaken]
    exact h.concluded
  · rw [endOf_of_taken htaken]
    exact h.cancelled

/-- **Driven on from some ports, a task takes its course.** By induction on the ports: each of them
    is late, or decides, or is taken. -/
theorem drive_course (prober : Prober) (address : IpAddr) (ports : List Port)
    (hnow : inTime shutdown now = true) (probes : List (Nat × Endpoint)) (finished : Nat) :
    let r := drive prober shutdown now (tryPorts prober now address ports probes finished)
    ∃ started, r.task.probes = probes ++ started ∧
      Course shutdown now address ports (script prober address ports probes.length) started r := by
  induction ports generalizing now probes finished with
  | nil =>
      refine ⟨[], ?_, ?_⟩
      · rw [List.append_nil, tryPorts, drive_of_over rfl]
      · rw [tryPorts, drive_of_over rfl]
        refine ⟨fun k => by simp, fun _ => ⟨rfl, ?_, rfl⟩, fun hlate => absurd ?_ hlate⟩
        · exact startOf_nil.symm
        · exact (congrArg _ startOf_nil).trans hnow
  | cons port ports ih =>
      rw [script_cons]
      by_cases htime :
          inTime shutdown (now + (prober (.of address port) probes.length).delay) = true
      · by_cases htaken :
            (prober (.of address port) probes.length).answer = .failed .addressInUse
        · -- The course of the others begins with the answer, one more probe behind it.
          rw [drive_of_taken prober address port ports probes finished htime
            (Answer.outcome?_of_taken htaken)]
          obtain ⟨started, hprobes, hcourse⟩ :=
            ih htime (probes ++ [(now, .of address port)]) (finished + 1)
          rw [List.length_append, List.length_singleton] at hcourse
          refine ⟨(now, .of address port) :: started, ?_, hcourse.cons hnow htaken⟩
          rw [hprobes, List.append_assoc, List.singleton_append]
        · -- The answer comes in time and decides.
          rw [drive_of_decided prober address port ports probes finished htime
            (Answer.outcome?_of_ne htaken)]
          exact ⟨_, rfl, course_decided hnow htime htaken rfl⟩
      · -- The shutdown comes before the answer.
        obtain ⟨stop, rfl, hlate⟩ := not_inTime_iff.mp htime
        rw [drive_of_late prober address port ports probes finished (inTime_some.mp hnow) hlate]
        exact ⟨_, rfl, course_late (inTime_some.mp hnow) hlate rfl⟩

end Course

/-! ## A whole run -/

namespace Course

variable {shutdown : Option Nat} {now : Nat} {address : IpAddr} {ports : List Port}
  {steps : List Step} {started : List (Nat × Endpoint)} {r : Run}

theorem exhausted (h : Course shutdown now address ports steps started r)
    (hall : decisive steps = steps.length)
    (htime : inTime shutdown (startOf now steps (decisive steps)) = true) :
    r.task.phase = .ended .exhausted ∧ r.elapsed = startOf now steps (decisive steps) := by
  rw [← endOf_of_all_taken hall] at htime ⊢
  obtain ⟨hphase, helapsed, _⟩ := h.concluded htime
  rw [deciding_of_all_taken hall] at hphase
  exact ⟨hphase, helapsed⟩

theorem decided (h : Course shutdown now address ports steps started r) {step : Step}
    (hstep : deciding steps = some step)
    (htime : inTime shutdown (startOf now steps (decisive steps) + step.delay) = true) :
    r.task.phase = .ended step.answer.conclusion ∧
      r.elapsed = startOf now steps (decisive steps) + step.delay := by
  rw [← endOf_of_deciding hstep] at htime ⊢
  obtain ⟨hphase, helapsed, _⟩ := h.concluded htime
  rw [hstep] at hphase
  exact ⟨hphase, helapsed⟩

/-- A task that neither runs out of ports nor hears a decisive answer in time is cancelled. -/
theorem otherwise (h : Course shutdown now address ports steps started r)
    (hports : ¬(decisive steps = steps.length ∧
      inTime shutdown (startOf now steps (decisive steps)) = true))
    (hanswer : ¬∃ step, deciding steps = some step ∧
      inTime shutdown (startOf now steps (decisive steps) + step.delay) = true) :
    r.task.phase = .ended .cancelled ∧ shutdown = some r.elapsed := by
  have hlate : ¬inTime shutdown (endOf now steps) = true := by
    intro htime
    rcases all_taken_or_deciding steps with hall | ⟨step, hstep⟩
    · rw [endOf_of_all_taken hall] at htime
      exact hports ⟨hall, htime⟩
    · rw [endOf_of_deciding hstep] at htime
      exact hanswer ⟨step, hstep, htime⟩
  obtain ⟨hphase, hshutdown, _⟩ := h.cancelled hlate
  exact ⟨hphase, hshutdown⟩

/-- A mapping is sent exactly when the task ends resolved. -/
theorem sent_iff (h : Course shutdown now address ports steps started r) {m : Mapping} :
    r.sent = some m ↔
      r.task.phase = .ended .resolved ∧
        ∃ delay external, deciding steps = some ⟨delay, .found external⟩ ∧
          m = ⟨external, address⟩ := by
  by_cases htime : inTime shutdown (endOf now steps) = true
  · obtain ⟨hphase, _, hsent⟩ := h.concluded htime
    rw [hsent, delivery_eq_some_iff]
    refine ⟨fun hfound => ⟨?_, hfound⟩, fun hfound => hfound.2⟩
    obtain ⟨delay, external, hstep, _⟩ := hfound
    rw [hphase, hstep]
    rfl
  · obtain ⟨hphase, _, hsent⟩ := h.cancelled htime
    rw [hsent, hphase]
    simp

end Course

/-- A shutdown before the start leaves a task without probes; without ports it is exhausted all the
    same. -/
theorem run_of_shutdown_zero (prober : Prober) (listening : Bool) (ports : List Port)
    (address : IpAddr) :
    run prober (some 0) listening ports address =
      ⟨0, ⟨address, ports, .ended (if ports.isEmpty then .exhausted else .cancelled), [], 0⟩,
        none⟩ := by
  rw [run, if_pos rfl]
  rfl

/-- Unless the shutdown is there before the start, the whole run takes its course. -/
theorem course_run (prober : Prober) {shutdown : Option Nat} (hstart : inTime shutdown 0 = true)
    (listening : Bool) (ports : List Port) (address : IpAddr) :
    ∃ r, Course shutdown 0 address ports (script prober address ports 0) r.task.probes r ∧
      run prober shutdown listening ports address =
        { r with sent := r.sent.filter fun _ => listening } := by
  have hnonzero : shutdown ≠ some 0 := by
    rintro rfl
    exact Nat.lt_irrefl 0 (inTime_some.mp hstart)
  obtain ⟨started, hprobes, hcourse⟩ :=
    drive_course prober address ports hstart [] 0
  rw [List.nil_append] at hprobes
  refine ⟨drive prober shutdown 0 ((start ports address).poll prober 0), ?_, ?_⟩
  · exact hprobes ▸ hcourse
  · rw [run, if_neg hnonzero]

/-- **The course of a task by itself.** The probe of a port starts when all before it have had their
    answers, if these say that their ports are taken and the shutdown has not come; no other probe
    starts. The task runs out of ports when all are taken and the last answer is in time, or when
    there is none. Else the first other answer decides, if it is in time; and if it is not, the task
    is cancelled at the shutdown. It sends the mapping that was found when it ends resolved with the
    receiver still open, and nothing otherwise. -/
theorem run_course (prober : Prober) (shutdown : Option Nat) (listening : Bool)
    (ports : List Port) (address : IpAddr) :
    let steps := script prober address ports 0
    let last := decisive steps
    let r := run prober shutdown listening ports address
    (∀ k, r.task.probes[k]? =
        if k ≤ last ∧ inTime shutdown (startOf 0 steps k) then
          ports[k]?.map fun port => (startOf 0 steps k, .of address port)
        else none) ∧
      (last = ports.length → ports = [] ∨ inTime shutdown (startOf 0 steps last) →
        r.task.phase = .ended .exhausted ∧ r.elapsed = startOf 0 steps last) ∧
      (∀ step, steps[last]? = some step → inTime shutdown (startOf 0 steps last + step.delay) →
        r.task.phase = .ended step.answer.conclusion ∧
          r.elapsed = startOf 0 steps last + step.delay) ∧
      (¬(last = ports.length ∧ (ports = [] ∨ inTime shutdown (startOf 0 steps last))) →
        (¬∃ step, steps[last]? = some step ∧
          inTime shutdown (startOf 0 steps last + step.delay)) →
        r.task.phase = .ended .cancelled ∧ shutdown = some r.elapsed) ∧
      ∀ m, r.sent = some m ↔
        listening = true ∧ r.task.phase = .ended .resolved ∧
          ∃ delay external, steps[last]? = some ⟨delay, .found external⟩ ∧
            m = ⟨external, address⟩ := by
  intro steps last r
  have hlength : steps.length = ports.length := length_script
  by_cases hstart : inTime shutdown 0 = true
  · obtain ⟨r₀, hcourse, hr⟩ := course_run prober hstart listening ports address
    have hrun : r = { r₀ with sent := r₀.sent.filter fun _ => listening } := hr
    rw [hrun, ← hlength]
    refine ⟨hcourse.started, ?_, fun step hstep htime => hcourse.decided hstep htime, ?_, ?_⟩
    · rintro hall (rfl | htime)
      · exact hcourse.exhausted hall (by simpa [steps, script] using hstart)
      · exact hcourse.exhausted hall htime
    · intro hports hanswer
      exact hcourse.otherwise (fun h => hports ⟨h.1, Or.inr h.2⟩) hanswer
    · intro m
      rw [Option.filter_eq_some_iff, hcourse.sent_iff]
      tauto
  · -- The shutdown is there before the start.
    obtain ⟨stop, rfl, hzero⟩ := not_inTime_iff.mp hstart
    obtain rfl : stop = 0 := Nat.le_zero.mp hzero
    have hlate : ∀ t, ¬inTime (some 0) t = true := fun t =>
      not_inTime_iff.mpr ⟨0, rfl, Nat.zero_le t⟩
    have hrun : r = _ := run_of_shutdown_zero prober listening ports address
    rw [hrun]
    refine ⟨?_, ?_, ?_, ?_, ?_⟩
    · intro k
      exact (if_neg fun h => hlate _ h.2).symm
    · rintro _ (rfl | htime)
      · exact ⟨rfl, rfl⟩
      · exact absurd htime (hlate _)
    · intro step _ htime
      exact absurd htime (hlate _)
    · intro hports _
      have hsome : ports ≠ [] := by
        rintro rfl
        exact hports ⟨rfl, Or.inl rfl⟩
      simp [hsome]
    · intro m
      by_cases hnone : ports = []
      · simp [hnone]
      · simp [hnone]

/-- A task that finds two ports taken, one of which comes up again as the third, and is answered from
    that. -/
def busyPorts : List Step :=
  [⟨2, .failed .addressInUse⟩, ⟨0, .failed .addressInUse⟩,
    ⟨3, .found (.v4 ⟨203, 0, 113, 9⟩)⟩, ⟨1, .crashed⟩]

/-- By itself the task is resolved at 5. With a shutdown at 4 it is cancelled then, and has started
    its first three probes. -/
theorem run_course_busyPorts :
    let address : IpAddr := .v4 ⟨10, 0, 0, 1⟩
    let ports : List Port := [5000, 5001, 5000, 5002]
    let prober : Prober := fun _ k => busyPorts.getD k ⟨0, .crashed⟩
    let free := run prober none true ports address
    let stopped := run prober (some 4) true ports address
    free.task.phase = .ended .resolved ∧ free.elapsed = 5 ∧
      free.sent = some ⟨.v4 ⟨203, 0, 113, 9⟩, address⟩ ∧
      stopped.task.phase = .ended .cancelled ∧ stopped.elapsed = 4 ∧
      stopped.task.probes[2]? = some (2, .of address 5000) ∧
      stopped.task.probes[3]? = none := by
  intro address ports prober free stopped
  obtain ⟨_, _, hdecided, _, hsent⟩ := run_course prober none true ports address
  obtain ⟨hstarted, _, _, hcancelled, _⟩ := run_course prober (some 4) true ports address
  obtain ⟨hphase, helapsed⟩ := hdecided ⟨3, .found (.v4 ⟨203, 0, 113, 9⟩)⟩ (by decide) rfl
  obtain ⟨hphase', hshutdown⟩ := hcancelled (by decide) (by
    rintro ⟨step, hstep, htime⟩
    obtain rfl : _ = step := Option.some.inj hstep
    exact absurd htime (by decide))
  refine ⟨hphase, helapsed, ?_, hphase', (Option.some.inj hshutdown).symm, ?_, ?_⟩
  · exact (hsent _).mpr ⟨rfl, hphase, 3, _, by decide, rfl⟩
  · rw [hstarted]
    decide
  · rw [hstarted]
    decide

end ProbeTask

end NatDiscovery
