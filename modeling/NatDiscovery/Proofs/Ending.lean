import NatDiscovery.Collector

/-!
# `Proofs.Ending` — how a task ends when nothing stops it

`ProbeTask.poll` takes a task from one instant to the next. Its whole future is fixed from the start,
though: the ports are tried in order, each probe takes its time, a port that is taken leads to the
next, and any other answer ends the task, as does running out of ports. `endingFrom` says so
directly, and **`Tracks`** is the invariant that ties a polled task to its ending.

## Contents
- `Ending`, `endingFrom`: the ending by recursion on the ports
- `Tracks`, `tracks_tryPorts`, `tracks_poll`: a poll keeps to the ending, and sends its mapping at
  the instant of the ending and at no other
- `run_eq_endingFrom`: the task run by itself without a shutdown ends so
-/

namespace NatDiscovery

/-- When a task ends, and the mapping that it delivers then. -/
structure Ending where
  time : Nat
  mapping : Option Mapping
  deriving DecidableEq, Repr

namespace ProbeTask

/-- The ending of a task that goes through these ports from an instant on, `k` probes after its
    start. -/
def endingFrom (prober : Prober) (address : IpAddr) : List Port → Nat → Nat → Ending
  | [], now, _ => ⟨now, none⟩
  | port :: ports, now, k =>
    let step := prober (Endpoint.of address port) k
    match step.answer.outcome? with
    | some _ => ⟨now + step.delay, step.answer.mapping? address⟩
    | none => endingFrom prober address ports (now + step.delay) (k + 1)

theorem le_time_endingFrom (prober : Prober) (address : IpAddr) (ports : List Port) (now k : Nat) :
    now ≤ (endingFrom prober address ports now k).time := by
  induction ports generalizing now k with
  | nil => exact Nat.le_refl now
  | cons port ports ih =>
      simp only [endingFrom]
      split
      · exact Nat.le_add_right now _
      · exact Nat.le_trans (Nat.le_add_right now _) (ih _ _)

/-- The ending of a task whose probe under way ends at this instant with this answer. -/
def endingAfter (prober : Prober) (t : ProbeTask) (ends : Nat) (answer : Answer) : Ending :=
  match answer.outcome? with
  | some _ => ⟨ends, answer.mapping? t.address⟩
  | none => endingFrom prober t.address t.untried ends t.probes.length

theorem le_time_endingAfter (prober : Prober) (t : ProbeTask) (ends : Nat) (answer : Answer) :
    ends ≤ (endingAfter prober t ends answer).time := by
  unfold endingAfter
  split
  · exact Nat.le_refl ends
  · exact le_time_endingFrom prober t.address t.untried ends t.probes.length

/-- The probe of the next port leads to the ending. -/
theorem endingFrom_cons (prober : Prober) (t : ProbeTask) (port : Port) (now : Nat) {k : Nat}
    (hk : t.probes.length = k + 1) :
    let step := prober (Endpoint.of t.address port) k
    endingFrom prober t.address (port :: t.untried) now k =
      endingAfter prober t (now + step.delay) step.answer := by
  simp only [endingFrom, endingAfter, hk]

/-- **A task on its way.** At an instant, the task either has a probe under way that leads to the
    ending, or it is over, and the ending has been. -/
inductive Tracks (prober : Prober) (e : Ending) (now : Nat) (t : ProbeTask) : Prop where
  | probing {ends : Nat} {answer : Answer} (phase : t.phase = .probing ends answer)
      (later : now < ends) (leads : e = endingAfter prober t ends answer)
  | ended {outcome : Outcome} (phase : t.phase = .ended outcome) (past : e.time ≤ now)

variable {prober : Prober} {e : Ending} {now next : Nat} {t : ProbeTask}

/-- A task on its way wakes later, and no later than its ending. -/
theorem Tracks.wakes_bounds (h : Tracks prober e now t) {ends : Nat} (hw : t.wakes? = some ends) :
    now < ends ∧ ends ≤ e.time := by
  cases h with
  | probing phase later leads =>
      simp only [wakes?, phase, Option.some.injEq] at hw
      subst hw
      rw [leads]
      exact ⟨later, le_time_endingAfter ..⟩
  | ended phase past => simp [wakes?, phase] at hw

/-- A task on its way that wakes no more has ended. -/
theorem Tracks.past_of_wakes_none (h : Tracks prober e now t) (hw : t.wakes? = none) :
    e.time ≤ now := by
  cases h with
  | probing phase later leads => simp [wakes?, phase] at hw
  | ended phase past => exact past

/-- Going through the ports at an instant keeps to the ending, and sends its mapping only then. -/
theorem tracks_tryPorts (prober : Prober) (now : Nat) (address : IpAddr) (ports : List Port)
    (probes : List (Nat × Endpoint)) (finished : Nat) :
    let r := tryPorts prober now address ports probes finished
    let e := endingFrom prober address ports now probes.length
    Tracks prober e now r.1 ∧ r.2 = if e.time = now then e.mapping else none := by
  induction ports generalizing probes finished with
  | nil => exact ⟨.ended rfl (Nat.le_refl now), by simp [tryPorts, endingFrom]⟩
  | cons port ports ih =>
      have hlen : (probes ++ [(now, Endpoint.of address port)]).length = probes.length + 1 := by simp
      simp only [tryPorts]
      split
      · -- The probe takes time: the ending lies behind it.
        rename_i hdelay
        have hleads := endingFrom_cons prober
          (tryPorts prober now address (port :: ports) probes finished).1 port now
          (k := probes.length)
        simp only [tryPorts, if_pos hdelay] at hleads
        have hlater := (hleads hlen) ▸ le_time_endingAfter prober _ _ _
        refine ⟨.probing rfl (by omega) (hleads hlen), ?_⟩
        rw [if_neg (by omega)]
      · -- The probe is over at once: either the task is as well, or the next port follows.
        rename_i hdelay
        have hzero : (prober (Endpoint.of address port) probes.length).delay = 0 := by omega
        cases hout : (prober (Endpoint.of address port) probes.length).answer.outcome? with
        | some outcome =>
            simp only [endingFrom, hout, hzero, Nat.add_zero]
            exact ⟨.ended rfl (Nat.le_refl now), by simp⟩
        | none =>
            simp only [endingFrom, hout, hzero, Nat.add_zero]
            rw [← hlen]
            exact ih _ _

/-- **A poll keeps to the ending.** Polled no later than the end of its probe, a task stays on its
    way, and it sends a mapping at the instant of its ending and at no other. -/
theorem tracks_poll (h : Tracks prober e now t) (hnow : now < next)
    (hmin : ∀ ends, t.wakes? = some ends → next ≤ ends) :
    Tracks prober e next (t.poll prober next).1 ∧
      (t.poll prober next).2 = if e.time = next then e.mapping else none := by
  cases h with
  | @probing ends answer phase later leads =>
      have hle : next ≤ ends := hmin ends (by simp [wakes?, phase])
      have htime := le_time_endingAfter prober t ends answer
      rw [← leads] at htime
      unfold poll
      simp only [phase]
      split
      · rename_i hlt
        refine ⟨.probing phase hlt leads, ?_⟩
        rw [if_neg (by omega)]
      · -- The probe ends now.
        have heq : ends = next := by omega
        subst heq
        cases hout : answer.outcome? with
        | some outcome =>
            have he : e = ⟨ends, answer.mapping? t.address⟩ := by
              rw [leads]
              simp [endingAfter, hout]
            subst he
            exact ⟨.ended rfl (Nat.le_refl ends), by simp⟩
        | none =>
            have he : e = endingFrom prober t.address t.untried ends t.probes.length := by
              rw [leads]
              simp [endingAfter, hout]
            subst he
            exact tracks_tryPorts prober ends t.address t.untried t.probes (t.finished + 1)
  | ended phase past =>
      have hpoll : t.poll prober next = (t, none) := by simp [poll, phase]
      rw [hpoll, if_neg (by omega)]
      exact ⟨.ended phase (by omega), rfl⟩

/-- The first poll of a task sets it on its way. -/
theorem tracks_poll_start (prober : Prober) (ports : List Port) (address : IpAddr) :
    let r := (start ports address).poll prober 0
    let e := endingFrom prober address ports 0 0
    Tracks prober e 0 r.1 ∧ r.2 = if e.time = 0 then e.mapping else none :=
  tracks_tryPorts prober 0 address ports [] 0

/-- Driven on without a shutdown, a task on its way reaches its ending. -/
theorem drive_of_tracks {polled : ProbeTask × Option Mapping} (h : Tracks prober e now polled.1)
    (hsent : polled.2 = if e.time = now then e.mapping else none) (hle : now ≤ e.time) :
    (drive prober none now polled).elapsed = e.time ∧
      (drive prober none now polled).sent = e.mapping := by
  induction hweight : polled.1.weight using Nat.strongRecOn generalizing now polled with
  | _ weight ih =>
      rw [drive]
      split
      · -- No probe is under way: this is the instant of the ending.
        rename_i hwakes
        have hpast := h.past_of_wakes_none hwakes
        have htime : e.time = now := by omega
        exact ⟨htime.symm, by rw [hsent, if_pos htime]⟩
      · rename_i next hwakes
        obtain ⟨hlater, hends⟩ := h.wakes_bounds hwakes
        obtain ⟨htracks, hsent'⟩ := tracks_poll h hlater (by
          intro ends hends'
          rw [hwakes] at hends'
          injection hends' with hends'
          omega)
        have hdec := weight_poll_lt prober hwakes
        rw [hweight] at hdec
        exact ih _ hdec htracks hsent' hends rfl

/-- **The ending is what a task comes to by itself**: run without a shutdown and with an open
    receiver, it is over then and sends that. -/
theorem run_eq_endingFrom (prober : Prober) (ports : List Port) (address : IpAddr) :
    let r := run prober none true ports address
    let e := endingFrom prober address ports 0 0
    r.elapsed = e.time ∧ r.sent = e.mapping := by
  obtain ⟨htracks, hsent⟩ := tracks_poll_start prober ports address
  obtain ⟨helapsed, hmapping⟩ := drive_of_tracks htracks hsent (Nat.zero_le _)
  simp only [run, reduceCtorEq, if_false]
  refine ⟨helapsed, ?_⟩
  rw [hmapping]
  cases (endingFrom prober address ports 0 0).mapping with
  | none => rfl
  | some m => rfl

end ProbeTask

end NatDiscovery
