import Mathlib.Algebra.GroupWithZero.Nat
import Mathlib.Data.List.Nodup
import NatDiscovery.Proofs.Receipts

/-!
# `Proofs.Alone` — each task of a collection, and the same task by itself

The tasks of a collection share a channel and a shutdown, and the instant of the shutdown depends on
all of them. Nevertheless **each task does exactly what it would do by itself**, on the same ports,
with the shutdown at the deadline in which the collection ends: it starts the same probes at the
same instants, and it sends a mapping exactly when the collector receives one from it.

A collection may be over before its deadline, when every task has ended. A task by itself has ended
by then as well, so the shutdown that would come later changes nothing.

## Contents
- `ProbeTask.drive_of_over`, `drive_of_some`, `run_keeps`: a task by itself
- `ProbeTask.run_shutdown`: when it ends under a shutdown, and what it sends
- `ProbeTask.Abreast`: a task on the way of its run by itself
- `Collector.alone`, `tasks_waitFor_cancel`: all tasks of a collection
- `probes_run`, `finished_run`, `sent_alone_iff`, `collect_eq_alone`: probes, receipts and counts
- `not_forall_alone`: a wait that no clock can express
-/

namespace NatDiscovery

namespace ProbeTask

variable {prober : Prober} {stop now next : Nat}

/-! ## A task by itself -/

/-- A task that wakes no more has come to its end. -/
theorem drive_of_over {shutdown : Option Nat} {polled : ProbeTask × Option Mapping}
    (h : polled.1.wakes? = none) :
    drive prober shutdown now polled = ⟨now, polled.1, polled.2⟩ := by
  rw [drive]
  split
  · rfl
  · rename_i next hnext
    rw [h] at hnext
    injection hnext

/-- A task with a probe under way goes on to the end of that, unless the shutdown comes first. -/
theorem drive_of_some {polled : ProbeTask × Option Mapping} (h : polled.1.wakes? = some next) :
    drive prober (some stop) now polled =
      if stop ≤ next then ⟨stop, polled.1.cancel, none⟩
      else drive prober (some stop) next (polled.1.poll prober next) := by
  rw [drive]
  split
  · rename_i hnone
    rw [h] at hnone
    injection hnone
  · rename_i next' hnext
    rw [h] at hnext
    injection hnext with hnext
    subst hnext
    rfl

/-- What polls and a cancellation keep holds of a task when it has run by itself. -/
theorem run_keeps {P : ProbeTask → Prop} (hpoll : ∀ t now, P t → P (t.poll prober now).1)
    (hcancel : ∀ t, P t → P t.cancel) (shutdown : Option Nat) (listening : Bool)
    {ports : List Port} {address : IpAddr} (h : P (start ports address)) :
    P (run prober shutdown listening ports address).task := by
  have hdrive : ∀ now polled, P polled.1 → P (drive prober shutdown now polled).task := by
    intro now polled hpolled
    fun_induction drive with
    | case1 shutdown now polled isOver => exact hpolled
    | case2 now polled next wakes hdec ih => exact ih (hpoll _ _ hpolled)
    | case3 now polled next wakes hdec stop late => exact hcancel _ hpolled
    | case4 now polled next wakes hdec stop early ih => exact ih (hpoll _ _ hpolled)
  unfold run
  simp only
  split
  · exact hcancel _ h
  · exact hdrive _ _ (hpoll _ _ h)

/-- Driven on under a shutdown, a task on its way reaches its ending if that comes first, and sends
    its mapping only then. -/
theorem drive_shutdown_of_tracks {e : Ending} {polled : ProbeTask × Option Mapping}
    (h : Tracks prober e now polled.1)
    (hsent : polled.2 = if e.time = now then e.mapping else none) (hle : now ≤ e.time)
    (hnow : now < stop) :
    (drive prober (some stop) now polled).elapsed = min e.time stop ∧
      (drive prober (some stop) now polled).sent = if e.time < stop then e.mapping else none := by
  generalize hshut : some stop = shutdown
  fun_induction drive prober shutdown now polled with
  | case1 shutdown now polled isOver =>
      -- No probe is under way: this is the instant of the ending.
      have htime : e.time = now := Nat.le_antisymm (h.past_of_wakes_none isOver) hle
      refine ⟨?_, ?_⟩
      · show now = min e.time stop
        omega
      · show polled.2 = _
        rw [hsent, if_pos htime, if_pos (htime ▸ hnow)]
  | case2 now polled next wakes hdec ih => injection hshut
  | case3 now polled next wakes hdec stop' late =>
      -- The shutdown comes before the end of the probe, and the ending no earlier than that.
      injection hshut with hshut
      subst hshut
      obtain ⟨_, hends⟩ := h.wakes_bounds wakes
      refine ⟨?_, ?_⟩
      · show stop = min e.time stop
        omega
      · show none = _
        rw [if_neg (by omega)]
  | case4 now polled next wakes hdec stop' early ih =>
      injection hshut with hshut
      subst hshut
      obtain ⟨hlater, hends⟩ := h.wakes_bounds wakes
      have hmin : ∀ ends, polled.1.wakes? = some ends → next ≤ ends := by
        intro ends hwakes
        rw [wakes] at hwakes
        injection hwakes with hwakes
        exact Nat.le_of_eq hwakes
      obtain ⟨htracks, hsent'⟩ := tracks_poll h hlater hmin
      exact ih htracks hsent' hends (Nat.not_le.mp early) rfl

/-- **A task by itself under a shutdown** ends at its ending or at the shutdown, whichever is
    sooner, and sends its mapping exactly when its ending comes first. -/
theorem run_shutdown (prober : Prober) (stop : Nat) (ports : List Port) (address : IpAddr) :
    let r := run prober (some stop) true ports address
    let e := endingFrom prober address ports 0 0
    r.elapsed = min e.time stop ∧ r.sent = if e.time < stop then e.mapping else none := by
  intro r e
  by_cases hzero : stop = 0
  · subst hzero
    have hr : r = ⟨0, (start ports address).cancel, none⟩ := by
      simp only [r, run, if_true]
    rw [hr]
    exact ⟨(Nat.min_zero _).symm, (if_neg (Nat.not_lt_zero _)).symm⟩
  · have hr : r = { drive prober (some stop) 0 ((start ports address).poll prober 0) with
        sent := (drive prober (some stop) 0 ((start ports address).poll prober 0)).sent.filter
          fun _ => true } := by
      simp only [r, run, Option.some.injEq, if_neg hzero]
    obtain ⟨htracks, hsent⟩ := tracks_poll_start prober ports address
    obtain ⟨helapsed, hmapping⟩ := drive_shutdown_of_tracks htracks hsent (Nat.zero_le _)
      (Nat.pos_of_ne_zero hzero)
    have hopen : ∀ sent : Option Mapping, sent.filter (fun _ => true) = sent := by
      intro sent
      cases sent <;> rfl
    rw [hr, hopen]
    exact ⟨helapsed, hmapping⟩

/-! ## The probes of a task -/

/-- The task is that of this address, and all its probes start from there. -/
structure AtHome (address : IpAddr) (t : ProbeTask) : Prop where
  home : t.address = address
  probes : ∀ p ∈ t.probes, p.2.ip = address

theorem atHome_tryPorts (prober : Prober) (now : Nat) (address : IpAddr) (ports : List Port)
    {probes : List (Nat × Endpoint)} (finished : Nat) (h : ∀ p ∈ probes, p.2.ip = address) :
    AtHome address (tryPorts prober now address ports probes finished).1 := by
  induction ports generalizing probes finished with
  | nil => exact ⟨rfl, h⟩
  | cons port ports ih =>
      have hmore : ∀ p ∈ probes ++ [(now, Endpoint.of address port)], p.2.ip = address := by
        intro p hp
        rcases List.mem_append.mp hp with hp | hp
        · exact h p hp
        · rw [List.mem_singleton.mp hp]
          exact Endpoint.ip_of address port
      simp only [tryPorts]
      split
      · exact ⟨rfl, hmore⟩
      · split
        · exact ⟨rfl, hmore⟩
        · exact ih _ hmore

theorem AtHome.poll {address : IpAddr} {t : ProbeTask} (h : AtHome address t) (now : Nat) :
    AtHome address (t.poll prober now).1 := by
  obtain ⟨rfl, hprobes⟩ := h
  unfold ProbeTask.poll
  split
  · exact atHome_tryPorts prober now t.address t.untried t.finished hprobes
  · split
    · exact ⟨rfl, hprobes⟩
    · split
      · exact ⟨rfl, hprobes⟩
      · exact atHome_tryPorts prober now t.address t.untried (t.finished + 1) hprobes
  · exact ⟨rfl, hprobes⟩

theorem AtHome.cancel {address : IpAddr} {t : ProbeTask} (h : AtHome address t) :
    AtHome address t.cancel := by
  obtain ⟨rfl, hprobes⟩ := h
  unfold ProbeTask.cancel
  split
  · exact ⟨rfl, hprobes⟩
  · exact ⟨rfl, hprobes⟩
  · exact ⟨rfl, hprobes⟩

/-- A task by itself probes from its own address only. -/
theorem atHome_run (prober : Prober) (shutdown : Option Nat) (listening : Bool)
    (ports : List Port) (address : IpAddr) :
    AtHome address (run prober shutdown listening ports address).task :=
  run_keeps (P := AtHome address) (fun _ now h => h.poll now) (fun _ h => h.cancel) shutdown
    listening ⟨rfl, fun _ hp => absurd hp List.not_mem_nil⟩

/-! ## Abreast

A task of a collection is polled whenever any probe ends, its own or another's. Between the ends of
its own probes this changes nothing, so it stays on the way of its run by itself. -/

/-- Driven on by itself until the shutdown, the task comes to this end. -/
def Abreast (prober : Prober) (stop : Nat) (t final : ProbeTask) : Prop :=
  ∃ now sent, (drive prober (some stop) now (t, sent)).task = final

theorem abreast_start (prober : Prober) (hstop : 0 < stop) (ports : List Port)
    (address : IpAddr) :
    Abreast prober stop ((start ports address).poll prober 0).1
      (run prober (some stop) true ports address).task := by
  refine ⟨0, ((start ports address).poll prober 0).2, ?_⟩
  simp only [run, Option.some.injEq, if_neg (Nat.ne_of_gt hstop)]

/-- A poll before the shutdown, no later than the end of the probe under way, keeps a task
    abreast. -/
theorem Abreast.poll {e : Ending} {final t : ProbeTask} (h : Abreast prober stop t final)
    (htracks : Tracks prober e now t) (hstop : next < stop) (hnow : now < next)
    (hmin : ∀ ends, t.wakes? = some ends → next ≤ ends) :
    Abreast prober stop (t.poll prober next).1 final := by
  cases htracks with
  | @probing ends answer phase later leads =>
      have hwakes : t.wakes? = some ends := by
        simp only [wakes?, phase]
      by_cases heq : ends = next
      · -- Its own probe ends, as it does by itself.
        subst heq
        obtain ⟨past, sent, hfinal⟩ := h
        rw [drive_of_some hwakes, if_neg (Nat.not_le.mpr hstop)] at hfinal
        exact ⟨ends, (t.poll prober ends).2, hfinal⟩
      · -- Another's probe ends, and this task stays as it is.
        have hlt : next < ends := Nat.lt_of_le_of_ne (hmin ends hwakes) (Ne.symm heq)
        have hpoll : t.poll prober next = (t, none) := by
          simp only [ProbeTask.poll, phase, if_pos hlt]
        rw [hpoll]
        exact h
  | ended phase past =>
      have hpoll : t.poll prober next = (t, none) := by
        simp only [ProbeTask.poll, phase]
      rw [hpoll]
      exact h

/-- At the shutdown, a task abreast is as the shutdown leaves it by itself. -/
theorem Abreast.cancel_eq {e : Ending} {final t : ProbeTask} (h : Abreast prober stop t final)
    (htracks : Tracks prober e now t) (hlate : ∀ ends, t.wakes? = some ends → stop ≤ ends) :
    t.cancel = final := by
  obtain ⟨past, sent, hfinal⟩ := h
  cases htracks with
  | @probing ends answer phase later leads =>
      have hwakes : t.wakes? = some ends := by
        simp only [wakes?, phase]
      rw [drive_of_some hwakes, if_pos (hlate ends hwakes)] at hfinal
      exact hfinal
  | ended phase ended =>
      have hwakes : t.wakes? = none := by
        simp only [wakes?, phase]
      rw [drive_of_over hwakes] at hfinal
      rw [← hfinal]
      simp only [ProbeTask.cancel, phase]

end ProbeTask

namespace Collector

variable {c : Collector} {locals : List IpAddr}

/-! ## All tasks of a collection -/

/-- The task of a local address by itself, with the collector listening, under a shutdown. -/
def alone (c : Collector) (stop : Nat) (ip : IpAddr) : ProbeTask.Run :=
  ProbeTask.run c.prober (some stop) true c.ports ip

/-- An instant that lies before the deadline lies before the cutoff. -/
theorem Caught.lt_cutoff (hgrace : 0 < c.grace) {t : Nat} {tally : Tally}
    (h : c.Caught locals t tally) (hdue : t < tally.deadline.due) : t < c.cutoff locals := by
  rw [h.deadline, deadlineAfter] at hdue
  by_cases hnone : c.arrivalsBefore locals t = []
  · rw [if_pos hnone] at hdue
    have hinitial : t < c.initial := by
      simpa [Deadline.start] using hdue
    cases hfirst : c.firstArrival? locals with
    | none =>
        simp only [cutoff, hfirst]
        exact hinitial
    | some first =>
        -- The first mapping is yet to come.
        obtain ⟨hat, _⟩ := firstArrival?_eq_some_iff.mp hfirst
        have hle : t ≤ first := by
          apply Nat.not_lt.mp
          intro hlt
          have hsucc := arrivalsBefore_eq_nil_of_le (Nat.succ_le_of_lt hlt) hnone
          rw [Nat.succ_eq_add_one, arrivalsBefore_succ] at hsucc
          exact hat (List.append_eq_nil_iff.mp hsucc).2
        simp only [cutoff, hfirst]
        split
        · omega
        · exact hinitial
  · rw [if_neg hnone] at hdue
    exact hdue

/-- The deadline in which a collection ends is its cutoff. -/
theorem due_waitFor (hgrace : 0 < c.grace) (locals : List IpAddr) :
    (c.waitFor locals).tally.deadline.due = c.cutoff locals := by
  obtain ⟨_, hcaught⟩ := waitFor_forecast hgrace locals
  rw [hcaught.deadline, deadlineAfter_cutoff hgrace, cutoff]
  cases c.firstArrival? locals with
  | none => exact Nat.zero_add _
  | some first =>
      simp only
      split
      · rfl
      · exact Nat.zero_add _

/-- The tasks of these addresses, each on the way of its run by itself. -/
def Abreast (c : Collector) (stop : Nat) (locals : List IpAddr) (tasks : List ProbeTask) : Prop :=
  List.Forall₂ (fun ip t => t.Abreast c.prober stop (c.alone stop ip).task) locals tasks

section Abreast

variable {stop now next : Nat} {tasks : List ProbeTask}

theorem abreast_start (c : Collector) (hstop : 0 < stop) (locals : List IpAddr) :
    c.Abreast stop locals (pollAll c.prober 0 (locals.map (ProbeTask.start c.ports))) := by
  induction locals with
  | nil => exact .nil
  | cons ip locals ih => exact .cons (ProbeTask.abreast_start c.prober hstop c.ports ip) ih

/-- A step of the wait keeps all tasks abreast. -/
theorem Abreast.step (h : c.Abreast stop locals tasks) (hfollow : c.Following locals now tasks)
    (hstop : next < stop) (hnow : now < next)
    (hmin : ∀ t ∈ tasks, ∀ ends, t.wakes? = some ends → next ≤ ends) :
    c.Abreast stop locals (pollAll c.prober next tasks) := by
  induction hfollow with
  | nil => exact .nil
  | @cons ip t locals tasks htracks hrest ih =>
      obtain ⟨hhead, htail⟩ := List.forall₂_cons.mp h
      exact .cons (hhead.poll htracks hstop hnow (hmin t List.mem_cons_self))
        (ih htail fun u hu => hmin u (List.mem_cons_of_mem _ hu))

/-- At the shutdown, the tasks are as it leaves them by themselves. -/
theorem Abreast.map_cancel_eq (h : c.Abreast stop locals tasks)
    (hfollow : c.Following locals now tasks)
    (hlate : ∀ t ∈ tasks, ∀ ends, t.wakes? = some ends → stop ≤ ends) :
    tasks.map ProbeTask.cancel = locals.map fun ip => (c.alone stop ip).task := by
  induction hfollow with
  | nil => rfl
  | @cons ip t locals tasks htracks hrest ih =>
      obtain ⟨hhead, htail⟩ := List.forall₂_cons.mp h
      rw [List.map_cons, List.map_cons, hhead.cancel_eq htracks (hlate t List.mem_cons_self),
        ih htail fun u hu => hlate u (List.mem_cons_of_mem _ hu)]

end Abreast

/-- **The tasks that a collection joins are those of the runs by themselves**, under a shutdown at
    its cutoff. -/
theorem tasks_waitFor_cancel (hgrace : 0 < c.grace) (locals : List IpAddr) :
    (c.waitFor locals).tasks.map ProbeTask.cancel =
      locals.map fun ip => (c.alone (c.cutoff locals) ip).task := by
  have hdue := due_waitFor hgrace locals
  rcases Nat.eq_zero_or_pos c.initial with hzero | hinitial
  · -- There is no time to wait: the shutdown comes before any task has started.
    have hcut : c.cutoff locals = 0 := by
      rw [← hdue, waitFor_of_zero hzero, hzero]
      rfl
    rw [hcut, waitFor_of_zero hzero]
    simp only [List.map_map]
    apply List.map_congr_left
    intro ip _
    simp only [Function.comp, alone, ProbeTask.run, if_true]
  · rw [waitFor_of_pos hinitial]
    have hcut : 0 < c.cutoff locals :=
      (show c.Caught locals 0 (.start c.initial) from ⟨Tally.records_start _, rfl⟩).lt_cutoff hgrace
        (by simpa using hinitial)
    obtain ⟨last, tasks, tally, ⟨hcourse, habreast⟩, hend⟩ := @wait_induction
      c.prober c.grace
      (fun now tasks tally =>
        c.OnCourse locals now tasks tally ∧ c.Abreast (c.cutoff locals) locals tasks)
      (by
        rintro now tasks tally next ⟨hcourse, habreast⟩ hnext hdue
        have hmin : ∀ t ∈ tasks, ∀ ends, t.wakes? = some ends → next ≤ ends :=
          fun _ ht _ hwakes => nextWake_le hnext ht hwakes
        obtain ⟨hlater, _⟩ := hcourse.following.nextWake_bounds hnext
        have hcaught := hcourse.caught.of_quiet hlater (hcourse.following.quiet hmin)
        exact ⟨onCourse_step hgrace hcourse hnext hdue,
          habreast.step hcourse.following (hcaught.lt_cutoff hgrace hdue) hlater hmin⟩)
      0 _ _ ⟨onCourse_start hgrace hinitial, abreast_start c hcut locals⟩
    rcases hend with ⟨hstop, hwait⟩ | ⟨next, hnext, hlate, hwait⟩
    · rw [hwait]
      refine habreast.map_cancel_eq hcourse.following fun t ht ends hwakes => ?_
      rw [nextWake_eq_none_iff.mp hstop t ht] at hwakes
      injection hwakes
    · rw [hwait]
      refine habreast.map_cancel_eq hcourse.following fun t ht ends hwakes => ?_
      rw [hcourse.cutoff_eq (Or.inr ⟨next, hnext, hlate⟩)]
      exact Nat.le_trans hlate (nextWake_le hnext ht hwakes)

/-! ## The report -/

/-- The probes of a collection are those of its tasks by themselves. -/
theorem probes_run (hgrace : 0 < c.grace) (locals : List IpAddr) :
    let ls := distinct locals
    (c.run locals).probes = ls.flatMap fun ip => (c.alone (c.cutoff ls) ip).task.probes := by
  intro ls
  by_cases hnone : ls = []
  · simp [run, ls, hnone]
  · rw [run_of_ne_nil hnone]
    show ((c.waitFor ls).tasks.map ProbeTask.cancel).flatMap ProbeTask.probes = _
    rw [tasks_waitFor_cancel hgrace, List.flatMap_map]

theorem totalOf_eq_sum (quantity : ProbeTask → Nat) (tasks : List ProbeTask) :
    totalOf quantity tasks = (tasks.map quantity).sum := by
  induction tasks with
  | nil => rfl
  | cons t tasks ih =>
      rw [List.map_cons, List.sum_cons, ← ih]
      rfl

/-- The probes that have ended are counted task by task. -/
theorem finished_run (hgrace : 0 < c.grace) (locals : List IpAddr) :
    let ls := distinct locals
    (c.run locals).finished =
      (ls.map fun ip => (c.alone (c.cutoff ls) ip).task.finished).sum := by
  intro ls
  by_cases hnone : ls = []
  · simp [run, ls, hnone]
  · rw [run_of_ne_nil hnone]
    show totalOf ProbeTask.finished ((c.waitFor ls).tasks.map ProbeTask.cancel) = _
    rw [tasks_waitFor_cancel hgrace, totalOf_eq_sum, List.map_map]
    rfl

theorem filter_flatMap_eq {α β : Type} (key : β → α) {f : α → List β}
    (hkey : ∀ a, ∀ b ∈ f a, key b = a) (p : α → Bool) (xs : List α) :
    (xs.flatMap f).filter (fun b => p (key b)) = (xs.filter p).flatMap f := by
  induction xs with
  | nil => rfl
  | cons x xs ih =>
      rw [List.flatMap_cons, List.filter_append, ih, List.filter_cons]
      cases hx : p x with
      | true =>
          rw [List.filter_eq_self.mpr fun b hb => by rw [hkey x b hb, hx]]
          rfl
      | false =>
          rw [List.filter_eq_nil_iff.mpr fun b hb => by rw [hkey x b hb, hx]; simp]
          rfl

/-- The probes of a collection from addresses of a kind, in terms of its tasks by themselves. -/
theorem filter_probes_run (hgrace : 0 < c.grace) (locals : List IpAddr) (p : IpAddr → Bool) :
    let ls := distinct locals
    (c.run locals).probes.filter (fun probe => p probe.2.ip) =
      (ls.filter p).flatMap fun ip => (c.alone (c.cutoff ls) ip).task.probes := by
  intro ls
  rw [probes_run hgrace]
  exact filter_flatMap_eq (fun probe : Nat × Endpoint => probe.2.ip)
    (fun ip => (ProbeTask.atHome_run c.prober _ true c.ports ip).probes) p ls

/-- The probes of a collection from one of its addresses are those of its task by itself. -/
theorem filter_probes_run_eq (hgrace : 0 < c.grace) (locals : List IpAddr) {ip : IpAddr}
    (hip : ip ∈ distinct locals) :
    (c.run locals).probes.filter (fun probe => probe.2.ip = ip) =
      (c.alone (c.cutoff (distinct locals)) ip).task.probes := by
  refine (filter_probes_run hgrace locals fun a => a = ip).trans ?_
  rw [List.filter_eq, List.count_eq_one_of_mem (nodup_distinct locals) hip]
  exact List.append_nil _

/-- The mapping at the end of a task is one of its own address. -/
theorem internal_endingFrom {prober : Prober} {address : IpAddr} {ports : List Port} {now k : Nat}
    {m : Mapping} (h : (ProbeTask.endingFrom prober address ports now k).mapping = some m) :
    m.internal = address := by
  induction ports generalizing now k with
  | nil => injection h
  | cons port ports ih =>
      simp only [ProbeTask.endingFrom] at h
      split at h
      · cases hanswer : (prober (Endpoint.of address port) k).answer with
        | found external =>
            simp only [hanswer, Answer.mapping?] at h
            injection h with h
            rw [← h]
        | failed cause => simp [hanswer, Answer.mapping?] at h
        | crashed => simp [hanswer, Answer.mapping?] at h
      · exact ih h

/-- A task by itself sends a mapping exactly when the collector receives one from it. -/
theorem sent_alone_iff (hgrace : 0 < c.grace) {ip : IpAddr} (hip : ip ∈ locals) {m : Mapping} :
    (c.alone (c.cutoff locals) ip).sent = some m ↔
      m.internal = ip ∧ ∃ time, ⟨time, m⟩ ∈ c.receipts locals := by
  obtain ⟨_, hsent⟩ := ProbeTask.run_shutdown c.prober (c.cutoff locals) c.ports ip
  rw [alone, hsent]
  constructor
  · intro h
    split at h
    · rename_i htime
      exact ⟨internal_endingFrom h, _,
        (mem_receipts hgrace).mpr ⟨ip, hip, htime, rfl, h⟩⟩
    · injection h
  · rintro ⟨hinternal, time, hmem⟩
    obtain ⟨ip', _, hlt, htime, hmap⟩ := (mem_receipts hgrace).mp hmem
    have hsame : ip' = ip := (internal_endingFrom hmap).symm.trans hinternal
    subst hsame
    have htime' : (ProbeTask.endingFrom c.prober ip' c.ports 0 0).time = time := htime
    rw [htime', if_pos hlt]
    exact hmap

/-- **A collection is its tasks by themselves.** Let the deadline in which it ends, which its first
    receipt has set, be the instant of a shutdown; the timer rounds both up alike. The task of each
    local address, run by itself under this shutdown, starts the probes that the collection starts
    from that address, and sends the mapping that the collection receives from there, if any.
    Altogether as many probes end. That is so wherever the clock can express the instants that the
    collection computes; elsewhere it fails. -/
theorem collect_eq_alone (clock : Clock) (prober : Prober) (ports : List Port) (timeouts : Timeouts)
    (hgrace : 0 < timeouts.grace.totalNanos) (locals : List IpAddr) :
    let c : Collector := ⟨prober, ports, timeouts.initial.millis, timeouts.grace.millis⟩
    let ls := distinct locals
    let stop := (c.waitFor ls).tally.deadline.due
    let alone := ProbeTask.run prober (some stop) true ports
    let within := ls = [] ∨ c.clockSuffices clock timeouts ls
    stop = wholeMillis (c.exactCutoff timeouts ls) ∧
    (stop = match (c.receipts ls).head? with
      | some first => first.time + c.grace
      | none => c.initial) ∧
    (within → ∃ r : Report,
      collect prober ports timeouts locals clock = .ok r ∧
        (∀ ip ∈ ls,
          r.probes.filter (fun probe => probe.2.ip = ip) = (alone ip).task.probes ∧
            ∀ m, (alone ip).sent = some m ↔
              m.internal = ip ∧ ∃ time, ⟨time, m⟩ ∈ c.receipts ls) ∧
        (∀ probe ∈ r.probes, probe.2.ip ∈ ls) ∧
        r.finished = (ls.map fun ip => (alone ip).task.finished).sum) ∧
    (¬within → collect prober ports timeouts locals clock = .error .outOfRange) := by
  intro c ls stop alone within
  have hpos : 0 < c.grace := Duration.millis_pos hgrace
  have hstop : stop = c.cutoff ls := due_waitFor hpos ls
  have halone : alone = c.alone (c.cutoff ls) := by
    rw [← hstop]
    rfl
  have hcollect := collect_eq clock prober ports timeouts hgrace locals
  refine ⟨hstop.trans (cutoff_eq_wholeMillis rfl rfl), ?_, ?_,
    fun hnot => hcollect.trans (if_neg hnot)⟩
  · show (c.waitFor ls).tally.deadline.due = _
    rw [(books_waitFor c ls).deadline, deadlineOf]
    cases (c.receipts ls).head? with
    | some first => rfl
    | none => exact Nat.zero_add _
  · intro hwithin
    refine ⟨c.run locals, hcollect.trans (if_pos hwithin), ?_, ?_, ?_⟩
    · intro ip hip
      rw [halone]
      exact ⟨filter_probes_run_eq hpos locals hip, fun m => sent_alone_iff hpos hip⟩
    · intro probe hprobe
      rw [probes_run hpos, List.mem_flatMap] at hprobe
      obtain ⟨ip, hip, hprobe⟩ := hprobe
      rw [(ProbeTask.atHome_run c.prober _ true c.ports ip).probes probe hprobe]
      exact hip
    · rw [halone]
      exact finished_run hpos locals

/-- The race is its five tasks by themselves, under a shutdown three milliseconds after the first
    receipt. The one that finds a port taken goes on to the next port and sends its mapping; the one
    that is too late starts its probe and sends nothing. -/
theorem collect_race_eq_alone :
    0 < raceTimeouts.grace.totalNanos ∧
      race.clockSuffices .hourOld raceTimeouts (distinct racers) ∧
      (race.waitFor (distinct racers)).tally.deadline.due = 3 + race.grace ∧
      ∃ r, collect race.prober race.ports raceTimeouts racers .hourOld = .ok r ∧
        r.probes.filter (fun probe => probe.2.ip = .v4 ⟨10, 0, 0, 1⟩) =
          [(0, .v4 ⟨10, 0, 0, 1⟩ 5000), (1, .v4 ⟨10, 0, 0, 1⟩ 5001)] ∧
        r.probes.filter (fun probe => probe.2.ip = .v4 ⟨10, 0, 0, 5⟩) =
          [(0, .v4 ⟨10, 0, 0, 5⟩ 5000)] ∧
        (∃ time, ⟨time, ⟨.v4 ⟨203, 0, 113, 9⟩, .v4 ⟨10, 0, 0, 1⟩⟩⟩ ∈
          race.receipts (distinct racers)) ∧
        (∀ time external, ⟨time, ⟨external, .v4 ⟨10, 0, 0, 5⟩⟩⟩ ∉
          race.receipts (distinct racers)) ∧
        r.finished = 6 := by
  have hgrace : 0 < raceTimeouts.grace.totalNanos := by decide
  have hclock : race.clockSuffices .hourOld raceTimeouts (distinct racers) := by decide
  obtain ⟨-, hstop, hwithin, -⟩ :=
    collect_eq_alone .hourOld race.prober race.ports raceTimeouts hgrace racers
  have hdue : (race.waitFor (distinct racers)).tally.deadline.due = 6 :=
    hstop.trans (by decide +kernel)
  obtain ⟨r, hcollect, hprobes, _, hfinished⟩ := hwithin (Or.inr hclock)
  have hrace : (⟨race.prober, race.ports, raceTimeouts.initial.millis,
      raceTimeouts.grace.millis⟩ : Collector) = race := rfl
  simp only [hrace, hdue] at hprobes hfinished
  obtain ⟨hprobes₁, hsent₁⟩ := hprobes (.v4 ⟨10, 0, 0, 1⟩) (by decide)
  obtain ⟨hprobes₅, hsent₅⟩ := hprobes (.v4 ⟨10, 0, 0, 5⟩) (by decide)
  refine ⟨hgrace, hclock, hdue, r, hcollect, ?_, ?_, ?_, ?_, ?_⟩
  · rw [hprobes₁]
    decide +kernel
  · rw [hprobes₅]
    decide +kernel
  · exact ((hsent₁ ⟨.v4 ⟨203, 0, 113, 9⟩, .v4 ⟨10, 0, 0, 1⟩⟩).mp (by decide +kernel)).2
  · intro time external hmem
    have hsent := (hsent₅ ⟨external, .v4 ⟨10, 0, 0, 5⟩⟩).mpr ⟨rfl, time, hmem⟩
    have hnone : (ProbeTask.run race.prober (some 6) true race.ports (.v4 ⟨10, 0, 0, 5⟩)).sent =
        none := by decide +kernel
    rw [hnone] at hsent
    injection hsent
  · rw [hfinished]
    decide +kernel

/-- A time budget whose first wait is as long as can be configured. -/
def endlessTimeouts : Timeouts where
  initial := .ofSecs 0xFFFFFFFFFFFFFFFF

/-- **Not every collection does what its tasks do by themselves**: with an endless initial wait each
    task comes to its end, and the collection fails, whatever the clock. -/
theorem not_forall_alone :
    ¬∃ clock : Clock, ∀ (prober : Prober) (ports : List Port) (timeouts : Timeouts)
      (locals : List IpAddr), 0 < timeouts.initial.totalNanos → 0 < timeouts.grace.totalNanos →
      let c : Collector := ⟨prober, ports, timeouts.initial.millis, timeouts.grace.millis⟩
      let ls := distinct locals
      let stop := wholeMillis (c.exactCutoff timeouts ls)
      c.ClearOfDeadlines ls →
      ∃ r, collect prober ports timeouts locals clock = .ok r ∧
        ∀ ip ∈ ls, r.probes.filter (fun probe => probe.2.ip = ip) =
          (ProbeTask.run prober (some stop) true ports ip).task.probes := by
  rintro ⟨clock, hall⟩
  have hclear : (⟨race.prober, race.ports, endlessTimeouts.initial.millis,
      endlessTimeouts.grace.millis⟩ : Collector).ClearOfDeadlines (distinct racers) := by
    unfold ClearOfDeadlines
    decide
  obtain ⟨r, hcollect, -⟩ := hall race.prober race.ports endlessTimeouts racers (by decide)
    (by decide) hclear
  rw [collect_of_limit_lt (by decide) (by decide)] at hcollect
  injection hcollect

end Collector

end NatDiscovery
