import NatDiscovery.Config.Decode
import NatDiscovery.Proofs.Faults

/-!
# `Proofs.Preconditions` — what outside code is asked for

A resolution leaves some of its work to others, who stop the program when they are asked for what they
do not do: a random number from a range without numbers, a channel without capacity, an instant beyond
the clock. `Strict` is **the resolution with these calls made one by one**, each of them where the
resolution needs what comes of it, so that the first breach ends everything. It comes to what the
resolution comes to (`resolve_eq`), and a failure for the clock is a breach there.

Ranges and channels are asked for what they have: a range is looked at before anything is drawn from
it, and nothing is collected for a host without addresses. Instants are not. The two waits come from
the configuration as they are, so what remains is to say **for which waits a breach can occur**
(`resolve_breach`): all but those that are `Bounded`, for a clock that shows any instant at the
start.

## Contents
- `Timeouts.Bounded`, `Config.withinClock_of_bounded`, `withinClock_of_uniform_iff`,
  `not_withinClock_of_late`: waits and the clock
- `Breach`, `Strict.draw`, `Strict.openChannel`, `Strict.instantAfter`: the calls
- `Strict.candidatePorts`, `Strict.wait`, `Strict.collect`, `Strict.resolve`: the resolution
- `Strict.Yields`, `Strict.wait_yields`, `Strict.collect_yields`: stopped by the clock or by nothing
- `Strict.resolve_eq`, `Strict.resolve_breach`, `Strict.not_forall_settles`: the whole resolution
-/

namespace NatDiscovery

/-! ## Waits and the clock -/

/-- A span that takes no time leads no further, from the last instant of another, than that one. -/
theorem Duration.fitsClock_of_millis_eq_zero {d wait : Duration} {clock : Clock}
    (hzero : d.millis = 0) (hfits : wait.fitsClock clock 0 = true) :
    d.fitsClock clock (wait.millis - 1) = true := by
  simp only [fitsClock, decide_eq_true_eq] at hfits ⊢
  refine Nat.le_trans (Nat.div_le_div_right ?_) hfits
  unfold millis wholeMillis at hzero ⊢
  omega

/-- The clock can express the end of the initial wait, and that of a grace period that begins with a
    mapping at its last instant. -/
def Timeouts.Bounded (t : Timeouts) (clock : Clock) : Prop :=
  t.initial.fitsClock clock 0 = true ∧
    (t.initial.millis = 0 ∨ t.grace.fitsClock clock (t.initial.millis - 1) = true)

instance (t : Timeouts) (clock : Clock) : Decidable (t.Bounded clock) :=
  inferInstanceAs (Decidable (_ ∧ _))

namespace Collector

section Prompt

variable {c : Collector} {locals : List IpAddr} {record : List Receipt} {tally : Tally}

/-- The tally is that of the record, and the record begins within the initial wait. -/
structure Prompt (c : Collector) (record : List Receipt) (tally : Tally) : Prop where
  books : c.Books record tally
  early : ∀ first, record.head? = some first → first.time < c.initial

theorem prompt_start (c : Collector) : c.Prompt [] (.start c.initial) := by
  refine ⟨books_start c, ?_⟩
  intro first hfirst
  injection hfirst

/-- What is received before the deadline keeps to that. -/
theorem Prompt.receiveAll (h : c.Prompt record tally) {now : Nat} (hdue : now < tally.deadline.due)
    (tasks : List ProbeTask) :
    c.Prompt (record ++ receiptsAt c.prober now tasks)
      (tally.receiveAll c.grace now (sentAll c.prober now tasks)) := by
  refine ⟨h.books.receiveAll now tasks, ?_⟩
  cases record with
  | nil =>
      -- As long as nothing has been received, the deadline is the end of the initial wait.
      rw [h.books.deadline] at hdue
      intro first hfirst
      obtain ⟨m, -, rfl⟩ := List.mem_map.mp (List.mem_of_mem_head? hfirst)
      simpa [deadlineOf, Deadline.start] using hdue
  | cons old record => exact h.early

/-- The first mapping is received within the initial wait. -/
theorem time_lt_of_head?_receipts {first : Receipt}
    (h : (c.receipts locals).head? = some first) : first.time < c.initial := by
  rcases Nat.eq_zero_or_pos c.initial with hzero | hpos
  · rw [receipts_of_zero hzero] at h
    injection h
  · rw [receipts_of_pos hpos] at h
    have hdue : 0 < (Tally.start c.initial).deadline.due := by
      rw [Tally.due_start]
      exact hpos
    have hfirst := (prompt_start c).receiveAll hdue (locals.map (ProbeTask.start c.ports))
    obtain ⟨_, _, _, hprompt, _⟩ := receipts_induction c.prober c.grace 0
      (fun _ _ tally record => c.Prompt record tally)
      (fun _ tasks _ _ _ hprompt _ hdue => hprompt.receiveAll hdue tasks) hfirst
    exact hprompt.early first h

end Prompt

/-- Where all probes end alike, so do all tasks. -/
theorem firstArrival?_of_uniform {c : Collector} {locals : List IpAddr} {delay : Nat}
    {external : IpAddr} (hprober : c.prober = fun _ _ => ⟨delay, .found external⟩)
    (hports : c.ports ≠ []) (hlocals : locals ≠ []) : c.firstArrival? locals = some delay := by
  obtain ⟨port, ports, hports⟩ := List.exists_cons_of_ne_nil hports
  have hending (ip : IpAddr) : c.ending ip = ⟨delay, some ⟨external, ip⟩⟩ := by
    simp [ending, hports, hprober, ProbeTask.endingFrom, Answer.outcome?, Answer.mapping?]
  obtain ⟨ip, locals, rfl⟩ := List.exists_cons_of_ne_nil hlocals
  simp only [firstArrival?, hending, Option.map_some, List.filterMap_eq_map', List.min?_eq_some_iff]
  simp

end Collector

section Waits

variable {config : Config} {interfaces : List InterfaceAddress} {draws : Draws} {prober : Prober}
  {clock : Clock}

/-- **With bounded waits no deadline is beyond the clock**, whatever the probes do. -/
theorem Config.withinClock_of_bounded (h : config.timeouts.Bounded clock) :
    config.WithinClock interfaces draws prober clock := by
  intro plan _ d hd
  unfold Collector.deadlines at hd
  split at hd
  · cases hd
  · rcases List.mem_cons.mp hd with rfl | hd
    · exact h.1
    · obtain ⟨first, hfirst, rfl⟩ := Option.map_eq_some_iff.mp (Option.mem_toList.mp hd)
      have htime : first.time < config.timeouts.initial.millis :=
        Collector.time_lt_of_head?_receipts hfirst
      rcases h.2 with hzero | hgrace
      · omega
      · exact Duration.fitsClock_anti Nat.le.refl Nat.le.refl (by omega) hgrace

/-- There is always a port to probe from. -/
theorem ports_ne_nil {ports : List Port} (h : config.ports draws = .ok ports) : ports ≠ [] := by
  unfold Config.ports candidatePorts at h
  split at h
  · split at h
    · injection h with h
      rintro rfl
      have hlength := PortRange.length_sample ‹PortRange› draws
      rw [h] at hlength
      injection hlength
    · injection h
  · split at h
    · injection h with h
      rw [← h]
      exact List.cons_ne_nil _ _
    · injection h with h
      rw [← h]
      exact List.cons_ne_nil _ _

/-- A plan with addresses has distinct ones. -/
theorem Plan.distinct_ne_nil {plan : Plan} (h : plan.locals ≠ []) : distinct plan.locals ≠ [] := by
  obtain ⟨ip, hip⟩ := List.exists_mem_of_ne_nil _ h
  exact List.ne_nil_of_mem (mem_distinct.mpr hip)

/-- Where all probes end alike and find something, the deadlines are known. -/
theorem withinClock_of_uniform_iff {plan : Plan} (hplan : config.plan interfaces draws = .ok plan)
    (hlocals : plan.locals ≠ []) (hgrace : 0 < config.timeouts.grace.millis) (delay : Nat)
    (external : IpAddr) :
    config.WithinClock interfaces draws (fun _ _ => ⟨delay, .found external⟩) clock ↔
      config.timeouts.initial.fitsClock clock 0 = true ∧
        (config.timeouts.initial.millis ≤ delay ∨
          config.timeouts.grace.fitsClock clock delay = true) := by
  have hdistinct := Plan.distinct_ne_nil hlocals
  obtain ⟨-, -, -, hports, -, -⟩ := Config.plan_eq_ok hplan
  rw [withinClock_iff_of_plan hplan, Collector.fitsClock_eq_clockSuffices _ _ rfl hgrace,
    Collector.clockSuffices,
    Collector.firstArrival?_of_uniform rfl (ports_ne_nil hports) hdistinct]
  simp only [List.isEmpty_iff, hdistinct, Bool.or_eq_true, false_or, Bool.and_eq_true,
    decide_eq_true_eq]
  rfl

/-- **With other waits probes can lead beyond the clock**: those that find something at the last
    instant of the initial wait. -/
theorem not_withinClock_of_late {plan : Plan} (hplan : config.plan interfaces draws = .ok plan)
    (hlocals : plan.locals ≠ []) (h : ¬config.timeouts.Bounded clock) (external : IpAddr) :
    ¬config.WithinClock interfaces draws
      (fun _ _ => ⟨config.timeouts.initial.millis - 1, .found external⟩) clock := by
  intro hwithin
  have hinitial : config.timeouts.initial.fitsClock clock 0 = true := by
    refine hwithin plan hplan (0, config.timeouts.initial) ?_
    rw [Collector.deadlines, if_neg (Plan.distinct_ne_nil hlocals)]
    exact List.mem_cons_self
  rw [Timeouts.Bounded, not_and, not_or] at h
  obtain ⟨hwait, hover⟩ := h hinitial
  have hgrace : 0 < config.timeouts.grace.millis := by
    apply Nat.pos_of_ne_zero
    intro hzero
    exact hover (Duration.fitsClock_of_millis_eq_zero hzero hinitial)
  obtain ⟨-, hlate | hfits⟩ := (withinClock_of_uniform_iff hplan hlocals hgrace _ _).mp hwithin
  · omega
  · exact hover hfits

/-- A resolution without a fault fails for the clock exactly when a deadline is beyond it. -/
theorem resolve_eq_clock_iff :
    resolve config interfaces draws prober clock = .error (.clock .outOfRange) ↔
      (∀ e, ¬config.Fault interfaces e) ∧ ¬config.WithinClock interfaces draws prober clock := by
  constructor
  · intro h
    have hnone : ∀ e, ¬config.Fault interfaces e := by
      intro e hfault
      rw [resolve_of_fault hfault] at h
      injection h with h
      subst h
      cases hfault
    refine ⟨hnone, ?_⟩
    intro hwithin
    obtain ⟨report, hreport⟩ := exists_report hnone hwithin
    rw [hreport] at h
    injection h
  · rintro ⟨hnone, hclock⟩
    exact resolve_of_overrun hnone hclock

end Waits

/-! ## The calls -/

/-- A call that outside code does not accept. The program goes no further. -/
inductive Breach where
  /-- A random number from a range without numbers. -/
  | emptyRange
  /-- A channel without capacity. -/
  | noCapacity
  /-- An instant that the clock cannot express. -/
  | clock
  deriving DecidableEq, Repr

namespace Strict

/-- A random port of a range. -/
def draw (r : PortRange) (number : Nat) : Except Breach Port :=
  if r.start < r.stop then .ok (r.pick number) else .error .emptyRange

/-- A channel for so many messages at a time. -/
def openChannel (capacity : Nat) : Except Breach Unit :=
  if capacity = 0 then .error .noCapacity else .ok ()

/-- The instant that lies a span after another one. -/
def instantAfter (clock : Clock) (now : Nat) (span : Duration) : Except Breach Nat :=
  if span.fitsClock clock now then .ok (now + span.millis) else .error .clock

/-! ## The resolution -/

/-- As many random ports of the range as are sampled. -/
def sample (r : PortRange) (draws : Draws) : Except Breach (List Port) :=
  (List.range PortRange.sampleCount).mapM fun i => draw r (draws i)

/-- The ports to probe from, in order. -/
def candidatePorts (draws : Draws) (range : Option PortRange) (port : Option Port) :
    Except Breach (Except ConfigError (List Port)) :=
  match range with
  | some r =>
    if r.start < r.stop then (sample r draws).map .ok
    else .ok (.error (.invalidPortRange r.start r.stop))
  | none =>
    match port with
    | some p => .ok (.ok [p])
    | none => .ok (.ok [0])

/-- The deadline of the wait for a first mapping. -/
def startDeadline (clock : Clock) (now : Nat) (initial : Duration) : Except Breach Deadline :=
  (instantAfter clock now initial).map (Deadline.mk .awaitingFirst)

/-- The deadline once a mapping has arrived. -/
def onMapping (clock : Clock) (d : Deadline) (now : Nat) (grace : Duration) :
    Except Breach Deadline :=
  if d.phase = .awaitingFirst then
    (instantAfter clock now grace).map (Deadline.mk .graceAfterFirst)
  else .ok d

/-- The tally after a mapping has arrived. -/
def receive (clock : Clock) (grace : Duration) (now : Nat) (t : Tally) (m : Mapping) :
    Except Breach Tally := do
  let deadline ← onMapping clock t.deadline now grace
  return {
    deadline
    table := t.table.insert m
    resolved := t.resolved + 1
    duplicates := if t.table.accepts m then t.duplicates else t.duplicates + 1 }

/-- The tally after mappings have arrived at the same instant, one after the other. -/
def receiveAll (clock : Clock) (grace : Duration) (now : Nat) (t : Tally) (ms : List Mapping) :
    Except Breach Tally :=
  ms.foldlM (receive clock grace now) t

/-- The wait from an instant at which the tasks have been polled and their mappings received. -/
def wait (clock : Clock) (prober : Prober) (grace : Duration) (now : Nat)
    (tasks : List ProbeTask) (tally : Tally) : Except Breach Wait :=
  match h : nextWake tasks with
  | none => .ok ⟨now, tasks, tally⟩
  | some next =>
    have := totalWeight_pollAll_lt prober h
    if tally.deadline.due ≤ next then .ok ⟨tally.deadline.due, tasks, tally⟩
    else
      (receiveAll clock grace next tally (sentAll prober next tasks)).bind fun tally =>
        wait clock prober grace next (pollAll prober next tasks) tally
termination_by totalWeight tasks

/-- The tasks and the tally when the collector stops waiting. -/
def waitFor (clock : Clock) (prober : Prober) (ports : List Port) (timeouts : Timeouts)
    (locals : List IpAddr) : Except Breach Wait :=
  let tasks := locals.map (ProbeTask.start ports)
  (startDeadline clock 0 timeouts.initial).bind fun deadline =>
    let tally : Tally := { Tally.start timeouts.initial.millis with deadline }
    if tally.deadline.due ≤ 0 then .ok ⟨0, tasks, tally⟩
    else
      (receiveAll clock timeouts.grace 0 tally (sentAll prober 0 tasks)).bind
        (wait clock prober timeouts.grace 0 (pollAll prober 0 tasks))

/-- Resolves all local addresses at once within a time budget. -/
def collect (prober : Prober) (ports : List Port) (timeouts : Timeouts) (locals : List IpAddr)
    (clock : Clock) : Except Breach Report :=
  let locals := distinct locals
  if locals.isEmpty then .ok {}
  else
    (openChannel locals.length).bind fun _ =>
      (waitFor clock prober ports timeouts locals).map (Collector.reportOf locals)

/-- Resolves the mappings of a host with these interface addresses. -/
def resolve (config : Config) (interfaces : List InterfaceAddress) (draws : Draws)
    (prober : Prober) (clock : Clock) : Except Breach (Except ResolveError Report) :=
  match config.addressFilter with
  | .error e => .ok (.error (.config e))
  | .ok filter =>
    (candidatePorts draws config.portRange config.udpPort).bind fun
      | .error e => .ok (.error (.config e))
      | .ok ports =>
        match selectLocal interfaces config.enableLoopbackCandidate none with
        | none => .ok (.error (.network .noLocalAddress))
        | some locals =>
          (collect prober ports config.timeouts (locals.filter (Filter.passes filter)) clock).map
            .ok

/-! ## Ranges -/

/-- **Random ports are drawn from ranges that have some.** -/
theorem candidatePorts_eq (draws : Draws) (range : Option PortRange) (port : Option Port) :
    candidatePorts draws range port = .ok (NatDiscovery.candidatePorts draws range port) := by
  cases range with
  | none => cases port <;> rfl
  | some r =>
      unfold candidatePorts NatDiscovery.candidatePorts
      simp only
      split
      · rename_i hsome
        have hsample : sample r draws = .ok (r.sample draws) := by
          simp only [sample, draw, if_pos hsome]
          exact List.mapM_pure
        rw [hsample]
        rfl
      · rfl

/-! ## Instants -/

/-- What is computed is what stands on the right, if the clock can express all it takes, and otherwise
    a breach for the clock. -/
structure Yields {α : Type} (x : Except Breach α) (fits : Prop) (a : α) : Prop where
  settled : fits → x = .ok a
  stopped : ¬fits → x = .error .clock

section Yields

variable {α β : Type} {fits fits' : Prop}

theorem Yields.ok {a : α} (h : fits) : Yields (.ok a) fits a :=
  ⟨fun _ => rfl, fun hnot => absurd h hnot⟩

theorem Yields.map {x : Except Breach α} {a : α} (h : Yields x fits a) (f : α → β) :
    Yields (x.map f) fits (f a) := by
  refine ⟨?_, ?_⟩
  · intro hfits
    rw [h.settled hfits]
    rfl
  · intro hnot
    rw [h.stopped hnot]
    rfl

/-- One computation after the other. What the whole of it takes from the clock includes what the first
    part takes. -/
theorem Yields.bind {x : Except Breach α} {f : α → Except Breach β} {a : α} {b : β}
    (h : Yields x fits a) (himp : fits' → fits) (h' : fits → Yields (f a) fits' b) :
    Yields (x.bind f) fits' b := by
  refine ⟨?_, ?_⟩
  · intro hfits'
    rw [h.settled (himp hfits')]
    exact (h' (himp hfits')).settled hfits'
  · intro hnot
    by_cases hfits : fits
    · rw [h.settled hfits]
      exact (h' hfits).stopped hnot
    · rw [h.stopped hfits]
      rfl

end Yields

theorem instantAfter_yields (clock : Clock) (now : Nat) (span : Duration) :
    Yields (instantAfter clock now span) (span.fitsClock clock now = true) (now + span.millis) :=
  ⟨fun h => if_pos h, fun h => if_neg h⟩

/-- The clock can express the deadline, if it has been moved by a first mapping. -/
def GraceFits (clock : Clock) (grace : Duration) (d : Deadline) : Prop :=
  d.phase = .awaitingFirst ∨ grace.fitsClock clock (d.due - grace.millis) = true

section Wait

variable {clock : Clock} {grace : Duration} {now : Nat}

/-- A deadline beyond the clock is not moved any more. -/
theorem graceFits_of_onMapping {d : Deadline}
    (h : GraceFits clock grace (d.onMapping now grace.millis)) : GraceFits clock grace d := by
  by_cases hphase : d.phase = .awaitingFirst
  · exact Or.inl hphase
  · rw [Deadline.onMapping, if_neg hphase] at h
    exact h

theorem onMapping_yields {d : Deadline} (h : GraceFits clock grace d) :
    Yields (onMapping clock d now grace) (GraceFits clock grace (d.onMapping now grace.millis))
      (d.onMapping now grace.millis) := by
  unfold onMapping Deadline.onMapping
  split
  · have hfits : GraceFits clock grace ⟨.graceAfterFirst, now + grace.millis⟩ ↔
        grace.fitsClock clock now = true := by
      simp [GraceFits]
    rw [hfits]
    exact (instantAfter_yields clock now grace).map _
  · exact .ok h

theorem receive_yields {t : Tally} (h : GraceFits clock grace t.deadline) (m : Mapping) :
    Yields (receive clock grace now t m)
      (GraceFits clock grace (t.receive grace.millis now m).deadline)
      (t.receive grace.millis now m) :=
  (onMapping_yields h).map _

theorem graceFits_of_receiveAll {t : Tally} {ms : List Mapping}
    (h : GraceFits clock grace (t.receiveAll grace.millis now ms).deadline) :
    GraceFits clock grace t.deadline := by
  rw [Tally.deadline_receiveAll] at h
  split at h
  · exact h
  · exact graceFits_of_onMapping h

theorem receiveAll_yields {t : Tally} (h : GraceFits clock grace t.deadline) (ms : List Mapping) :
    Yields (receiveAll clock grace now t ms)
      (GraceFits clock grace (t.receiveAll grace.millis now ms).deadline)
      (t.receiveAll grace.millis now ms) := by
  induction ms generalizing t with
  | nil => exact .ok h
  | cons m ms ih =>
      have hback : GraceFits clock grace (t.receiveAll grace.millis now (m :: ms)).deadline →
          GraceFits clock grace (t.receive grace.millis now m).deadline :=
        graceFits_of_receiveAll (t := t.receive grace.millis now m)
      exact (receive_yields h m).bind hback ih

variable {prober : Prober}

theorem graceFits_of_wait {tasks : List ProbeTask} {tally : Tally}
    (h : GraceFits clock grace
      (NatDiscovery.wait prober grace.millis now tasks tally).tally.deadline) :
    GraceFits clock grace tally.deadline := by
  -- Along the wait the deadline fits only if it has fitted before.
  obtain ⟨_, _, tally', hback, hend⟩ := @wait_induction prober grace.millis
    (fun _ _ tally' => GraceFits clock grace tally'.deadline → GraceFits clock grace tally.deadline)
    (fun _ _ _ _ hback _ _ hfits => hback (graceFits_of_receiveAll hfits))
    now tasks tally (fun hfits => hfits)
  rcases hend with ⟨-, hwait⟩ | ⟨-, -, -, hwait⟩
  · rw [hwait] at h
    exact hback h
  · rw [hwait] at h
    exact hback h

/-- **A wait is stopped by the clock or by nothing.** -/
theorem wait_yields {tasks : List ProbeTask} {tally : Tally}
    (h : GraceFits clock grace tally.deadline) :
    Yields (wait clock prober grace now tasks tally)
      (GraceFits clock grace (NatDiscovery.wait prober grace.millis now tasks tally).tally.deadline)
      (NatDiscovery.wait prober grace.millis now tasks tally) := by
  induction hweight : totalWeight tasks using Nat.strongRecOn generalizing now tasks tally with
  | _ weight ih =>
      rw [wait]
      split
      · rename_i hnext
        rw [wait_of_stopped hnext]
        exact .ok h
      · rename_i next hnext
        split
        · rename_i hdue
          rw [wait_of_due hnext hdue]
          exact .ok h
        · rename_i hdue
          rw [wait_of_next hnext (Nat.not_le.mp hdue)]
          have hdec := totalWeight_pollAll_lt prober hnext
          rw [hweight] at hdec
          exact (receiveAll_yields h _).bind graceFits_of_wait fun hfits => ih _ hdec hfits rfl

end Wait

/-! ## Collections -/

theorem openChannel_of_ne_nil {locals : List IpAddr} (h : locals ≠ []) :
    openChannel locals.length = .ok () :=
  if_neg fun hzero => h (List.length_eq_zero_iff.mp hzero)

theorem startDeadline_yields (clock : Clock) (initial : Duration) :
    Yields (startDeadline clock 0 initial) (initial.fitsClock clock 0 = true)
      (.start 0 initial.millis) :=
  (instantAfter_yields clock 0 initial).map _

section Collect

variable (prober : Prober) (ports : List Port) (timeouts : Timeouts) (locals : List IpAddr)
  (clock : Clock)

theorem waitFor_yields :
    let w := (⟨prober, ports, timeouts.initial.millis, timeouts.grace.millis⟩ : Collector).waitFor
      locals
    Yields (waitFor clock prober ports timeouts locals) (w.fitsClock clock timeouts = true) w := by
  intro w
  have hfits : w.fitsClock clock timeouts = true ↔
      timeouts.initial.fitsClock clock 0 = true ∧
        GraceFits clock timeouts.grace w.tally.deadline := by
    simp [Wait.fitsClock, GraceFits]
  refine (startDeadline_yields clock timeouts.initial).bind (fun h => (hfits.mp h).1) ?_
  intro hinitial
  have hphase : GraceFits clock timeouts.grace (Tally.start timeouts.initial.millis).deadline :=
    Or.inl rfl
  rw [hfits.trans (and_iff_right hinitial)]
  show Yields (if 0 + timeouts.initial.millis ≤ 0 then _ else _) _ _
  rcases Nat.eq_zero_or_pos timeouts.initial.millis with hzero | hpos
  · -- Without any time to wait, nothing is received.
    have hw : w = ⟨0, locals.map (ProbeTask.start ports), .start timeouts.initial.millis⟩ :=
      Collector.waitFor_of_zero hzero
    rw [if_pos (by omega), hw]
    exact .ok hphase
  · have hw : w = _ := Collector.waitFor_of_pos hpos
    rw [if_neg (by omega), hw]
    exact (receiveAll_yields hphase _).bind graceFits_of_wait wait_yields

/-- **A collection is stopped by the clock or by nothing.** Its channel has the capacity of at least
    one message. -/
theorem collect_yields :
    let c : Collector := ⟨prober, ports, timeouts.initial.millis, timeouts.grace.millis⟩
    Yields (collect prober ports timeouts locals clock) (c.fitsClock clock timeouts locals = true)
      (c.run locals) := by
  intro c
  by_cases hnone : distinct locals = []
  · have hcollect : collect prober ports timeouts locals clock = .ok {} := by
      simp [collect, hnone]
    have hrun : c.run locals = {} := by simp [Collector.run, hnone]
    rw [hcollect, hrun]
    exact .ok (by simp [Collector.fitsClock, hnone])
  · have hcollect : collect prober ports timeouts locals clock =
        (waitFor clock prober ports timeouts (distinct locals)).map
          (Collector.reportOf (distinct locals)) := by
      simp only [collect, List.isEmpty_iff, if_neg hnone, openChannel_of_ne_nil hnone, Except.bind]
    have hfits : c.fitsClock clock timeouts locals = true ↔
        (c.waitFor (distinct locals)).fitsClock clock timeouts = true := by
      simp [Collector.fitsClock, hnone]
    rw [hcollect, Collector.run_of_ne_nil hnone, hfits]
    exact (waitFor_yields prober ports timeouts (distinct locals) clock).map _

/-- A collection comes to what it comes to, and its failure is a breach. -/
theorem collect_eq : collect prober ports timeouts locals clock =
    (NatDiscovery.collect prober ports timeouts locals clock).mapError fun _ => .clock := by
  have hyields := collect_yields prober ports timeouts locals clock
  simp only [NatDiscovery.collect]
  split
  · rename_i hfits
    exact hyields.settled hfits
  · rename_i hover
    exact hyields.stopped hover

end Collect

/-! ## The whole resolution -/

/-- What a resolution comes to where an instant beyond the clock is no failure but a breach. -/
def ofResult : Except ResolveError Report → Except Breach (Except ResolveError Report)
  | .error (.clock _) => .error .clock
  | result => .ok result

/-- **The resolution, call by call, is the resolution.** -/
theorem resolve_eq (config : Config) (interfaces : List InterfaceAddress) (draws : Draws)
    (prober : Prober) (clock : Clock) :
    resolve config interfaces draws prober clock =
      ofResult (NatDiscovery.resolve config interfaces draws prober clock) := by
  unfold resolve NatDiscovery.resolve
  cases config.addressFilter with
  | error e => rfl
  | ok filter =>
      simp only [candidatePorts_eq, Except.bind]
      show (match config.ports draws with | .error e => _ | .ok ports => _) = _
      cases config.ports draws with
      | error e => rfl
      | ok ports =>
          cases selectLocal interfaces config.enableLoopbackCandidate none with
          | none => rfl
          | some locals =>
              simp only [collect_eq]
              cases NatDiscovery.collect prober ports config.timeouts
                  (locals.filter (Filter.passes filter)) clock with
              | error e => rfl
              | ok report => rfl

theorem ofResult_eq_ok_iff {r r' : Except ResolveError Report} :
    ofResult r = .ok r' ↔ r' = r ∧ r ≠ .error (.clock .outOfRange) := by
  rcases r with (_ | _ | ⟨⟨⟩⟩) | report <;> simp [ofResult, eq_comm]

theorem ofResult_eq_error_iff {r : Except ResolveError Report} {b : Breach} :
    ofResult r = .error b ↔ b = .clock ∧ r = .error (.clock .outOfRange) := by
  rcases r with (_ | _ | ⟨⟨⟩⟩) | report <;> simp [ofResult, eq_comm]

/-- **What a resolution asks of others.** Call by call it comes to what it comes to, and only the clock
    can stop it. The clock does so exactly where there is no fault and a deadline is beyond it. With
    bounded waits it never does; with others it does for some probes, wherever there is something to
    probe. -/
theorem resolve_breach (config : Config) (interfaces : List InterfaceAddress) (draws : Draws)
    (prober : Prober) (clock : Clock) :
    let run (prober : Prober) := resolve config interfaces draws prober clock
    run prober = ofResult (NatDiscovery.resolve config interfaces draws prober clock) ∧
    run prober ≠ .error .emptyRange ∧ run prober ≠ .error .noCapacity ∧
    (run prober = .error .clock ↔
      (∀ e, ¬config.Fault interfaces e) ∧ ¬config.WithinClock interfaces draws prober clock) ∧
    (config.timeouts.Bounded clock → ∃ result, run prober = .ok result) ∧
    (¬config.timeouts.Bounded clock → (∀ e, ¬config.Fault interfaces e) →
      (∃ ip, config.Eligible interfaces ip) → ∃ prober', run prober' = .error .clock) := by
  intro run
  have hrun (prober : Prober) : run prober = ofResult _ :=
    resolve_eq config interfaces draws prober clock
  have hclock (prober : Prober) : run prober = .error .clock ↔
      (∀ e, ¬config.Fault interfaces e) ∧ ¬config.WithinClock interfaces draws prober clock := by
    rw [hrun, ofResult_eq_error_iff, and_iff_right rfl]
    exact resolve_eq_clock_iff
  refine ⟨hrun prober, ?_, ?_, hclock prober, ?_, ?_⟩
  · rw [hrun, Ne, ofResult_eq_error_iff]
    rintro ⟨h, -⟩
    injection h
  · rw [hrun, Ne, ofResult_eq_error_iff]
    rintro ⟨h, -⟩
    injection h
  · intro hbounded
    refine ⟨NatDiscovery.resolve config interfaces draws prober clock, ?_⟩
    rw [hrun, ofResult_eq_ok_iff]
    refine ⟨rfl, ?_⟩
    intro h
    exact (resolve_eq_clock_iff.mp h).2 (Config.withinClock_of_bounded hbounded)
  · rintro hunbounded hnone ⟨ip, hip⟩
    obtain ⟨plan, hplan⟩ := exists_plan draws hnone
    have hlocals : plan.locals ≠ [] :=
      List.ne_nil_of_mem ((mem_locals_plan_iff hplan).mpr ⟨ip, rfl, hip⟩)
    exact ⟨_, (hclock _).mpr ⟨hnone, not_withinClock_of_late hplan hlocals hunbounded (.v4 ip)⟩⟩

/-- A configuration whose grace period is as long as can be written. -/
def endlessGraceText : String :=
  "\x7b\"timeouts\":\x7b\"grace\":\x7b\"secs\":18446744073709551615,\"nanos\":0\x7d\x7d\x7d"

/-- The configuration that this text spells. -/
def endlessGrace : Config where
  timeouts := { grace := .ofSecs 0xFFFFFFFFFFFFFFFF }

/-- Probes that find an address after 5 milliseconds. -/
def findingProber : Prober :=
  fun _ _ => ⟨5, .found (.v4 ⟨203, 0, 113, 7⟩)⟩

/-- Nothing is wrong with the host or the configuration, and still there are probes that the endless
    grace period leads beyond the clock. The default waits lead none there. -/
theorem resolve_breach_endless :
    let clock := Clock.hourOld
    ¬endlessGrace.timeouts.Bounded clock ∧
    (∃ prober, resolve endlessGrace lonelyAddress id prober clock = .error .clock) ∧
    ({} : Config).timeouts.Bounded clock ∧
    ∀ prober, ∃ result, resolve {} lonelyAddress id prober clock = .ok result := by
  intro clock
  have hover : ¬endlessGrace.timeouts.Bounded clock := by decide
  have hdefault : ({} : Config).timeouts.Bounded clock := by decide
  have helig : endlessGrace.Eligible lonelyAddress ⟨10, 0, 0, 1⟩ := by
    refine ⟨⟨_, List.mem_cons_self, Or.inl rfl⟩, by decide, ⟨none, rfl, rfl⟩, ?_⟩
    intro hloop
    injection hloop
  refine ⟨hover, ?_, hdefault, ?_⟩
  · obtain ⟨-, -, -, -, -, hsome⟩ :=
      resolve_breach endlessGrace lonelyAddress id findingProber clock
    exact hsome hover (lonelyAddress_faultless rfl rfl) ⟨_, helig⟩
  · intro prober
    obtain ⟨-, -, -, -, hall, -⟩ := resolve_breach {} lonelyAddress id prober clock
    exact hall hdefault

/-- **A configuration that can be written down can lead beyond the clock**, whatever the clock: the
    grace period is added to the instant of the first mapping whatever its length. -/
theorem not_forall_settles :
    ¬∃ clock : Clock, ∀ (text : String) (config : Config) (interfaces : List InterfaceAddress)
      (draws : Draws) (prober : Prober), Config.ofString? text = some config → interfaces ≠ [] →
        ∃ result, resolve config interfaces draws prober clock = .ok result := by
  rintro ⟨clock, hall⟩
  have htext : Config.ofString? endlessGraceText = some endlessGrace := by
    decide +kernel
  obtain ⟨result, hresult⟩ := hall endlessGraceText endlessGrace lonelyAddress id findingProber
    htext (List.cons_ne_nil _ _)
  rw [resolve_eq, ofResult_eq_ok_iff] at hresult
  refine hresult.2 (resolve_of_overrun (lonelyAddress_faultless rfl rfl) ?_)
  have hplan : endlessGrace.plan lonelyAddress id = .ok ⟨[0], [.v4 ⟨10, 0, 0, 1⟩]⟩ := by
    decide +kernel
  have hlimit : Clock.limit < endlessGrace.timeouts.grace.secs.toNat := by decide
  unfold findingProber
  rw [withinClock_of_uniform_iff hplan (by decide) (by decide),
    Duration.fitsClock_of_limit_lt hlimit]
  rintro ⟨-, hlate | hfits⟩
  · exact absurd hlate (by decide)
  · injection hfits

end Strict

end NatDiscovery
