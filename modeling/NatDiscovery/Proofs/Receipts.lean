import NatDiscovery.Proofs.Forecast

/-!
# `Proofs.Receipts` — what a collection receives, and when

The tally counts what has been received, and its table keeps the first mapping of each external
address. Here the whole record is kept: **every mapping received, with its instant, in the order of
arrival**. The record is read off the wait itself, next to `wait`; that it holds exactly the
deliveries before the cutoff is a theorem about it (`receipts_eq`).

## Contents
- `Receipt`, `waitReceipts`, `Collector.receipts`: the record of a wait, and of a collection
- `receipts_induction`: induction over the instants of a wait, with the record so far
- `Books`, `books_waitFor`, `report_run`: tally, deadline and report are those of the record
- `Collector.deliveries`, `exists_receipts_eq`, `receipts_eq`: the record computed from the endings
-/

namespace NatDiscovery

/-- A mapping that the collector has received, and when. -/
structure Receipt where
  time : Nat
  mapping : Mapping
  deriving DecidableEq, Repr

/-- What is received at an instant, in the order of the tasks. -/
def receiptsAt (prober : Prober) (now : Nat) (tasks : List ProbeTask) : List Receipt :=
  (sentAll prober now tasks).map (Receipt.mk now)

/-- What a wait receives after the instant at which it stands. -/
def waitReceipts (prober : Prober) (grace : Nat) (tasks : List ProbeTask) (tally : Tally) :
    List Receipt :=
  match h : nextWake tasks with
  | none => []
  | some next =>
    have := totalWeight_pollAll_lt prober h
    if tally.deadline.due ≤ next then []
    else
      receiptsAt prober next tasks ++
        waitReceipts prober grace (pollAll prober next tasks)
          (tally.receiveAll grace next (sentAll prober next tasks))
termination_by totalWeight tasks

section Wait

variable {prober : Prober} {grace now : Nat} {tasks : List ProbeTask} {tally : Tally}

theorem waitReceipts_of_stopped (h : nextWake tasks = none) :
    waitReceipts prober grace tasks tally = [] := by
  rw [waitReceipts]
  split
  · rfl
  · rename_i next hnext
    rw [h] at hnext
    injection hnext

theorem waitReceipts_of_some {next : Nat} (h : nextWake tasks = some next) :
    waitReceipts prober grace tasks tally =
      if tally.deadline.due ≤ next then []
      else
        receiptsAt prober next tasks ++
          waitReceipts prober grace (pollAll prober next tasks)
            (tally.receiveAll grace next (sentAll prober next tasks)) := by
  rw [waitReceipts]
  split
  · rename_i hnone
    rw [h] at hnone
    injection hnone
  · rename_i next' hnext
    rw [h] at hnext
    injection hnext with hnext
    subst hnext
    rfl

/-- **Induction over a wait and its record.** What every instant of the wait keeps, with the
    receipts of that instant added to the record, holds at the last instant of all that the wait
    receives. -/
theorem receipts_induction (prober : Prober) (grace now : Nat)
    (Inv : Nat → List ProbeTask → Tally → List Receipt → Prop)
    (keep : ∀ now tasks tally record next, Inv now tasks tally record →
      nextWake tasks = some next → next < tally.deadline.due →
      Inv next (pollAll prober next tasks)
        (tally.receiveAll grace next (sentAll prober next tasks))
        (record ++ receiptsAt prober next tasks))
    {record : List Receipt} (start : Inv now tasks tally record) :
    ∃ last tasks' tally',
      Inv last tasks' tally' (record ++ waitReceipts prober grace tasks tally) ∧
      ((nextWake tasks' = none ∧
          wait prober grace now tasks tally = ⟨last, tasks', tally'⟩) ∨
        ∃ next, nextWake tasks' = some next ∧ tally'.deadline.due ≤ next ∧
          wait prober grace now tasks tally = ⟨tally'.deadline.due, tasks', tally'⟩) := by
  -- The record so far and what the wait has yet to receive make up the same list all along.
  let whole := record ++ waitReceipts prober grace tasks tally
  obtain ⟨last, tasks', tally', ⟨past, hinv, hwhole⟩, hend⟩ := @wait_induction prober grace
    (fun now ts y => ∃ past, Inv now ts y past ∧
      past ++ waitReceipts prober grace ts y = whole)
    (by
      rintro now ts y next ⟨past, hinv, hwhole⟩ hnext hdue
      refine ⟨past ++ receiptsAt prober next ts, keep now ts y past next hinv hnext hdue, ?_⟩
      rw [← hwhole, waitReceipts_of_some hnext, if_neg (Nat.not_le.mpr hdue), List.append_assoc])
    now tasks tally ⟨record, start, rfl⟩
  have hnil : waitReceipts prober grace tasks' tally' = [] := by
    rcases hend with ⟨hstop, _⟩ | ⟨next, hnext, hdue, _⟩
    · exact waitReceipts_of_stopped hstop
    · rw [waitReceipts_of_some hnext, if_pos hdue]
  rw [hnil, List.append_nil] at hwhole
  rw [hwhole] at hinv
  exact ⟨last, tasks', tally', hinv, hend⟩

end Wait

namespace Collector

/-- What a collection of these distinct addresses receives, in the order of arrival. -/
def receipts (c : Collector) (locals : List IpAddr) : List Receipt :=
  let tasks := locals.map (ProbeTask.start c.ports)
  let tally := Tally.start c.initial
  if tally.deadline.due ≤ 0 then []
  else
    receiptsAt c.prober 0 tasks ++
      waitReceipts c.prober c.grace (pollAll c.prober 0 tasks)
        (tally.receiveAll c.grace 0 (sentAll c.prober 0 tasks))

variable {c : Collector} {locals : List IpAddr}

theorem receipts_of_zero (h : c.initial = 0) : c.receipts locals = [] := by
  simp [receipts, h]

theorem receipts_of_pos (h : 0 < c.initial) :
    let tasks := locals.map (ProbeTask.start c.ports)
    c.receipts locals =
      receiptsAt c.prober 0 tasks ++
        waitReceipts c.prober c.grace (pollAll c.prober 0 tasks)
          ((Tally.start c.initial).receiveAll c.grace 0 (sentAll c.prober 0 tasks)) := by
  simp only [receipts, Tally.due_start, if_neg (Nat.not_le.mpr h)]

/-! ## The books -/

/-- The deadline that a record of receipts leaves: the first of them decides. -/
def deadlineOf (c : Collector) (record : List Receipt) : Deadline :=
  match record.head? with
  | some first => ⟨.graceAfterFirst, first.time + c.grace⟩
  | none => .start 0 c.initial

/-- The tally is that of this record, and so is its deadline. -/
structure Books (c : Collector) (record : List Receipt) (tally : Tally) : Prop where
  records : tally.Records (record.map Receipt.mapping)
  deadline : tally.deadline = c.deadlineOf record

theorem books_start (c : Collector) : c.Books [] (.start c.initial) :=
  ⟨Tally.records_start _, rfl⟩

/-- The receipts of one more instant are entered. -/
theorem Books.receiveAll {record : List Receipt} {tally : Tally} (h : c.Books record tally)
    (now : Nat) (tasks : List ProbeTask) :
    c.Books (record ++ receiptsAt c.prober now tasks)
      (tally.receiveAll c.grace now (sentAll c.prober now tasks)) := by
  constructor
  · have hmap : (receiptsAt c.prober now tasks).map Receipt.mapping =
        sentAll c.prober now tasks := by
      rw [receiptsAt, List.map_map]
      exact List.map_id' _
    rw [List.map_append, hmap]
    exact Tally.records_receiveAll h.records _ _ _
  · rw [Tally.deadline_receiveAll, h.deadline]
    cases hsent : sentAll c.prober now tasks with
    | nil => simp [receiptsAt, hsent]
    | cons m ms =>
        -- Only the first receipt of all moves the deadline.
        cases record with
        | nil => simp [receiptsAt, hsent, deadlineOf, Deadline.onMapping, Deadline.start]
        | cons first record => simp [deadlineOf, Deadline.onMapping]

/-- **The tally of a collection is that of its record**: its table, its counters and its
    deadline. -/
theorem books_waitFor (c : Collector) (locals : List IpAddr) :
    c.Books (c.receipts locals) (c.waitFor locals).tally := by
  rcases Nat.eq_zero_or_pos c.initial with hzero | hpos
  · rw [receipts_of_zero hzero, waitFor_of_zero hzero]
    exact books_start c
  · rw [receipts_of_pos hpos, waitFor_of_pos hpos]
    have hfirst := (books_start c).receiveAll 0 (locals.map (ProbeTask.start c.ports))
    obtain ⟨last, tasks, tally, hbooks, hend⟩ := receipts_induction c.prober c.grace 0
      (fun _ _ tally record => c.Books record tally)
      (fun _ tasks _ _ next h _ _ => h.receiveAll next tasks) hfirst
    rcases hend with ⟨_, hwait⟩ | ⟨_, _, _, hwait⟩
    · rw [hwait]
      exact hbooks
    · rw [hwait]
      exact hbooks

theorem receipts_nil (c : Collector) : c.receipts [] = [] := by
  have hstop : nextWake (pollAll c.prober 0 []) = none := rfl
  rcases Nat.eq_zero_or_pos c.initial with hzero | hpos
  · exact receipts_of_zero hzero
  · rw [receipts_of_pos hpos, List.map_nil, waitReceipts_of_stopped hstop]
    rfl

/-- **The report of a collection is that of its record**, but for the probes and the time. -/
theorem report_run (c : Collector) (locals : List IpAddr) :
    let ls := distinct locals
    let received := (c.receipts ls).map Receipt.mapping
    let r := c.run locals
    r.mappings = reportedMappings received ls ∧
      r.launched = ls.length ∧
      r.resolved = received.length ∧
      r.duplicates = received.length - (firstOwners received).length ∧
      r.joined = ls.length := by
  intro ls received r
  by_cases hnone : ls = []
  · have hreceived : received = [] := by
      simp only [received, hnone, receipts_nil, List.map_nil]
    have hr : r = {} := by
      simp [r, run, ls, hnone]
    rw [hr, hreceived, hnone]
    simp [reportedMappings, firstOwners]
  · have hr : r = reportOf ls (c.waitFor ls) := run_of_ne_nil hnone
    have hrecords := (books_waitFor c ls).records
    have hcount : (c.waitFor ls).tally.duplicates + (firstOwners received).length =
        received.length := hrecords.duplicates
    rw [hr]
    refine ⟨?_, rfl, hrecords.resolved, ?_, ?_⟩
    · show mappingsOf (c.waitFor ls).tally.table ls = _
      rw [hrecords.table]
      exact mappingsOf_insertAll _ (nodup_distinct locals)
    · show (c.waitFor ls).tally.duplicates = _
      omega
    · show ((c.waitFor ls).tasks.map ProbeTask.cancel).length = _
      rw [List.length_map, length_waitFor_tasks]

/-! ## The record computed -/

/-- The deliveries before an instant, in the order of time. -/
def deliveries (c : Collector) (locals : List IpAddr) (t : Nat) : List Receipt :=
  (List.range t).flatMap fun s => (c.arrivalsAt locals s).map (Receipt.mk s)

theorem deliveries_succ (t : Nat) :
    c.deliveries locals (t + 1) =
      c.deliveries locals t ++ (c.arrivalsAt locals t).map (Receipt.mk t) := by
  simp [deliveries, List.range_succ]

/-- Instants without arrivals may be skipped. -/
theorem deliveries_of_quiet {a b : Nat} (hab : a ≤ b)
    (hquiet : ∀ t, a ≤ t → t < b → c.arrivalsAt locals t = []) :
    c.deliveries locals b = c.deliveries locals a := by
  induction hab with
  | refl => rfl
  | @step b hab ih =>
      rw [Nat.succ_eq_add_one, deliveries_succ, hquiet b hab (Nat.lt_succ_self b), List.map_nil,
        List.append_nil]
      exact ih fun t ha hb => hquiet t ha (Nat.lt_succ_of_lt hb)

/-- A delivery is that of one task, at its ending. -/
theorem mem_deliveries {t : Nat} {r : Receipt} :
    r ∈ c.deliveries locals t ↔
      ∃ ip ∈ locals, r.time < t ∧ (c.ending ip).time = r.time ∧
        (c.ending ip).mapping = some r.mapping := by
  unfold deliveries
  rw [List.mem_flatMap]
  constructor
  · rintro ⟨s, hs, hr⟩
    obtain ⟨m, hm, rfl⟩ := List.mem_map.mp hr
    obtain ⟨ip, hip, htime, hmap⟩ := mem_arrivalsAt.mp hm
    exact ⟨ip, hip, List.mem_range.mp hs, htime, hmap⟩
  · rintro ⟨ip, hip, hlt, htime, hmap⟩
    exact ⟨r.time, List.mem_range.mpr hlt,
      List.mem_map.mpr ⟨r.mapping, mem_arrivalsAt.mpr ⟨ip, hip, htime, hmap⟩, rfl⟩⟩

section Course

variable {now next : Nat} {tasks : List ProbeTask} {tally : Tally}

/-- When a wait on course ends, nothing more arrives before its deadline. -/
theorem OnCourse.quiet (h : c.OnCourse locals now tasks tally)
    (hend : nextWake tasks = none ∨
      ∃ next, nextWake tasks = some next ∧ tally.deadline.due ≤ next) :
    ∀ s, now + 1 ≤ s → s < tally.deadline.due → c.arrivalsAt locals s = [] := by
  intro s hs hlt
  rcases hend with hstop | ⟨next, hnext, hdue⟩
  · have hlast := h.following.lastEnd_le_of_stopped hstop
    exact arrivalsAt_of_lastEnd_lt (Nat.lt_of_le_of_lt hlast hs)
  · have hquiet := h.following.quiet fun _ ht _ hwakes => nextWake_le hnext ht hwakes
    exact hquiet s hs (Nat.lt_of_lt_of_le hlt hdue)

/-- When a wait on course ends, its deadline is the cutoff. -/
theorem OnCourse.cutoff_eq (h : c.OnCourse locals now tasks tally)
    (hend : nextWake tasks = none ∨
      ∃ next, nextWake tasks = some next ∧ tally.deadline.due ≤ next) :
    c.cutoff locals = tally.deadline.due :=
  (h.caught.cutoff_eq h.early (h.quiet hend)).1

/-- A step of the wait receives the deliveries of its instant, and skips none. -/
theorem Following.deliveries_step (h : c.Following locals now tasks)
    (hnext : nextWake tasks = some next) :
    c.Following locals next (pollAll c.prober next tasks) ∧
      c.deliveries locals (now + 1) ++ receiptsAt c.prober next tasks =
        c.deliveries locals (next + 1) := by
  obtain ⟨hlater, _⟩ := h.nextWake_bounds hnext
  have hmin : ∀ t ∈ tasks, ∀ ends, t.wakes? = some ends → next ≤ ends :=
    fun _ ht _ hwakes => nextWake_le hnext ht hwakes
  obtain ⟨hfollow, hsent⟩ := following_step h hlater hmin
  refine ⟨hfollow, ?_⟩
  rw [deliveries_succ next, deliveries_of_quiet hlater (h.quiet hmin), receiptsAt, hsent]

/-- What the start of a collection receives. -/
theorem receiptsAt_start (c : Collector) (locals : List IpAddr) :
    receiptsAt c.prober 0 (locals.map (ProbeTask.start c.ports)) = c.deliveries locals (0 + 1) := by
  obtain ⟨_, hsent⟩ := following_start c locals
  rw [receiptsAt, hsent, deliveries_succ]
  rfl

end Course

/-- Whatever the grace period, a collection receives what is delivered before some instant. -/
theorem exists_receipts_eq (c : Collector) (locals : List IpAddr) :
    ∃ t, c.receipts locals = c.deliveries locals t := by
  rcases Nat.eq_zero_or_pos c.initial with hzero | hpos
  · exact ⟨0, receipts_of_zero hzero⟩
  · rw [receipts_of_pos hpos]
    obtain ⟨hfollow, _⟩ := following_start c locals
    obtain ⟨last, tasks, tally, ⟨_, hrecord⟩, _⟩ := receipts_induction c.prober c.grace 0
      (fun now tasks _ record =>
        c.Following locals now tasks ∧ record = c.deliveries locals (now + 1))
      (by
        rintro now tasks tally record next ⟨hfollow, rfl⟩ hnext hdue
        exact hfollow.deliveries_step hnext)
      ⟨hfollow, receiptsAt_start c locals⟩
    exact ⟨last + 1, hrecord⟩

/-- **A collection receives exactly what is delivered before its cutoff**, in the order of time. -/
theorem receipts_eq (hgrace : 0 < c.grace) (locals : List IpAddr) :
    c.receipts locals = c.deliveries locals (c.cutoff locals) := by
  rcases Nat.eq_zero_or_pos c.initial with hzero | hpos
  · -- There is no time to wait.
    have hnone : c.arrivalsBefore locals c.initial = [] := by
      rw [hzero]
      rfl
    rw [receipts_of_zero hzero, cutoff_of_none hnone, hzero]
    rfl
  · rw [receipts_of_pos hpos]
    obtain ⟨last, tasks, tally, ⟨hcourse, hrecord⟩, hend⟩ := receipts_induction
      c.prober c.grace 0
      (fun now tasks tally record =>
        c.OnCourse locals now tasks tally ∧ record = c.deliveries locals (now + 1))
      (by
        rintro now tasks tally record next ⟨hcourse, rfl⟩ hnext hdue
        exact ⟨onCourse_step hgrace hcourse hnext hdue,
          (hcourse.following.deliveries_step hnext).2⟩)
      ⟨onCourse_start hgrace hpos, receiptsAt_start c locals⟩
    have hstopped : nextWake tasks = none ∨
        ∃ next, nextWake tasks = some next ∧ tally.deadline.due ≤ next := by
      rcases hend with ⟨hstop, _⟩ | ⟨next, hnext, hdue, _⟩
      · exact Or.inl hstop
      · exact Or.inr ⟨next, hnext, hdue⟩
    rw [hrecord, hcourse.cutoff_eq hstopped]
    exact (deliveries_of_quiet hcourse.early (hcourse.quiet hstopped)).symm

/-- Exactly the mappings of the tasks that end before the cutoff are received. -/
theorem mem_receipts (hgrace : 0 < c.grace) {r : Receipt} :
    r ∈ c.receipts locals ↔
      ∃ ip ∈ locals, r.time < c.cutoff locals ∧ (c.ending ip).time = r.time ∧
        (c.ending ip).mapping = some r.mapping := by
  rw [receipts_eq hgrace]
  exact mem_deliveries

end Collector

end NatDiscovery
