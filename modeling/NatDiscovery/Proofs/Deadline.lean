import Mathlib.Data.List.Induction
import Mathlib.Tactic.Tauto
import NatDiscovery.Deadline

/-!
# `Proofs.Deadline` — a deadline moves at most once

From its start on, a deadline sees mappings arrive, each with a grace period of its own, time go by,
and the end of the wait, in any order and any number of times. Here is where it stands after any of
these courses, told from the events alone: the phase by whether a finish or a mapping is among them,
the instant by **the first mapping, if it comes before the first finish**.

All of it rests on one fact about a single event (`settled_next`): once the phase is no longer the
first one, it never is again, and the instant stays.

## Contents
- `Event`, `Moment`, `Moment.next`, `Moment.after`, `course`, `course_append`: events, one and many
- `elapsed`, `now_course`: what time it is
- `Phase.rank`, `rank_after`, `phase_course_eq_done_iff`, `phase_course_eq_awaiting_iff`: the phase
- `settled_next`, `due_after_of_settled`, `due_after_of_no_mapping`: what leaves the instant alone
- `due_course_of_first`, `due_course_of_none`, `endsAt_course`: the instant
- `eq_of_moved`, `due_course_append_of_mapping`, `course_moves_once`: how often it moves
-/

namespace NatDiscovery

namespace Deadline

/-! ## Events -/

/-- What can happen while a deadline is kept. -/
inductive Event where
  /-- A mapping arrives, with this grace period for the others. -/
  | mapping (grace : Nat)
  /-- Time goes by. -/
  | advance (span : Nat)
  /-- The wait ends. -/
  | finish
  deriving DecidableEq, Repr

/-- What time it is, and the deadline. -/
structure Moment where
  now : Nat
  deadline : Deadline
  deriving DecidableEq, Repr

/-- The moment after one more event. -/
def Moment.next (m : Moment) : Event → Moment
  | .mapping grace => { m with deadline := m.deadline.onMapping m.now grace }
  | .advance span => { m with now := m.now + span }
  | .finish => { m with deadline := m.deadline.finish }

/-- The moment after more events. -/
def Moment.after (m : Moment) (events : List Event) : Moment :=
  events.foldl next m

/-- The moment after these events, counted from the start of the deadline. -/
def course (now initial : Nat) (events : List Event) : Moment :=
  (⟨now, .start now initial⟩ : Moment).after events

theorem Moment.after_append (m : Moment) (events later : List Event) :
    m.after (events ++ later) = (m.after events).after later :=
  List.foldl_append

theorem Moment.after_concat (m : Moment) (events : List Event) (e : Event) :
    m.after (events ++ [e]) = (m.after events).next e :=
  m.after_append events [e]

theorem course_append (now initial : Nat) (events later : List Event) :
    course now initial (events ++ later) = (course now initial events).after later :=
  Moment.after_append _ events later

theorem course_concat (now initial : Nat) (events : List Event) (e : Event) :
    course now initial (events ++ [e]) = (course now initial events).next e :=
  Moment.after_concat _ events e

/-! ## The time -/

/-- The time that an event takes. -/
def Event.span : Event → Nat
  | .advance span => span
  | _ => 0

/-- The time that goes by during these events. -/
def elapsed : List Event → Nat
  | [] => 0
  | e :: events => e.span + elapsed events

theorem Moment.now_next (m : Moment) (e : Event) : (m.next e).now = m.now + e.span := by
  cases e <;> rfl

theorem Moment.now_after (m : Moment) (events : List Event) :
    (m.after events).now = m.now + elapsed events := by
  induction events generalizing m with
  | nil => rfl
  | cons e events ih =>
      show ((m.next e).after events).now = m.now + (e.span + elapsed events)
      rw [ih (m.next e), m.now_next, Nat.add_assoc]

/-! ## The phase -/

/-- How far a phase is from the start. -/
def Phase.rank : Phase → Nat
  | .awaitingFirst => 0
  | .graceAfterFirst => 1
  | .done => 2

/-- **No event leads back to an earlier phase.** -/
theorem Moment.rank_next (m : Moment) (e : Event) :
    m.deadline.phase.rank ≤ (m.next e).deadline.phase.rank := by
  cases e with
  | mapping grace =>
      show _ ≤ (m.deadline.onMapping m.now grace).phase.rank
      unfold onMapping
      split
      · rename_i hawaiting
        rw [hawaiting]
        exact Nat.zero_le _
      · exact Nat.le_refl _
  | advance span => exact Nat.le_refl _
  | finish =>
      show _ ≤ Phase.done.rank
      cases m.deadline.phase <;> decide

theorem Moment.rank_after (m : Moment) (events : List Event) :
    m.deadline.phase.rank ≤ (m.after events).deadline.phase.rank := by
  induction events generalizing m with
  | nil => exact Nat.le_refl _
  | cons e events ih => exact Nat.le_trans (m.rank_next e) (ih (m.next e))

theorem Moment.phase_next_eq_done_iff {m : Moment} {e : Event} :
    (m.next e).deadline.phase = .done ↔ e = .finish ∨ m.deadline.phase = .done := by
  cases e with
  | mapping grace =>
      show (m.deadline.onMapping m.now grace).phase = .done ↔ _
      unfold onMapping
      split
      · rename_i hawaiting
        simp [hawaiting]
      · simp
  | advance span => simp [next]
  | finish => simp [next, Deadline.finish]

theorem Moment.phase_next_eq_awaiting_iff {m : Moment} {e : Event} :
    (m.next e).deadline.phase = .awaitingFirst ↔
      (e ≠ .finish ∧ ∀ grace, e ≠ .mapping grace) ∧ m.deadline.phase = .awaitingFirst := by
  cases e with
  | mapping grace =>
      show (m.deadline.onMapping m.now grace).phase = .awaitingFirst ↔ _
      unfold onMapping
      split
      · simp
      · rename_i hmoved
        simp [hmoved]
  | advance span => simp [next]
  | finish => simp [next, Deadline.finish]

section Course

variable {now initial : Nat} {events : List Event}

theorem now_course (now initial : Nat) (events : List Event) :
    (course now initial events).now = now + elapsed events :=
  Moment.now_after _ events

theorem phase_course_eq_done_iff :
    (course now initial events).deadline.phase = .done ↔ .finish ∈ events := by
  induction events using List.reverseRecOn with
  | nil => simp [course, Moment.after, start]
  | append_singleton events e ih =>
      rw [course_concat, Moment.phase_next_eq_done_iff, ih, List.mem_append, List.mem_singleton,
        or_comm, eq_comm (a := e)]

theorem phase_course_eq_awaiting_iff :
    (course now initial events).deadline.phase = .awaitingFirst ↔
      .finish ∉ events ∧ ∀ grace, .mapping grace ∉ events := by
  induction events using List.reverseRecOn with
  | nil => simp [course, Moment.after, start]
  | append_singleton events e ih =>
      rw [course_concat, Moment.phase_next_eq_awaiting_iff]
      simp only [ih, List.mem_append, List.mem_singleton, not_or, forall_and, eq_comm (b := e)]
      tauto

theorem phase_course_eq_grace_iff :
    (course now initial events).deadline.phase = .graceAfterFirst ↔
      .finish ∉ events ∧ ∃ grace, .mapping grace ∈ events := by
  have hdone : (course now initial events).deadline.phase = .done ↔ .finish ∈ events :=
    phase_course_eq_done_iff
  have hawaiting : (course now initial events).deadline.phase = .awaitingFirst ↔
      .finish ∉ events ∧ ∀ grace, .mapping grace ∉ events :=
    phase_course_eq_awaiting_iff
  cases hphase : (course now initial events).deadline.phase with
  | awaitingFirst =>
      rw [hphase] at hawaiting
      simp [hawaiting.mp rfl]
  | graceAfterFirst =>
      rw [hphase] at hdone hawaiting
      simp only [reduceCtorEq, false_iff, not_and, not_forall, not_not] at hdone hawaiting
      simp [hdone, hawaiting hdone]
  | done =>
      rw [hphase] at hdone
      simp [hdone.mp rfl]

end Course

/-! ## The instant -/

/-- **What is settled stays so.** After the first phase an event neither leads back to it nor moves the
    instant. -/
theorem Moment.settled_next {m : Moment} (h : m.deadline.phase ≠ .awaitingFirst) (e : Event) :
    (m.next e).deadline.phase ≠ .awaitingFirst ∧ (m.next e).deadline.due = m.deadline.due := by
  refine ⟨fun hback => h (phase_next_eq_awaiting_iff.mp hback).2, ?_⟩
  cases e with
  | mapping grace =>
      show (m.deadline.onMapping m.now grace).due = _
      rw [onMapping, if_neg h]
  | advance span => rfl
  | finish => rfl

theorem Moment.due_after_of_settled {m : Moment} (h : m.deadline.phase ≠ .awaitingFirst)
    (events : List Event) : (m.after events).deadline.due = m.deadline.due := by
  induction events generalizing m with
  | nil => rfl
  | cons e events ih =>
      obtain ⟨hsettled, hdue⟩ := settled_next h e
      exact (ih hsettled).trans hdue

/-- Only a mapping moves the instant. -/
theorem Moment.due_after_of_no_mapping {m : Moment} {events : List Event}
    (h : ∀ grace, .mapping grace ∉ events) : (m.after events).deadline.due = m.deadline.due := by
  induction events generalizing m with
  | nil => rfl
  | cons e events ih =>
      have hlater := ih (m := m.next e) fun grace hmem => h grace (List.mem_cons_of_mem e hmem)
      refine hlater.trans ?_
      cases e with
      | mapping grace => exact absurd List.mem_cons_self (h grace)
      | advance span => rfl
      | finish => rfl

/-- An event that moves the instant settles it. -/
theorem Moment.settled_of_moved {m : Moment} {e : Event}
    (h : (m.next e).deadline.due ≠ m.deadline.due) :
    (m.next e).deadline.phase ≠ .awaitingFirst := by
  intro hawaiting
  obtain ⟨⟨-, hother⟩, -⟩ := phase_next_eq_awaiting_iff.mp hawaiting
  have hnone : ∀ grace, Event.mapping grace ∉ [e] := by
    intro grace hmem
    exact hother grace (List.mem_singleton.mp hmem).symm
  exact h (due_after_of_no_mapping hnone)

/-- The instant at which the wait is to end, told from the events. -/
inductive EndsAt (now initial : Nat) (events : List Event) : Nat → Prop where
  /-- No mapping comes before the first finish, so it is the instant of the start. -/
  | start (late : ∀ before grace behind, events = before ++ .mapping grace :: behind →
      .finish ∈ before) : EndsAt now initial events (now + initial)
  /-- A mapping does. It is the instant of the first mapping and the grace period that came with it. -/
  | first {before behind : List Event} {grace : Nat}
      (split : events = before ++ .mapping grace :: behind)
      (none_before : ∀ grace', .mapping grace' ∉ before) (unended : .finish ∉ before) :
      EndsAt now initial events (now + elapsed before + grace)

/-- Where there are mappings, there is a first one. -/
theorem exists_first_mapping {events : List Event} (h : ∃ grace, .mapping grace ∈ events) :
    ∃ before grace behind, events = before ++ .mapping grace :: behind ∧
      ∀ grace', .mapping grace' ∉ before := by
  obtain ⟨grace, hmem⟩ := h
  induction events with
  | nil => exact absurd hmem List.not_mem_nil
  | cons e events ih =>
      by_cases he : ∃ grace', e = .mapping grace'
      · obtain ⟨grace', rfl⟩ := he
        exact ⟨[], grace', events, rfl, fun _ => List.not_mem_nil⟩
      · have hother : ∀ grace', .mapping grace' ≠ e := fun grace' heq => he ⟨grace', heq.symm⟩
        have hmem : .mapping grace ∈ events := (List.mem_cons.mp hmem).resolve_left (hother grace)
        obtain ⟨before, first, behind, rfl, hnone⟩ := ih hmem
        refine ⟨e :: before, first, behind, rfl, ?_⟩
        intro grace' hin
        exact hnone grace' ((List.mem_cons.mp hin).resolve_left (hother grace'))

section Course

variable {now initial : Nat}

/-- **The first mapping decides**, if the wait is not over by then: the instant is its own and its own
    grace period later. -/
theorem due_course_of_first {before behind : List Event} {grace : Nat}
    (hfirst : ∀ grace', .mapping grace' ∉ before) (hopen : .finish ∉ before) :
    (course now initial (before ++ .mapping grace :: behind)).deadline.due =
      now + elapsed before + grace := by
  have hawaiting : (course now initial before).deadline.phase = .awaitingFirst :=
    phase_course_eq_awaiting_iff.mpr ⟨hopen, hfirst⟩
  have hmapping : ((course now initial before).next (.mapping grace)).deadline =
      ⟨.graceAfterFirst, now + elapsed before + grace⟩ := by
    show (course now initial before).deadline.onMapping (course now initial before).now grace = _
    rw [onMapping, if_pos hawaiting, now_course]
  have hsettled : ((course now initial before).next (.mapping grace)).deadline.phase ≠
      .awaitingFirst := by
    rw [hmapping]
    exact Phase.noConfusion
  rw [course_append]
  exact (Moment.due_after_of_settled hsettled behind).trans (congrArg due hmapping)

/-- **Without a mapping before the first finish** the instant is the one at the start. -/
theorem due_course_of_none {events : List Event}
    (h : ∀ before grace behind, events = before ++ .mapping grace :: behind → .finish ∈ before) :
    (course now initial events).deadline.due = now + initial := by
  by_cases hfinish : .finish ∈ events
  · -- Up to the first finish there is no mapping, and behind it nothing counts.
    obtain ⟨before, behind, rfl, hopen⟩ := List.eq_append_cons_of_mem hfinish
    have hnone : ∀ grace, .mapping grace ∉ before := by
      intro grace hmem
      obtain ⟨first, rest, rfl⟩ := List.append_of_mem hmem
      have hearly := h first grace (rest ++ .finish :: behind) (by simp)
      exact hopen (List.mem_append_left _ hearly)
    have hdone : ((course now initial before).next .finish).deadline.phase ≠ .awaitingFirst :=
      Phase.noConfusion
    rw [course_append]
    exact (Moment.due_after_of_settled hdone behind).trans (Moment.due_after_of_no_mapping hnone)
  · have hnone : ∀ grace, .mapping grace ∉ events := by
      intro grace hmem
      obtain ⟨first, rest, rfl⟩ := List.append_of_mem hmem
      exact hfinish (List.mem_append_left _ (h first grace rest rfl))
    exact Moment.due_after_of_no_mapping hnone

theorem endsAt_course (now initial : Nat) (events : List Event) :
    EndsAt now initial events (course now initial events).deadline.due := by
  by_cases hlate : ∀ before grace behind, events = before ++ .mapping grace :: behind →
      .finish ∈ before
  · rw [due_course_of_none hlate]
    exact .start hlate
  · -- Some mapping comes before any finish, and so does the first of all.
    simp only [not_forall] at hlate
    obtain ⟨before, grace, behind, rfl, hopen⟩ := hlate
    have hsome : ∃ g, .mapping g ∈ before ++ [.mapping grace] := ⟨grace, by simp⟩
    obtain ⟨before', grace', behind', hsplit, hfirst⟩ := exists_first_mapping hsome
    have hopen' : .finish ∉ before' := by
      intro hmem
      have hmem : Event.finish ∈ before ++ [.mapping grace] := hsplit ▸ List.mem_append_left _ hmem
      simp [hopen] at hmem
    have hwhole : before ++ .mapping grace :: behind =
        before' ++ .mapping grace' :: (behind' ++ behind) := by
      rw [List.append_cons, hsplit, List.append_assoc, List.cons_append]
    rw [hwhole, due_course_of_first hfirst hopen']
    exact .first rfl hfirst hopen'

/-- After a move the instant stays. -/
theorem due_take_of_moved {events : List Event} {i j : Nat}
    (hmoved : (course now initial (events.take i)).deadline.due ≠
      (course now initial (events.take (i + 1))).deadline.due) (hlt : i < j) :
    (course now initial (events.take j)).deadline.due =
      (course now initial (events.take (i + 1))).deadline.due := by
  have hi : i < events.length := by
    by_contra hge
    rw [Nat.not_lt] at hge
    rw [List.take_of_length_le hge, List.take_of_length_le (Nat.le_succ_of_le hge)] at hmoved
    exact hmoved rfl
  have hstep : course now initial (events.take (i + 1)) =
      (course now initial (events.take i)).next events[i] := by
    rw [← List.take_append_getElem hi, course_concat]
  rw [hstep] at hmoved
  obtain ⟨later, hlater⟩ : events.take (i + 1) <+: events.take j :=
    List.take_prefix_take_left hlt
  rw [← hlater, course_append, hstep]
  exact Moment.due_after_of_settled (Moment.settled_of_moved (Ne.symm hmoved)) later

/-- **The instant moves at most once.** -/
theorem eq_of_moved {events : List Event} {i j : Nat}
    (hi : (course now initial (events.take i)).deadline.due ≠
      (course now initial (events.take (i + 1))).deadline.due)
    (hj : (course now initial (events.take j)).deadline.due ≠
      (course now initial (events.take (j + 1))).deadline.due) : i = j := by
  rcases Nat.lt_trichotomy i j with hlt | heq | hlt
  · exact absurd ((due_take_of_moved hi hlt).trans
      (due_take_of_moved hi (Nat.lt_succ_of_lt hlt)).symm) hj
  · exact heq
  · exact absurd ((due_take_of_moved hj hlt).trans
      (due_take_of_moved hj (Nat.lt_succ_of_lt hlt)).symm) hi

/-- Whatever the first mapping came to, the later ones leave the instant alone. -/
theorem due_course_append_of_mapping {events : List Event} (h : ∃ grace, .mapping grace ∈ events)
    (later : List Event) :
    (course now initial (events ++ later)).deadline.due =
      (course now initial events).deadline.due := by
  obtain ⟨grace, hmem⟩ := h
  rw [course_append]
  apply Moment.due_after_of_settled
  intro hawaiting
  exact (phase_course_eq_awaiting_iff.mp hawaiting).2 grace hmem

/-- What is done stays done. -/
theorem done_course_append {events : List Event}
    (h : (course now initial events).deadline.phase = .done) (later : List Event) :
    (course now initial (events ++ later)).deadline.phase = .done := by
  rw [phase_course_eq_done_iff] at h ⊢
  exact List.mem_append_left _ h

end Course

/-- **The course of a deadline, told from its events.** It is done if there was a finish; if not, in
    its grace period if there was a mapping; and if not, awaiting the first one. The instant is that
    of the start as long as no mapping came before the first finish, and otherwise that of the first
    mapping with its own grace period. So it moves at most once, never after a mapping, and no event
    leads back to an earlier phase. -/
theorem course_moves_once (now initial : Nat) (events : List Event) :
    let deadline := fun events => (course now initial events).deadline
    ((deadline events).phase = .done ↔ .finish ∈ events) ∧
    ((deadline events).phase = .graceAfterFirst ↔
      .finish ∉ events ∧ ∃ grace, .mapping grace ∈ events) ∧
    ((deadline events).phase = .awaitingFirst ↔
      .finish ∉ events ∧ ∀ grace, .mapping grace ∉ events) ∧
    EndsAt now initial events (deadline events).due ∧
    (∀ i j, (deadline (events.take i)).due ≠ (deadline (events.take (i + 1))).due →
      (deadline (events.take j)).due ≠ (deadline (events.take (j + 1))).due → i = j) ∧
    ∀ later,
      ((∃ grace, .mapping grace ∈ events) →
        (deadline (events ++ later)).due = (deadline events).due) ∧
      (deadline events).phase.rank ≤ (deadline (events ++ later)).phase.rank ∧
      ((deadline events).phase = .done → (deadline (events ++ later)).phase = .done) := by
  refine ⟨phase_course_eq_done_iff, phase_course_eq_grace_iff, phase_course_eq_awaiting_iff,
    endsAt_course now initial events, fun _ _ => eq_of_moved, ?_⟩
  intro later
  refine ⟨fun hsome => due_course_append_of_mapping hsome later, ?_,
    fun hdone => done_course_append hdone later⟩
  show _ ≤ (course now initial (events ++ later)).deadline.phase.rank
  rw [course_append]
  exact Moment.rank_after _ later

/-- A wait that ends between the second mapping and the third. -/
def lateMappings : List Event :=
  [.advance 3, .mapping 10, .advance 4, .mapping 99, .finish, .mapping 50, .advance 1]

/-- Only the first of its mappings moves the instant, and the wait stays at its end. -/
theorem course_moves_once_late :
    let deadline := fun events => (course 100 50 events).deadline
    EndsAt 100 50 lateMappings 113 ∧
      (deadline (lateMappings.take 1)).due ≠ (deadline (lateMappings.take 2)).due ∧
      (∀ j, (deadline (lateMappings.take j)).due ≠ (deadline (lateMappings.take (j + 1))).due →
        1 = j) ∧
      (∃ grace, .mapping grace ∈ lateMappings) ∧
      (deadline (lateMappings ++ [.mapping 7])).due = 113 ∧
      (deadline lateMappings).phase = .done ∧
      (deadline (lateMappings ++ [.mapping 7])).phase = .done := by
  intro deadline
  obtain ⟨-, -, -, hends, honce, hlater⟩ := course_moves_once 100 50 lateMappings
  have hmoved : (deadline (lateMappings.take 1)).due ≠ (deadline (lateMappings.take 2)).due := by
    decide
  have hsome : ∃ grace, .mapping grace ∈ lateMappings := ⟨10, by decide⟩
  have hdone : (deadline lateMappings).phase = .done := by decide
  exact ⟨hends, hmoved, fun j => honce 1 j hmoved, hsome, (hlater [.mapping 7]).1 hsome, hdone,
    (hlater [.mapping 7]).2.2 hdone⟩

end Deadline

end NatDiscovery
