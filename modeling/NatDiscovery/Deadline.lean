/-!
# `NatDiscovery.Deadline` — a deadline in two phases

A long initial wait for the first mapping, then a short grace period for the others. Only the first
mapping moves the deadline, and nothing does once it is done. Instants and spans are in
milliseconds.
-/

namespace NatDiscovery

/-- Where a collection stands. -/
inductive Deadline.Phase where
  | awaitingFirst
  | graceAfterFirst
  | done
  deriving DecidableEq, Repr

/-- A phase and the instant at which the wait ends. -/
structure Deadline where
  phase : Deadline.Phase
  due : Nat
  deriving DecidableEq, Repr

namespace Deadline

/-- The wait for the first mapping, from now on. -/
def start (now initial : Nat) : Deadline :=
  ⟨.awaitingFirst, now + initial⟩

/-- A mapping arrives. -/
def onMapping (d : Deadline) (now grace : Nat) : Deadline :=
  if d.phase = .awaitingFirst then ⟨.graceAfterFirst, now + grace⟩ else d

/-- The wait ends, for whatever reason. -/
def finish (d : Deadline) : Deadline :=
  { d with phase := .done }

/-- Whether the wait has ended. -/
def isDone (d : Deadline) : Bool :=
  d.phase = .done

/-- A second mapping does not move the deadline. -/
theorem onMapping_onMapping (d : Deadline) (now grace now' grace' : Nat) :
    (d.onMapping now grace).onMapping now' grace' = d.onMapping now grace := by
  by_cases h : d.phase = .awaitingFirst <;> simp [onMapping, h]

/-- A mapping does not end the wait. -/
theorem isDone_onMapping {d : Deadline} (h : d.isDone = false) (now grace : Nat) :
    (d.onMapping now grace).isDone = false := by
  unfold onMapping
  split
  · rfl
  · exact h

end Deadline

end NatDiscovery
