/-!
# `NatDiscovery.Duration` — spans of time and instants

Spans are configured in seconds and nanoseconds. Timers have a resolution of a millisecond and never
fire early, so a span is rounded up to whole milliseconds when it is waited for. Instants are counted
in milliseconds from the start of a run.

A clock counts from an origin of its own, usually from when the machine came up, and cannot express
an instant whose seconds exceed those of a signed 64-bit number. So how far ahead of a run it can
look depends on what it shows when the run starts.

## Contents
- `wholeMillis`, `lt_wholeMillis_iff`: the rounding of timers
- `Duration`, `Duration.ofMillis`, `Duration.millis`
- `Clock`, `Duration.fitsClock`, `fitsClock_anti`: the instant that lies a span after another one
  can be expressed
-/

namespace NatDiscovery

/-- The whole milliseconds that a timer takes for so many nanoseconds. -/
def wholeMillis (nanos : Nat) : Nat :=
  (nanos + 999999) / 1000000

/-- A whole millisecond is before the rounded instant exactly when it is before the instant. -/
theorem lt_wholeMillis_iff {t nanos : Nat} : t < wholeMillis nanos ↔ t * 1000000 < nanos := by
  unfold wholeMillis
  omega

/-- Whole milliseconds need no rounding. -/
theorem wholeMillis_add (t nanos : Nat) :
    wholeMillis (t * 1000000 + nanos) = t + wholeMillis nanos := by
  unfold wholeMillis
  omega

/-- A span of time. -/
structure Duration where
  secs : UInt64
  nanos : UInt32
  nanos_lt : nanos < 1000000000
  deriving DecidableEq, Repr

namespace Duration

/-- A span of whole seconds. -/
def ofSecs (n : UInt64) : Duration :=
  ⟨n, 0, by decide⟩

/-- A span of whole milliseconds. -/
def ofMillis (n : Nat) : Duration :=
  ⟨UInt64.ofNat (n / 1000), UInt32.ofNat (n % 1000 * 1000000), by
    have hm : n % 1000 < 1000 := Nat.mod_lt _ (by decide)
    rw [UInt32.lt_iff_toNat_lt]
    simp only [UInt32.toNat_ofNat']
    rw [Nat.mod_eq_of_lt (by omega)]
    simp only [UInt32.reduceToNat]
    omega⟩

/-- A span of seconds and any number of nanoseconds, which carry over. There is none when the
seconds overflow. -/
def ofParts? (secs nanos : Nat) : Option Duration :=
  let total := secs + nanos / 1000000000
  if total < UInt64.size then
    some ⟨UInt64.ofNat total, UInt32.ofNat (nanos % 1000000000), by
      have hm : nanos % 1000000000 < 1000000000 := Nat.mod_lt _ (by decide)
      rw [UInt32.lt_iff_toNat_lt]
      simp only [UInt32.toNat_ofNat']
      rw [Nat.mod_eq_of_lt (by omega)]
      simp only [UInt32.reduceToNat]
      omega⟩
  else none

/-- The span in nanoseconds. -/
def totalNanos (d : Duration) : Nat :=
  d.secs.toNat * 1000000000 + d.nanos.toNat

/-- The whole milliseconds that a timer waits for this span. -/
def millis (d : Duration) : Nat :=
  wholeMillis d.totalNanos

/-- A timer waits for any span at all. -/
theorem millis_pos {d : Duration} (h : 0 < d.totalNanos) : 0 < d.millis := by
  rw [millis, lt_wholeMillis_iff, Nat.zero_mul]
  exact h

end Duration

/-! ## The clock -/

/-- The clock by which a run goes. -/
structure Clock where
  /-- What it shows when the run starts, in nanoseconds. -/
  origin : Nat
  deriving DecidableEq, Repr

namespace Clock

/-- The clock of a machine that has been up for an hour. -/
def hourOld : Clock := ⟨3600000000000⟩

/-- The greatest number of seconds that a clock expresses. -/
def limit : Nat := 0x7FFFFFFFFFFFFFFF

end Clock

namespace Duration

/-- The instant that lies this span after `now`, which is counted in milliseconds from the start of
the run, can be expressed. -/
def fitsClock (d : Duration) (clock : Clock) (now : Nat) : Bool :=
  (clock.origin + now * 1000000 + d.totalNanos) / 1000000000 ≤ Clock.limit

/-- A span of more seconds than any clock expresses leads beyond each of them, from any instant. -/
theorem fitsClock_of_limit_lt {d : Duration} (h : Clock.limit < d.secs.toNat) (clock : Clock)
    (now : Nat) : d.fitsClock clock now = false := by
  rw [fitsClock, decide_eq_false_iff_not, Nat.not_le]
  refine Nat.lt_of_lt_of_le h ?_
  unfold totalNanos
  omega

/-- A shorter span leads less far, and so does one from an earlier instant or by a clock that shows
less. -/
theorem fitsClock_anti {d d' : Duration} {clock clock' : Clock} {now later : Nat}
    (hspan : d.totalNanos ≤ d'.totalNanos) (hclock : clock.origin ≤ clock'.origin)
    (hnow : now ≤ later) (hfits : d'.fitsClock clock' later = true) :
    d.fitsClock clock now = true := by
  simp only [fitsClock, decide_eq_true_eq] at hfits ⊢
  refine Nat.le_trans (Nat.div_le_div_right ?_) hfits
  omega

/-- The longest span that fits a clock that starts with the run leads beyond one that is older. -/
example : (ofSecs 0x7FFFFFFFFFFFFFFF).fitsClock ⟨0⟩ 0 = true ∧
    (ofSecs 0x7FFFFFFFFFFFFFFF).fitsClock .hourOld 0 = false := by
  decide

end Duration

end NatDiscovery
