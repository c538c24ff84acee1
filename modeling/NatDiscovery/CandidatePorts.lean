import NatDiscovery.ConfigError

/-!
# `NatDiscovery.CandidatePorts` — the ports to probe from

The ports are chosen once for a resolution and shared by all its probes: five random ports of the
configured range, else the configured port, else port 0, which leaves the choice to the host.
-/

namespace NatDiscovery

/-- A half-open range of ports: `start` belongs to it and `stop` does not. -/
structure PortRange where
  start : Port
  stop : Port
  deriving DecidableEq, Repr

/-- A sequence of random numbers. -/
abbrev Draws := Nat → Nat

namespace PortRange

/-- The number of ports drawn from a range. -/
def sampleCount : Nat := 5

/-- The port belongs to the range. -/
def contains (r : PortRange) (p : Port) : Bool :=
  r.start ≤ p && p < r.stop

/-- The port that a random number picks. -/
def pick (r : PortRange) (draw : Nat) : Port :=
  UInt16.ofNat (r.start.toNat + draw % (r.stop.toNat - r.start.toNat))

/-- As many random ports of the range as are sampled, repetitions allowed. -/
def sample (r : PortRange) (draws : Draws) : List Port :=
  (List.range sampleCount).map fun i => r.pick (draws i)

theorem contains_iff {r : PortRange} {p : Port} :
    r.contains p = true ↔ r.start ≤ p ∧ p < r.stop := by
  simp [contains]

/-- A random number picks a port of the range, if there is one. -/
theorem contains_pick {r : PortRange} (h : r.start < r.stop) (draw : Nat) :
    r.contains (r.pick draw) = true := by
  have hs := r.stop.toNat_lt
  have hlt : r.start.toNat < r.stop.toNat := UInt16.lt_iff_toNat_lt.1 h
  have hmod := Nat.mod_lt draw (Nat.sub_pos_of_lt hlt)
  rw [contains_iff, UInt16.le_iff_toNat_le, UInt16.lt_iff_toNat_lt]
  simp only [pick, UInt16.toNat_ofNat']
  omega

@[simp] theorem length_sample (r : PortRange) (draws : Draws) :
    (r.sample draws).length = sampleCount := by
  simp [sample]

/-- Only ports of the range are sampled. -/
theorem contains_of_mem_sample {r : PortRange} (h : r.start < r.stop) {draws : Draws} {p : Port}
    (hp : p ∈ r.sample draws) : r.contains p = true := by
  obtain ⟨i, _, rfl⟩ := List.mem_map.1 hp
  exact contains_pick h _

end PortRange

/-- The ports to probe from, in order. A range wins over a single port. -/
def candidatePorts (draws : Draws) (range : Option PortRange) (port : Option Port) :
    Except ConfigError (List Port) :=
  match range with
  | some r =>
    if r.start < r.stop then .ok (r.sample draws) else .error (.invalidPortRange r.start r.stop)
  | none =>
    match port with
    | some p => .ok [p]
    | none => .ok [0]

end NatDiscovery
