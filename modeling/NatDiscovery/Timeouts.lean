import NatDiscovery.Duration

/-!
# `NatDiscovery.Timeouts` — the time budget of a resolution

The wait for a first mapping, the wait for the others after it, and the wait for each server's
answer.
-/

namespace NatDiscovery

/-- The time budget of a resolution. -/
structure Timeouts where
  /-- The wait for a first mapping. -/
  initial : Duration := .ofSecs 5
  /-- The wait for further mappings once there is one. -/
  grace : Duration := .ofSecs 1
  /-- The wait for a server's answer. -/
  probe : Duration := .ofSecs 3
  deriving DecidableEq, Repr

end NatDiscovery
