import NatDiscovery.CommandLine.Run

/-!
# `NatDiscovery.Main` — the command

Runs the command on a host without a network: options, address lists and port ranges are checked as
ever, but there is no local address to resolve.
-/

namespace NatDiscovery

/-- The random numbers that a generator goes on to give. -/
def drawsOf (generator : StdGen) : Draws
  | 0 => (stdNext generator).1
  | i + 1 => drawsOf (stdNext generator).2 i

/-- Transaction ids made of random numbers, four for each. -/
def idsOf (draws : Draws) (k : Nat) : Stun.TransactionId :=
  .ofNat ((List.range 4).foldl (fun n i => n * 0x1000000 + draws (4 * k + i) % 0x1000000) 0)

end NatDiscovery

open NatDiscovery in
/-- Writes what the command has to say and gives its exit code. -/
def main (args : List String) : IO UInt32 := do
  let seed ← IO.rand 0 0xFFFFFFFF
  let draws := drawsOf (mkStdGen seed)
  let clock : Clock := ⟨← IO.monoNanosNow⟩
  let exit := runCommand .offline (idsOf draws) draws args clock
  match exit with
  | .usage => IO.eprintln "error: unexpected arguments"
  | .failure cause => IO.eprint cause.report
  | .success lines => lines.forM IO.println
  return UInt32.ofNat exit.code
