import NatDiscovery.CommandLine.Arguments
import NatDiscovery.CommandLine.PortRange
import NatDiscovery.Resolution

/-!
# `NatDiscovery.CommandLine.Run` — what the command does

The command resolves the mappings of the host and writes one line for each. When there are none it
writes the node address instead, if it was given one. A failure is reported with what lies beneath
it.

## Contents
- `Failure`, `Failure.report`
- `Arguments.config?`: the configuration that the arguments describe
- `Exit`, `runCommand`
-/

namespace NatDiscovery

open Stun (TransactionId)

/-- A failure of the command. -/
structure Failure where
  message : String
  causes : List String
  deriving DecidableEq, Repr

namespace Failure

/-- The causes with their numbers, one a line. -/
def numbered (start : Nat) : List String → String
  | [] => ""
  | cause :: causes =>
    "\n    " ++ String.ofList (Nat.toDigits 10 start) ++ ": " ++ cause ++ numbered (start + 1) causes

/-- What is written when the command fails. A single cause has no number. -/
def report (f : Failure) : String :=
  let beneath :=
    match f.causes with
    | [] => ""
    | [cause] => "\n\nCaused by:\n    " ++ cause
    | causes => "\n\nCaused by:" ++ numbered 0 causes
  "Error: " ++ f.message ++ beneath ++ "\n"

/-- A failed resolution. -/
def ofResolve (e : ResolveError) : Failure :=
  ⟨e.message, e.causes⟩

/-- A text that is not a port range. -/
def ofPortRange (e : PortRangeError) : Failure :=
  ⟨e.message, e.causes⟩

end Failure

/-- The configuration that the arguments describe. -/
def Arguments.config? (a : Arguments) : Except PortRangeError Config :=
  let config : Config := {
    stunServers := a.stun
    enableLoopbackCandidate := a.loopback
    ips := ⟨a.ip, a.excludeIp⟩
    udpPort := a.port }
  match a.portRange with
  | none => .ok config
  | some text =>
    match PortRange.parse text with
    | .error e => .error e
    | .ok range => .ok { config with portRange := some range }

/-- How the command ends. -/
inductive Exit where
  /-- The arguments were refused. -/
  | usage
  | failure (cause : Failure)
  /-- The lines written. -/
  | success (lines : List String)
  deriving DecidableEq, Repr

/-- The exit code of the command. -/
def Exit.code : Exit → Nat
  | .usage => 2
  | .failure _ => 1
  | .success _ => 0

/-- The lines written for a resolution: its mappings, or else the node address. -/
def outputLines (resolved : List String) (nodeIp : Option IpAddr) : List String :=
  if resolved.isEmpty then (nodeIp.map IpAddr.write).toList else resolved

/-- Runs the command on a network. -/
def runCommand (net : Network) (ids : Nat → TransactionId) (draws : Draws) (args : List String)
    (clock : Clock := .hourOld) : Exit :=
  match Arguments.ofList? args with
  | none => .usage
  | some a =>
    match a.config? with
    | .error e => .failure (.ofPortRange e)
    | .ok config =>
      match discover net ids draws config clock with
      | .error e => .failure (.ofResolve e)
      | .ok d => .success (outputLines d.texts a.nodeIp)

end NatDiscovery
