import NatDiscovery.CommandLine.Run
import NatDiscovery.Proofs.Advertising

/-!
# `Proofs.Command` — the command does what a node does

The command runs a resolution of its own and falls back on the node address by itself, where a node
has its policy for both. Its arguments describe a configuration, and **for that configuration the
command agrees with the node**: given a node address it fails as advertising with external addresses
does, and writes the list that would be advertised; given none it writes the texts of the
resolution.

## Contents
- `Arguments.configFor`, `config?_eq`: the configuration behind the arguments
- `outputLines_some`, `outputLines_none`: the lines
- `runCommand_eq`, `runCommand_agrees`: the command and the node
-/

namespace NatDiscovery

open Stun (TransactionId)

/-- The configuration with the servers, the port, the loopback flag and the blocks of the arguments,
    and with this port range. -/
def Arguments.configFor (a : Arguments) (range : Option PortRange) : Config where
  stunServers := a.stun
  udpPort := a.port
  portRange := range
  enableLoopbackCandidate := a.loopback
  ips := ⟨a.ip, a.excludeIp⟩

/-- Arguments whose port range is read, if they have one, describe this configuration. -/
theorem Arguments.config?_eq {a : Arguments} {range : Option PortRange}
    (hrange : a.portRange.map PortRange.parse = range.map .ok) :
    a.config? = .ok (a.configFor range) := by
  unfold config?
  cases htext : a.portRange with
  | none =>
      rw [htext] at hrange
      rw [show range = none from Option.map_eq_none_iff.mp hrange.symm]
      rfl
  | some text =>
      rw [htext] at hrange
      obtain ⟨r, hr, hparse⟩ := Option.map_eq_some_iff.mp hrange.symm
      simp only [← hparse, hr]
      rfl

/-! ## The lines -/

/-- With a node address, the lines are the texts or fall back on it. -/
theorem outputLines_some (resolved : List String) (nodeIp : IpAddr) :
    outputLines resolved (some nodeIp) = withNodeIpFallback resolved nodeIp :=
  rfl

/-- Without one, the lines are the texts, if any. -/
theorem outputLines_none (resolved : List String) : outputLines resolved none = resolved := by
  cases resolved with
  | nil => rfl
  | cons text texts => rfl

/-! ## The command -/

section Command

variable (net : Network) (ids : Nat → TransactionId) (draws : Draws) (clock : Clock)
  {args : List String} {a : Arguments} {range : Option PortRange}

/-- The command resolves for the configuration of its arguments. -/
theorem runCommand_eq (haccepted : Arguments.ofList? args = some a)
    (hrange : a.portRange.map PortRange.parse = range.map .ok) :
    runCommand net ids draws args clock =
      match discover net ids draws (a.configFor range) clock with
      | .error e => .failure (.ofResolve e)
      | .ok d => .success (outputLines d.texts a.nodeIp) := by
  have hconfig := Arguments.config?_eq hrange
  cases hdiscover : discover net ids draws (a.configFor range) clock with
  | error e => simp only [runCommand, haccepted, hconfig, hdiscover]
  | ok d => simp only [runCommand, haccepted, hconfig, hdiscover]

/-- **The command agrees with the node.** Take any arguments that are accepted and whose port range,
    if they have one, is read. With a node address the command fails exactly when advertising does
    for that address and with external addresses, with the same failure, and otherwise writes what
    would be advertised. Without a node address it fails exactly when the resolution does, and
    otherwise writes the texts of that, which may be none. -/
theorem runCommand_agrees (haccepted : Arguments.ofList? args = some a)
    (hrange : a.portRange.map PortRange.parse = range.map .ok) :
    let config := a.configFor range
    let exit := runCommand net ids draws args clock
    exit ≠ .usage ∧
      (∀ nodeIp, a.nodeIp = some nodeIp →
        let node : Config := { config with nodeIp := some nodeIp, useExternalIp := true }
        (∀ f, exit = .failure f ↔
          ∃ e, advertise net ids draws node clock = .error e ∧ f = .ofResolve e) ∧
        ∀ lines, exit = .success lines ↔
          ∃ asked, advertise net ids draws node clock = .ok (some lines, asked)) ∧
      (a.nodeIp = none →
        (∀ f, exit = .failure f ↔
          ∃ e, discover net ids draws config clock = .error e ∧ f = .ofResolve e) ∧
        ∀ lines, exit = .success lines ↔
          ∃ d, discover net ids draws config clock = .ok d ∧ lines = d.texts) := by
  intro config exit
  have hexit : exit = _ := runCommand_eq net ids draws clock haccepted hrange
  rw [hexit]
  refine ⟨?_, ?_, ?_⟩
  · cases discover net ids draws (a.configFor range) clock with
    | error e => exact fun h => by injection h
    | ok d => exact fun h => by injection h
  · intro nodeIp hsome node
    have hoverride : node.nodeIpOverride = some nodeIp :=
      Config.nodeIpOverride_eq_some_iff.mpr ⟨rfl, Or.inl rfl⟩
    -- A resolution does not look at the node address.
    have hsame : discover net ids draws node clock =
        discover net ids draws (a.configFor range) clock := rfl
    rw [advertise_of_external hoverride rfl, hsame, hsome]
    cases discover net ids draws (a.configFor range) clock with
    | error e => simp [Except.map, eq_comm]
    | ok d => simp [Except.map, outputLines_some]
  · intro hnone
    rw [hnone]
    cases discover net ids draws (a.configFor range) clock with
    | error e => simp [eq_comm]
    | ok d => simp [outputLines_none, eq_comm]

end Command

/-- Arguments that name a server where nobody listens, a port range, and a node address. -/
def forlornArguments : List String :=
  ["--stun=192.0.2.9", "-r", "50000 - 60000", "-n", "198.51.100.50"]

/-- What they ask for. -/
def forlorn : Arguments where
  stun := ["192.0.2.9"]
  portRange := some "50000 - 60000"
  nodeIp := some (.v4 ⟨198, 51, 100, 50⟩)

/-- Nothing is resolved, so the command writes the node address, as the node advertises it. -/
theorem runCommand_agrees_forlorn :
    let net := Reflector.leftoversNetwork
    let clock := Clock.hourOld
    let node : Config := { forlorn.configFor (some ⟨50000, 60000⟩) with
      nodeIp := some (.v4 ⟨198, 51, 100, 50⟩), useExternalIp := true }
    Arguments.ofList? forlornArguments = some forlorn ∧
      forlorn.portRange.map PortRange.parse = (some (⟨50000, 60000⟩ : PortRange)).map .ok ∧
      runCommand net .ofNat id forlornArguments clock = .success ["198.51.100.50"] ∧
      ∃ asked, advertise net .ofNat id node clock = .ok (some ["198.51.100.50"], asked) := by
  intro net clock node
  have haccepted : Arguments.ofList? forlornArguments = some forlorn := by decide +kernel
  have hrange : forlorn.portRange.map PortRange.parse =
      (some (⟨50000, 60000⟩ : PortRange)).map .ok := by
    decide +kernel
  obtain ⟨-, hnode, -⟩ := runCommand_agrees net .ofNat id clock haccepted hrange
  obtain ⟨-, hlines⟩ := hnode _ rfl
  have hexit : runCommand net .ofNat id forlornArguments clock = .success ["198.51.100.50"] := by
    decide +kernel
  exact ⟨haccepted, hrange, hexit, (hlines _).mp hexit⟩

end NatDiscovery
