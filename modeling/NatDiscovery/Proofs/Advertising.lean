import NatDiscovery.Proofs.Eligibility
import NatDiscovery.Proofs.Fallthrough
import NatDiscovery.Proofs.Faults
import NatDiscovery.Proofs.Text.Mapping

/-!
# `Proofs.Advertising` — what a node advertises, and at what price

Whether a node overrides what it would advertise otherwise is a matter of three settings; only where
an override wants external addresses is anything resolved. So a configuration whose address lists or
ports make no sense is no fault elsewhere, and the network is left alone. **Whatever is advertised is
never empty and holds no text twice**: it is the node address by itself, or the texts of a report,
which are as different as its mappings.

## Contents
- `Config.nodeIpOverride_eq_none_iff`, `Config.nodeIpOverride_eq_some_iff`: when there is an override
- `advertise_of_no_override`, `advertise_of_plain`, `advertise_of_external`: what comes of it
- `discover_eq_ok`, `nodup_texts_of_discover`: the texts of a report
- `advertise_eq_ok`, `Config.advertisement_eq_some`: what a list that is advertised is
- `advertise_policy`: all of it
-/

namespace NatDiscovery

open Stun (TransactionId)

variable {net : Network} {ids : Nat → TransactionId} {draws : Draws} {config : Config}
  {clock : Clock} {nodeIp : IpAddr}

/-! ## The override -/

theorem Config.nodeIpOverride_eq_some_iff :
    config.nodeIpOverride = some nodeIp ↔
      config.nodeIp = some nodeIp ∧
        (config.useExternalIp = true ∨ config.nodeIpAutoGenerated = false) := by
  rw [nodeIpOverride, Option.filter_eq_some_iff, Bool.or_eq_true, Bool.not_eq_true']

/-- Nothing is overridden without a node address, nor with a generated one alone. -/
theorem Config.nodeIpOverride_eq_none_iff :
    config.nodeIpOverride = none ↔
      config.nodeIp = none ∨
        config.nodeIpAutoGenerated = true ∧ config.useExternalIp = false := by
  rw [nodeIpOverride, Option.filter_eq_none_iff]
  cases config.nodeIp with
  | none => simp
  | some ip => simp [and_comm]

/-! ## The three ways -/

theorem advertise_of_no_override (h : config.nodeIpOverride = none) :
    advertise net ids draws config clock = .ok (none, []) := by
  simp only [advertise, Config.advertisement, h, Option.isSome_none, Bool.false_and,
    Bool.false_eq_true, if_false, Option.map_none]

theorem advertise_of_plain (h : config.nodeIpOverride = some nodeIp)
    (hplain : config.useExternalIp = false) :
    advertise net ids draws config clock = .ok (some [nodeIp.write], []) := by
  simp only [advertise, Config.advertisement, h, hplain, Bool.and_false, Bool.false_eq_true,
    if_false, Option.map_some]

/-- An override with external addresses is a resolution, with the node address to fall back on. -/
theorem advertise_of_external (h : config.nodeIpOverride = some nodeIp)
    (hexternal : config.useExternalIp = true) :
    advertise net ids draws config clock =
      (discover net ids draws config clock).map fun d =>
        (some (withNodeIpFallback d.texts nodeIp), d.requests) := by
  simp only [advertise, Config.advertisement, h, hexternal, Option.isSome_some, Bool.and_true,
    if_true, Option.map_some]
  cases discover net ids draws config clock with
  | error e => rfl
  | ok d => rfl

/-! ## The texts of a report -/

/-- What is discovered is the report of a resolution with the probes of the network. -/
theorem discover_eq_ok {d : Discovery} (h : discover net ids draws config clock = .ok d) :
    resolve config net.interfaces draws
      (Reflector.prober net config.timeouts.probe.millis ids config.servers) clock =
        .ok d.report := by
  unfold discover at h
  simp only at h
  split at h
  · injection h
  · rename_i report hreport
    injection h with h
    rw [hreport, ← h]

/-- No text of what is discovered repeats another. -/
theorem nodup_texts_of_discover {d : Discovery} (h : discover net ids draws config clock = .ok d) :
    d.texts.Nodup := by
  obtain ⟨plan, -, hcollect⟩ := resolve_eq_ok (discover_eq_ok h)
  rw [Discovery.nodup_texts_iff]
  obtain ⟨hexternal, -⟩ := Session.collect_bijective hcollect
  exact List.Nodup.of_map _ hexternal

theorem withNodeIpFallback_eq (resolved : List String) (nodeIp : IpAddr) :
    withNodeIpFallback resolved nodeIp = if resolved = [] then [nodeIp.write] else resolved := by
  simp only [withNodeIpFallback, List.isEmpty_iff]

/-! ## The policy -/

/-- What is advertised is decided on the texts of a discovery, or on none. -/
theorem advertise_eq_ok {advertised : Option (List String)} {asked : List (Endpoint × IpAddr)}
    (h : advertise net ids draws config clock = .ok (advertised, asked)) :
    ∃ resolved, advertised = config.advertisement resolved ∧
      (resolved = [] ∨ ∃ d, discover net ids draws config clock = .ok d ∧ resolved = d.texts) := by
  unfold advertise at h
  split at h
  · split at h
    · injection h
    · rename_i d hdiscover
      simp only [Except.ok.injEq, Prod.mk.injEq] at h
      exact ⟨d.texts, h.1.symm, Or.inr ⟨d, hdiscover, rfl⟩⟩
  · simp only [Except.ok.injEq, Prod.mk.injEq] at h
    exact ⟨[], h.1.symm, Or.inl rfl⟩

/-- A list to advertise is the node address by itself, or the texts it was decided on. -/
theorem Config.advertisement_eq_some {resolved advertised : List String}
    (h : config.advertisement resolved = some advertised) :
    (∃ nodeIp, config.nodeIp = some nodeIp ∧ advertised = [nodeIp.write]) ∨
      resolved ≠ [] ∧ advertised = resolved := by
  obtain ⟨nodeIp, hoverride, hlist⟩ := Option.map_eq_some_iff.mp h
  obtain ⟨hsome, -⟩ := nodeIpOverride_eq_some_iff.mp hoverride
  rw [withNodeIpFallback_eq] at hlist
  split at hlist
  · split at hlist
    · exact Or.inl ⟨nodeIp, hsome, hlist.symm⟩
    · rename_i hresolved
      exact Or.inr ⟨hresolved, hlist.symm⟩
  · exact Or.inl ⟨nodeIp, hsome, hlist.symm⟩

/-- **What a node advertises.** Nothing is overridden exactly when there is no node address, or a
    generated one without the wish for external addresses. Without that wish an override is the node
    address; in both cases the network is not asked, and no fault of the configuration counts. With
    it, advertising fails as the resolution does, and gives what was resolved, or else the node
    address. So what is advertised is never empty, tells the node address or the mappings of a
    report, and holds no text twice. -/
theorem advertise_policy (net : Network) (ids : Nat → TransactionId) (draws : Draws)
    (config : Config) (clock : Clock) :
    let silent := config.nodeIp = none ∨
      config.nodeIpAutoGenerated = true ∧ config.useExternalIp = false
    ((∃ asked, advertise net ids draws config clock = .ok (none, asked)) ↔ silent) ∧
      (silent → advertise net ids draws config clock = .ok (none, [])) ∧
      (∀ nodeIp, config.nodeIp = some nodeIp → config.useExternalIp = false →
        config.nodeIpAutoGenerated = false →
        advertise net ids draws config clock = .ok (some [nodeIp.write], [])) ∧
      (∀ nodeIp, config.nodeIp = some nodeIp → config.useExternalIp = true →
        (∀ e, advertise net ids draws config clock = .error e ↔
          discover net ids draws config clock = .error e) ∧
        ∀ d, discover net ids draws config clock = .ok d →
          advertise net ids draws config clock =
            .ok (some (if d.texts = [] then [nodeIp.write] else d.texts), d.requests)) ∧
      ∀ advertised asked, advertise net ids draws config clock = .ok (some advertised, asked) →
        advertised ≠ [] ∧ advertised.Nodup ∧
          ((∃ nodeIp, config.nodeIp = some nodeIp ∧ advertised = [nodeIp.write]) ∨
            ∃ d, discover net ids draws config clock = .ok d ∧
              advertised = d.report.mappings.map Mapping.write) := by
  intro silent
  have hsilent : config.nodeIpOverride = none ↔ silent := Config.nodeIpOverride_eq_none_iff
  refine ⟨⟨?_, ?_⟩, ?_, ?_, ?_, ?_⟩
  · rintro ⟨asked, h⟩
    obtain ⟨resolved, hnone, -⟩ := advertise_eq_ok h
    exact hsilent.mp (Option.map_eq_none_iff.mp hnone.symm)
  · intro h
    exact ⟨[], advertise_of_no_override (hsilent.mpr h)⟩
  · intro h
    exact advertise_of_no_override (hsilent.mpr h)
  · intro nodeIp hsome hplain hchosen
    exact advertise_of_plain (Config.nodeIpOverride_eq_some_iff.mpr ⟨hsome, Or.inr hchosen⟩) hplain
  · intro nodeIp hsome hexternal
    have hoverride := Config.nodeIpOverride_eq_some_iff.mpr ⟨hsome, Or.inl hexternal⟩
    rw [advertise_of_external hoverride hexternal]
    refine ⟨?_, ?_⟩
    · intro e
      cases discover net ids draws config clock <;> simp [Except.map]
    · intro d hdiscover
      rw [hdiscover, ← withNodeIpFallback_eq]
      rfl
  · intro advertised asked h
    obtain ⟨resolved, hlist, hresolved⟩ := advertise_eq_ok h
    rcases Config.advertisement_eq_some hlist.symm with ⟨nodeIp, hsome, rfl⟩ | ⟨hne, rfl⟩
    · exact ⟨List.cons_ne_nil _ _, List.nodup_singleton _, Or.inl ⟨nodeIp, hsome, rfl⟩⟩
    · rcases hresolved with hnone | ⟨d, hdiscover, rfl⟩
      · exact absurd hnone hne
      · exact ⟨hne, nodup_texts_of_discover hdiscover, Or.inr ⟨d, hdiscover, rfl⟩⟩

/-- A node behind the servers that leave answers over. Its excluded block is none. -/
def advertisingNode : Config where
  stunServers := Reflector.leftoversServers
  ips := { excludes := ["10.0.0.0/abc"] }
  nodeIp := some (.v4 ⟨198, 51, 100, 50⟩)

/-- The block does not count while no external addresses are wanted, and is what advertising fails
    for when they are. Without it the mapping found is advertised. -/
theorem advertise_advertisingNode :
    let net := Reflector.leftoversNetwork
    let clock := Clock.hourOld
    let mended : Config := { advertisingNode with ips := {}, useExternalIp := true }
    advertise net .ofNat id { advertisingNode with nodeIpAutoGenerated := true } clock =
        .ok (none, []) ∧
      advertise net .ofNat id advertisingNode clock = .ok (some ["198.51.100.50"], []) ∧
      advertise net .ofNat id { advertisingNode with useExternalIp := true } clock =
        .error (.config (.invalidCidr "10.0.0.0/abc")) ∧
      ∃ asked, advertise net .ofNat id mended clock =
        .ok (some ["203.0.113.7/10.0.0.1"], asked) := by
  intro net clock mended
  let external : Config := { advertisingNode with useExternalIp := true }
  obtain ⟨-, hsilent, -⟩ :=
    advertise_policy net .ofNat id { advertisingNode with nodeIpAutoGenerated := true } clock
  obtain ⟨-, -, hplain, -⟩ := advertise_policy net .ofNat id advertisingNode clock
  obtain ⟨-, -, -, hfails, -⟩ := advertise_policy net .ofNat id external clock
  obtain ⟨-, -, -, hresolves, -⟩ := advertise_policy net .ofNat id mended clock
  refine ⟨hsilent (Or.inr ⟨rfl, rfl⟩), ?_, ?_, ?_⟩
  · rw [hplain _ rfl rfl rfl]
    decide +kernel
  · have hfault : external.Fault net.interfaces (.config (.invalidCidr "10.0.0.0/abc")) :=
      .block (by decide +kernel)
    exact ((hfails _ rfl rfl).1 _).mpr (by rw [discover, resolve_of_fault hfault])
  · have htexts : (discover net .ofNat id mended clock).toOption.map Discovery.texts =
        some ["203.0.113.7/10.0.0.1"] := by
      decide +kernel
    cases hdiscover : discover net .ofNat id mended clock with
    | error e =>
        rw [hdiscover] at htexts
        injection htexts
    | ok d =>
        rw [hdiscover] at htexts
        have hd : d.texts = ["203.0.113.7/10.0.0.1"] := Option.some.inj htexts
        refine ⟨d.requests, ?_⟩
        rw [(hresolves _ rfl rfl).2 d hdiscover, hd]
        rfl

end NatDiscovery
