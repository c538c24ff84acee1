import NatDiscovery.Proofs.Eligibility

/-!
# `Proofs.Faults` — when a resolution fails

A resolution fails for what is **wrong with its configuration or its host**, `Config.Fault`: a text
that is no address block, a port range without ports, no address that could be probed, in this order
of precedence. All of it is known from the configuration and the interface addresses, before any
probe starts; what the probes do later is no reason to fail. One reason remains that the
configuration is not checked for: a deadline beyond the clock, which the collection computes on its
way (`resolve_fails_iff`).

## Contents
- `spellsBlock`, `Filter.misspelt?`, `addressFilter_of_misspelt`: texts that are no address blocks
- `Config.Fault`, `plan_eq_error_iff`, `exists_plan`: the faults, in their order
- `Collector.deadlines`, `fitsClock_iff`, `Config.WithinClock`: the deadlines of a collection
- `resolve_fails_iff`, `not_forall_report`: the whole resolution
-/

namespace NatDiscovery

/-! ## Texts that are no address blocks -/

/-- The text is an address block, apart from blanks around it. -/
def spellsBlock (text : String) : Bool :=
  (Cidr.ofText? (trim text.toList)).isSome

/-- The first of the texts that is no address block, inclusions before exclusions. -/
def Filter.misspelt? (f : Filter String) : Option String :=
  (f.includes ++ f.excludes).find? fun text => !spellsBlock text

theorem parse_of_spellsBlock {text : String} (h : spellsBlock text = true) :
    ∃ block, Cidr.parse text = .ok block := by
  unfold spellsBlock at h
  obtain ⟨block, hblock⟩ := Option.isSome_iff_exists.mp h
  refine ⟨block, ?_⟩
  unfold Cidr.parse
  rw [hblock]

theorem parse_of_not_spellsBlock {text : String} (h : spellsBlock text = false) :
    Cidr.parse text = .error (.invalidCidr text) := by
  unfold spellsBlock at h
  rw [Option.isSome_eq_false_iff, Option.isNone_iff_eq_none] at h
  unfold Cidr.parse
  rw [h]

/-- Reading stops at the first text that is no block, and quotes it. -/
theorem mapM_parse_of_misspelt {texts : List String} {text : String}
    (h : texts.find? (fun text => !spellsBlock text) = some text) :
    texts.mapM Cidr.parse = .error (.invalidCidr text) := by
  induction texts with
  | nil => injection h
  | cons t texts ih =>
      rw [List.mapM_cons]
      cases ht : spellsBlock t with
      | false =>
          rw [List.find?_cons_of_pos (by simp [ht])] at h
          injection h with h
          subst h
          rw [parse_of_not_spellsBlock ht]
          rfl
      | true =>
          rw [List.find?_cons_of_neg (by simp [ht])] at h
          obtain ⟨block, hblock⟩ := parse_of_spellsBlock ht
          rw [hblock, ih h]
          rfl

theorem mapM_parse_of_spelt {texts : List String}
    (h : texts.find? (fun text => !spellsBlock text) = none) :
    ∃ blocks, texts.mapM Cidr.parse = .ok blocks := by
  induction texts with
  | nil => exact ⟨[], rfl⟩
  | cons t texts ih =>
      rw [List.find?_eq_none] at h
      have ht : spellsBlock t = true := by
        simpa using h t List.mem_cons_self
      obtain ⟨block, hblock⟩ := parse_of_spellsBlock ht
      obtain ⟨blocks, hblocks⟩ := ih
        (List.find?_eq_none.mpr fun u hu => h u (List.mem_cons_of_mem t hu))
      refine ⟨block :: blocks, ?_⟩
      rw [List.mapM_cons, hblock, hblocks]
      rfl

/-- The two lists are read one after the other. -/
theorem blocks_of_misspelt {f : Filter String} {text : String} (h : f.misspelt? = some text) :
    f.blocks = .error (.invalidCidr text) := by
  rw [Filter.misspelt?, List.find?_append] at h
  unfold Filter.blocks
  cases hincludes : f.includes.find? (fun text => !spellsBlock text) with
  | some t =>
      rw [hincludes] at h
      injection h with h
      subst h
      rw [mapM_parse_of_misspelt hincludes]
      rfl
  | none =>
      rw [hincludes, Option.none_or] at h
      obtain ⟨includes, hread⟩ := mapM_parse_of_spelt hincludes
      rw [hread, mapM_parse_of_misspelt h]
      rfl

theorem blocks_of_spelt {f : Filter String} (h : f.misspelt? = none) :
    ∃ blocks, f.blocks = .ok blocks := by
  rw [Filter.misspelt?, List.find?_append, Option.or_eq_none_iff] at h
  obtain ⟨includes, hincludes⟩ := mapM_parse_of_spelt h.1
  obtain ⟨excludes, hexcludes⟩ := mapM_parse_of_spelt h.2
  refine ⟨⟨includes, excludes⟩, ?_⟩
  unfold Filter.blocks
  rw [hincludes, hexcludes]
  rfl

theorem addressFilter_eq (f : Filter String) :
    f.addressFilter =
      if f.includes = [] ∧ f.excludes = [] then .ok none else f.blocks.map some := by
  unfold Filter.addressFilter Filter.set?
  by_cases hnone : f.includes = [] ∧ f.excludes = []
  · simp [hnone]
  · rw [if_neg hnone, if_neg (by simpa using hnone)]

/-- **A filter is refused for the first text that is no block**, also for an exclusion that
    inclusions would make pointless. -/
theorem addressFilter_of_misspelt {f : Filter String} {text : String}
    (h : f.misspelt? = some text) : f.addressFilter = .error (.invalidCidr text) := by
  have hsome : ¬(f.includes = [] ∧ f.excludes = []) := by
    rintro ⟨hincludes, hexcludes⟩
    rw [Filter.misspelt?, hincludes, hexcludes] at h
    injection h
  rw [addressFilter_eq, if_neg hsome, blocks_of_misspelt h]
  rfl

theorem addressFilter_of_spelt {f : Filter String} (h : f.misspelt? = none) :
    ∃ blocks, f.addressFilter = .ok blocks := by
  rw [addressFilter_eq]
  split
  · exact ⟨none, rfl⟩
  · obtain ⟨blocks, hblocks⟩ := blocks_of_spelt h
    exact ⟨some blocks, by rw [hblocks]; rfl⟩

/-! ## The faults in their order -/

/-- What is wrong with a configuration or a host. A later fault counts only where there is no
    earlier one. -/
inductive Config.Fault (config : Config) (interfaces : List InterfaceAddress) :
    ResolveError → Prop where
  /-- A text of the address filter is no block. The first one is quoted as it stands. -/
  | block {text : String} (first : config.ips.misspelt? = some text) :
      Fault config interfaces (.config (.invalidCidr text))
  /-- The port range has no port. -/
  | range {r : PortRange} (spelt : config.ips.misspelt? = none)
      (given : config.portRange = some r) (empty : r.stop ≤ r.start) :
      Fault config interfaces (.config (.invalidPortRange r.start r.stop))
  /-- No address of the host can be probed. -/
  | address (spelt : config.ips.misspelt? = none)
      (ranged : ∀ r, config.portRange = some r → r.start < r.stop)
      (nobody : ∀ ip, ¬Candidate interfaces ip) :
      Fault config interfaces (.network .noLocalAddress)

variable {config : Config} {interfaces : List InterfaceAddress} {draws : Draws} {prober : Prober}
  {clock : Clock}

/-- A range without ports is refused, whatever the single port. -/
theorem ports_of_empty {r : PortRange} (given : config.portRange = some r)
    (empty : r.stop ≤ r.start) :
    config.ports draws = .error (.invalidPortRange r.start r.stop) := by
  unfold Config.ports candidatePorts
  rw [given]
  exact if_neg (UInt16.not_lt.mpr empty)

theorem exists_ports (draws : Draws)
    (ranged : ∀ r, config.portRange = some r → r.start < r.stop) :
    ∃ ports, config.ports draws = .ok ports := by
  unfold Config.ports candidatePorts
  cases hrange : config.portRange with
  | none => cases config.udpPort <;> exact ⟨_, rfl⟩
  | some r => exact ⟨_, if_pos (ranged r hrange)⟩

/-- No address is selected exactly when there is no candidate. -/
theorem selectLocal_eq_none_iff_nobody {loopback : Bool} :
    selectLocal interfaces loopback none = none ↔ ∀ ip, ¬Candidate interfaces ip := by
  rw [selectLocal_eq_none_iff, List.eq_nil_iff_forall_not_mem]
  simp only [mem_eligible_iff]

/-- Where there is a fault, no plan can be made. -/
theorem Config.Fault.plan_eq {e : ResolveError} (h : config.Fault interfaces e) :
    config.plan interfaces draws = .error e := by
  unfold Config.plan
  cases h with
  | block first =>
      have hfilter : config.addressFilter = _ := addressFilter_of_misspelt first
      rw [hfilter]
  | range spelt given empty =>
      obtain ⟨filter, hfilter⟩ := addressFilter_of_spelt spelt
      rw [show config.addressFilter = _ from hfilter, ports_of_empty given empty]
  | address spelt ranged nobody =>
      obtain ⟨filter, hfilter⟩ := addressFilter_of_spelt spelt
      obtain ⟨ports, hports⟩ := exists_ports draws ranged
      rw [show config.addressFilter = _ from hfilter, hports,
        selectLocal_eq_none_iff_nobody.mpr nobody]

/-- Where there is none, a plan is made. -/
theorem exists_plan (draws : Draws) (h : ∀ e, ¬config.Fault interfaces e) :
    ∃ plan, config.plan interfaces draws = .ok plan := by
  have hspelt : config.ips.misspelt? = none := by
    by_contra hsome
    obtain ⟨text, hfirst⟩ := Option.ne_none_iff_exists'.mp hsome
    exact h _ (.block hfirst)
  have hranged : ∀ r, config.portRange = some r → r.start < r.stop := by
    intro r hgiven
    by_contra hempty
    exact h _ (.range hspelt hgiven (UInt16.not_lt.mp hempty))
  obtain ⟨filter, hfilter⟩ := addressFilter_of_spelt hspelt
  obtain ⟨ports, hports⟩ := exists_ports draws hranged
  unfold Config.plan
  rw [show config.addressFilter = _ from hfilter, hports]
  cases hselect : selectLocal interfaces config.enableLoopbackCandidate none with
  | none => exact absurd (.address hspelt hranged (selectLocal_eq_none_iff_nobody.mp hselect)) (h _)
  | some locals => exact ⟨_, rfl⟩

/-- **No plan can be made exactly where there is a fault**, and the plan fails with it. -/
theorem plan_eq_error_iff {e : ResolveError} :
    config.plan interfaces draws = .error e ↔ config.Fault interfaces e := by
  refine ⟨?_, fun h => h.plan_eq⟩
  intro h
  by_contra hnot
  have hnone : ∀ e', ¬config.Fault interfaces e' := by
    intro e' hfault
    have hplan : config.plan interfaces draws = .error e' := hfault.plan_eq
    rw [h] at hplan
    injection hplan with heq
    exact hnot (heq ▸ hfault)
  obtain ⟨plan, hplan⟩ := exists_plan draws hnone
  rw [h] at hplan
  injection hplan

/-! ## The deadlines of a collection -/

namespace Collector

/-- The deadlines that a collection of these distinct addresses computes: from which instant on, and
    how long. The grace period begins with the first mapping received. Without addresses there is no
    deadline. -/
def deadlines (c : Collector) (timeouts : Timeouts) (locals : List IpAddr) :
    List (Nat × Duration) :=
  if locals = [] then []
  else
    (0, timeouts.initial) ::
      ((c.receipts locals).head?.map fun first => (first.time, timeouts.grace)).toList

/-- A collection stays within the clock when its deadlines do. -/
theorem fitsClock_iff {c : Collector} {clock : Clock} {timeouts : Timeouts}
    (hgrace : c.grace = timeouts.grace.millis) (locals : List IpAddr) :
    c.fitsClock clock timeouts locals = true ↔
      ∀ d ∈ c.deadlines timeouts (distinct locals), d.2.fitsClock clock d.1 = true := by
  have hdeadline := (books_waitFor c (distinct locals)).deadline
  unfold fitsClock Wait.fitsClock deadlines
  rw [hdeadline, ← hgrace]
  unfold deadlineOf
  by_cases hnone : distinct locals = []
  · simp [hnone]
  · cases (c.receipts (distinct locals)).head? with
    | none => simp [hnone, Deadline.start]
    | some first => simp [hnone]

end Collector

/-- The clock can express every deadline of the resolution, if it gets as far as to compute any. -/
def Config.WithinClock (config : Config) (interfaces : List InterfaceAddress) (draws : Draws)
    (prober : Prober) (clock : Clock) : Prop :=
  ∀ plan, config.plan interfaces draws = .ok plan →
    ∀ d ∈ (config.collector prober plan).deadlines config.timeouts (distinct plan.locals),
      d.2.fitsClock clock d.1 = true

/-! ## The whole resolution -/

theorem resolve_of_fault {e : ResolveError} (h : config.Fault interfaces e) :
    resolve config interfaces draws prober clock = .error e := by
  rw [resolve_eq_plan, h.plan_eq]
  rfl

/-- With a plan, the clock can express what the collection that follows it computes. -/
theorem withinClock_iff_of_plan {plan : Plan} (h : config.plan interfaces draws = .ok plan) :
    config.WithinClock interfaces draws prober clock ↔
      (config.collector prober plan).fitsClock clock config.timeouts plan.locals = true := by
  rw [Collector.fitsClock_iff rfl]
  constructor
  · intro hwithin
    exact hwithin plan h
  · intro hwithin plan' h'
    rw [h] at h'
    injection h' with h'
    subst h'
    exact hwithin

/-- What a resolution does with a plan depends on the clock alone. -/
theorem resolve_of_plan {plan : Plan} (h : config.plan interfaces draws = .ok plan) :
    (config.WithinClock interfaces draws prober clock → ∃ report,
      resolve config interfaces draws prober clock = .ok report) ∧
    (¬config.WithinClock interfaces draws prober clock →
      resolve config interfaces draws prober clock = .error (.clock .outOfRange)) := by
  rw [resolve_eq_plan, h, withinClock_iff_of_plan h]
  constructor
  · intro hfits
    have hcollect : collect prober plan.ports config.timeouts plan.locals clock =
        .ok ((config.collector prober plan).run plan.locals) := if_pos hfits
    exact ⟨_, by rw [Except.bind, hcollect]; rfl⟩
  · intro hover
    have hcollect : collect prober plan.ports config.timeouts plan.locals clock =
        .error .outOfRange := if_neg hover
    rw [Except.bind, hcollect]
    rfl

theorem exists_report (hnone : ∀ e, ¬config.Fault interfaces e)
    (hclock : config.WithinClock interfaces draws prober clock) :
    ∃ report, resolve config interfaces draws prober clock = .ok report := by
  obtain ⟨plan, hplan⟩ := exists_plan draws hnone
  exact (resolve_of_plan hplan).1 hclock

theorem resolve_of_overrun (hnone : ∀ e, ¬config.Fault interfaces e)
    (hclock : ¬config.WithinClock interfaces draws prober clock) :
    resolve config interfaces draws prober clock = .error (.clock .outOfRange) := by
  obtain ⟨plan, hplan⟩ := exists_plan draws hnone
  exact (resolve_of_plan hplan).2 hclock

/-- **When a resolution fails.** A fault of the configuration or the host makes it fail, whatever the
    random numbers, the probes and the clock. Where there is none, it fails only for a deadline
    beyond the clock, and else it reports. -/
theorem resolve_fails_iff (config : Config) (interfaces : List InterfaceAddress) (draws : Draws)
    (prober : Prober) (clock : Clock) :
    (∀ e, config.Fault interfaces e →
      ∀ draws' prober' clock', resolve config interfaces draws' prober' clock' = .error e) ∧
    (∀ e, resolve config interfaces draws prober clock = .error e ↔
      config.Fault interfaces e ∨
        e = .clock .outOfRange ∧ (∀ e', ¬config.Fault interfaces e') ∧
          ¬config.WithinClock interfaces draws prober clock) ∧
    ((∃ report, resolve config interfaces draws prober clock = .ok report) ↔
      (∀ e, ¬config.Fault interfaces e) ∧ config.WithinClock interfaces draws prober clock) := by
  refine ⟨fun e h _ _ _ => resolve_of_fault h, ?_, ?_⟩
  · intro e
    constructor
    · intro h
      by_cases hsome : ∃ e', config.Fault interfaces e'
      · obtain ⟨e', hfault⟩ := hsome
        rw [resolve_of_fault hfault] at h
        injection h with h
        exact Or.inl (h ▸ hfault)
      · have hnone := not_exists.mp hsome
        by_cases hclock : config.WithinClock interfaces draws prober clock
        · obtain ⟨report, hreport⟩ := exists_report hnone hclock
          rw [hreport] at h
          injection h
        · rw [resolve_of_overrun hnone hclock] at h
          injection h with h
          exact Or.inr ⟨h.symm, hnone, hclock⟩
    · rintro (hfault | ⟨rfl, hnone, hclock⟩)
      · exact resolve_of_fault hfault
      · exact resolve_of_overrun hnone hclock
  · constructor
    · rintro ⟨report, h⟩
      have hnone : ∀ e, ¬config.Fault interfaces e := by
        intro e hfault
        rw [resolve_of_fault hfault] at h
        injection h
      refine ⟨hnone, ?_⟩
      by_contra hclock
      rw [resolve_of_overrun hnone hclock] at h
      injection h
    · rintro ⟨hnone, hclock⟩
      exact exists_report hnone hclock

/-- A configuration with faults of all kinds, for a host with faults of its own: two exclusions are
    no blocks, the port range has no port, and the only address is of IPv6. -/
def hopeless : Config where
  udpPort := some 7882
  portRange := some ⟨6000, 5000⟩
  ips := { includes := [" 10.0.0.0/8 "], excludes := [" 192.168.0.1 ", "10.0.0.0/abc"] }

/-- The addresses of the host. -/
def hopelessAddresses : List InterfaceAddress :=
  [⟨"eth0", .v6 (.of 0xFE80 0 0 0 0 0 0 1)⟩]

/-- The first exclusion is what a resolution fails for; once the texts are mended it is the range,
    and then the address. -/
theorem resolve_fails_hopeless :
    let mended : Config := { hopeless with ips := {} }
    let prober := Collector.race.prober
    let clock := Clock.hourOld
    resolve hopeless hopelessAddresses id prober clock =
        .error (.config (.invalidCidr " 192.168.0.1 ")) ∧
      resolve mended hopelessAddresses id prober clock =
        .error (.config (.invalidPortRange 6000 5000)) ∧
      resolve { mended with portRange := none } hopelessAddresses id prober clock =
        .error (.network .noLocalAddress) := by
  intro mended prober clock
  have hnobody : ∀ ip, ¬Candidate hopelessAddresses ip := by
    rintro ip hip
    rw [← mem_eligible_iff] at hip
    exact absurd hip List.not_mem_nil
  refine ⟨?_, ?_, ?_⟩
  · obtain ⟨hfault, -⟩ := resolve_fails_iff hopeless hopelessAddresses id prober clock
    exact hfault _ (.block (by decide +kernel)) _ _ _
  · obtain ⟨hfault, -⟩ := resolve_fails_iff mended hopelessAddresses id prober clock
    exact hfault _ (.range rfl rfl (by decide)) _ _ _
  · obtain ⟨hfault, -⟩ :=
      resolve_fails_iff { mended with portRange := none } hopelessAddresses id prober clock
    exact hfault _ (.address rfl (fun _ h => by injection h) hnobody) _ _ _

/-- A configuration whose initial wait lasts as long as can be configured. -/
def endlessWait : Config where
  timeouts := Collector.endlessTimeouts

/-- A host with one address. -/
def lonelyAddress : List InterfaceAddress :=
  [⟨"eth0", .v4 ⟨10, 0, 0, 1⟩⟩]

/-- Nothing is wrong with that host, nor with a configuration that names no blocks and no ports. -/
theorem lonelyAddress_faultless (spelt : config.ips.misspelt? = none)
    (unranged : config.portRange = none) (e : ResolveError) : ¬config.Fault lonelyAddress e := by
  intro h
  cases h with
  | block first =>
      rw [spelt] at first
      injection first
  | range _ given _ =>
      rw [unranged] at given
      injection given
  | address _ _ nobody =>
      have hmem : (⟨10, 0, 0, 1⟩ : Ipv4) ∈ eligible none lonelyAddress := by decide
      exact nobody _ (mem_eligible_iff.mp hmem)

/-- **Not every resolution without a fault reports**, whatever the clock: the wait for a first
    mapping can be configured to end beyond it. -/
theorem not_forall_report :
    ¬∃ clock : Clock, ∀ (config : Config) (interfaces : List InterfaceAddress) (draws : Draws)
      (prober : Prober), (∀ e, ¬config.Fault interfaces e) →
        ∃ report, resolve config interfaces draws prober clock = .ok report := by
  rintro ⟨clock, hall⟩
  obtain ⟨report, hreport⟩ := hall endlessWait lonelyAddress id Collector.race.prober
    (lonelyAddress_faultless rfl rfl)
  have hplan : endlessWait.plan lonelyAddress id = .ok ⟨[0], [.v4 ⟨10, 0, 0, 1⟩]⟩ := by
    decide +kernel
  have hlimit : Clock.limit < endlessWait.timeouts.initial.secs.toNat := by decide
  rw [resolve_eq_plan, hplan, Except.bind,
    Collector.collect_of_limit_lt hlimit (by decide)] at hreport
  injection hreport

end NatDiscovery
