import NatDiscovery.Proofs.Alone
import NatDiscovery.Proofs.Reordering
import NatDiscovery.Proofs.Session.Report

/-!
# `Proofs.Eligibility` — only eligible addresses are probed and reported

Which local addresses take part in a resolution is decided in steps: the family, the loopback rule,
the address filter, the repetitions. Here the decision is **one predicate on addresses**,
`Config.Eligible`, that speaks of the interface addresses and of the configuration only. Every probe
starts from an eligible address, every mapping is one of an eligible address, and there is one task
for each of them (`resolve_eligible`).

## Contents
- `Present`, `Candidate`, `mem_eligible_iff`: the IPv4 addresses of a host
- `mem_selectLocal_iff`, `selectLocal_eq_none_iff`: the selection
- `Config.Eligible`, `mem_locals_plan_iff`: the addresses of a plan
- `ip_mem_of_probe`: a collection probes from its local addresses
- `resolve_eligible`: the whole resolution
-/

namespace NatDiscovery

/-! ## The addresses of a host -/

/-- The IPv4 address is that of an interface, in its own form or in its IPv4-mapped one. -/
def Present (interfaces : List InterfaceAddress) (ip : Ipv4) : Prop :=
  ∃ i ∈ interfaces, i.ip = .v4 ip ∨ i.ip = .v6 (.ofIpv4 ip)

/-- The IPv4 address is that of an interface, and not 0.0.0.0. -/
def Candidate (interfaces : List InterfaceAddress) (ip : Ipv4) : Prop :=
  Present interfaces ip ∧ ip ≠ ⟨0, 0, 0, 0⟩

theorem candidate?_eq_some_iff {a : IpAddr} {ip : Ipv4} :
    candidate? a = some ip ↔ (a = .v4 ip ∨ a = .v6 (.ofIpv4 ip)) ∧ ip ≠ ⟨0, 0, 0, 0⟩ := by
  cases a with
  | v4 v =>
      simp only [candidate?, Option.filter_eq_some_iff, Option.some.injEq, IpAddr.v4.injEq,
        reduceCtorEq, or_false, Ipv4.isUnspecified]
      refine and_congr_right ?_
      rintro rfl
      simp
  | v6 v =>
      simp only [candidate?, Option.filter_eq_some_iff, Ipv6.mapped?_eq_some_iff, IpAddr.v6.injEq,
        reduceCtorEq, false_or, Ipv4.isUnspecified]
      refine and_congr_right ?_
      rintro rfl
      simp

/-- Without a filter on names, the addresses that may be probed are the candidates. -/
theorem mem_eligible_iff {interfaces : List InterfaceAddress} {ip : Ipv4} :
    ip ∈ eligible none interfaces ↔ Candidate interfaces ip := by
  simp only [eligible, Option.all_none, if_true, List.mem_filterMap, candidate?_eq_some_iff,
    Candidate, Present]
  constructor
  · rintro ⟨i, hi, hform, hzero⟩
    exact ⟨⟨i, hi, hform⟩, hzero⟩
  · rintro ⟨⟨i, hi, hform⟩, hzero⟩
    exact ⟨i, hi, hform, hzero⟩

/-! ## The selection, by membership -/

theorem mem_plainOnes_iff {ips : List Ipv4} {a : IpAddr} :
    a ∈ plainOnes ips ↔ ∃ ip ∈ ips, a = .v4 ip ∧ ip.isLoopback = false := by
  simp only [plainOnes, mem_distinct, List.mem_map, List.mem_filter, Bool.not_eq_true']
  constructor
  · rintro ⟨ip, ⟨hip, hloop⟩, rfl⟩
    exact ⟨ip, hip, rfl, hloop⟩
  · rintro ⟨ip, hip, rfl, hloop⟩
    exact ⟨ip, ⟨hip, hloop⟩, rfl⟩

theorem mem_loopbackOnes_iff {ips : List Ipv4} {a : IpAddr} :
    a ∈ loopbackOnes ips ↔ ∃ ip ∈ ips, a = .v4 ip ∧ ip.isLoopback = true := by
  simp only [loopbackOnes, mem_distinct, List.mem_map, List.mem_filter]
  constructor
  · rintro ⟨ip, ⟨hip, hloop⟩, rfl⟩
    exact ⟨ip, hip, rfl, hloop⟩
  · rintro ⟨ip, hip, rfl, hloop⟩
    exact ⟨ip, ⟨hip, hloop⟩, rfl⟩

theorem plainOnes_eq_nil_iff {ips : List Ipv4} :
    plainOnes ips = [] ↔ ∀ ip ∈ ips, ip.isLoopback = true := by
  rw [List.eq_nil_iff_forall_not_mem]
  constructor
  · intro hnone ip hip
    by_contra hloop
    exact hnone (.v4 ip) (mem_plainOnes_iff.mpr ⟨ip, hip, rfl, by simpa using hloop⟩)
  · intro hall a ha
    obtain ⟨ip, hip, -, hloop⟩ := mem_plainOnes_iff.mp ha
    rw [hall ip hip] at hloop
    injection hloop

/-- Both kinds make up the addresses. -/
theorem plainOnes_loopbackOnes_eq_nil_iff {ips : List Ipv4} :
    plainOnes ips = [] ∧ loopbackOnes ips = [] ↔ ips = [] := by
  constructor
  · rintro ⟨hplain, hloops⟩
    rw [plainOnes_eq_nil_iff] at hplain
    rw [List.eq_nil_iff_forall_not_mem] at hloops ⊢
    intro ip hip
    exact hloops (.v4 ip) (mem_loopbackOnes_iff.mpr ⟨ip, hip, rfl, hplain ip hip⟩)
  · rintro rfl
    exact ⟨rfl, rfl⟩

theorem choose_eq_none_iff {loopback : Bool} {plain loops : List IpAddr} :
    choose loopback plain loops = none ↔ plain = [] ∧ loops = [] := by
  unfold choose
  cases loopback <;> cases plain <;> cases loops <;> simp

/-- Loopback addresses are chosen on request, or when there is nothing else. -/
theorem mem_of_choose_eq_some {loopback : Bool} {plain loops locals : List IpAddr}
    (h : choose loopback plain loops = some locals) {a : IpAddr} :
    a ∈ locals ↔ a ∈ plain ∨ a ∈ loops ∧ (loopback = true ∨ plain = []) := by
  unfold choose at h
  cases loopback with
  | true =>
      have hlocals : locals = plain ++ loops := by
        cases plain <;> cases loops <;> simp_all
      rw [hlocals, List.mem_append]
      simp
  | false =>
      cases plain with
      | nil =>
          simp only [Bool.false_eq_true, if_false, List.isEmpty_nil, if_true,
            Option.ite_none_left_eq_some, Option.some.injEq] at h
          obtain ⟨-, rfl⟩ := h
          simp
      | cons p plain =>
          simp only [Bool.false_eq_true, if_false, List.isEmpty_cons, Option.some.injEq] at h
          subst h
          simp

/-- **Nothing is selected exactly when no address may be probed.** -/
theorem selectLocal_eq_none_iff {interfaces : List InterfaceAddress} {loopback : Bool}
    {filter : Option (Filter String)} :
    selectLocal interfaces loopback filter = none ↔ eligible filter interfaces = [] := by
  rw [selectLocal_eq, choose_eq_none_iff, plainOnes_loopbackOnes_eq_nil_iff]

/-- **The selected addresses**: those that may be probed, a loopback address only on request or when
    there is no other kind. -/
theorem mem_selectLocal_iff {interfaces : List InterfaceAddress} {loopback : Bool}
    {filter : Option (Filter String)} {locals : List IpAddr}
    (h : selectLocal interfaces loopback filter = some locals) {a : IpAddr} :
    a ∈ locals ↔ ∃ ip ∈ eligible filter interfaces, a = .v4 ip ∧
      (ip.isLoopback = true →
        loopback = true ∨ ∀ other ∈ eligible filter interfaces, other.isLoopback = true) := by
  rw [selectLocal_eq] at h
  rw [mem_of_choose_eq_some h, mem_plainOnes_iff, mem_loopbackOnes_iff, plainOnes_eq_nil_iff]
  constructor
  · rintro (⟨ip, hip, rfl, hplain⟩ | ⟨⟨ip, hip, rfl, -⟩, hrule⟩)
    · exact ⟨ip, hip, rfl, fun hloop => absurd (hplain.symm.trans hloop) Bool.false_ne_true⟩
    · exact ⟨ip, hip, rfl, fun _ => hrule⟩
  · rintro ⟨ip, hip, rfl, hrule⟩
    cases hloop : ip.isLoopback with
    | false => exact Or.inl ⟨ip, hip, rfl, hloop⟩
    | true => exact Or.inr ⟨⟨ip, hip, rfl, hloop⟩, hrule hloop⟩

/-! ## The addresses of a plan -/

/-- The address may take part in a resolution. The loopback rule looks at all candidates, also at
    those that the address filter rejects. -/
structure Config.Eligible (config : Config) (interfaces : List InterfaceAddress) (ip : Ipv4) :
    Prop where
  present : Present interfaces ip
  specified : ip ≠ ⟨0, 0, 0, 0⟩
  allowed : ∃ filter, config.addressFilter = .ok filter ∧ Filter.passes filter (.v4 ip) = true
  loopback : ip.isLoopback = true → config.enableLoopbackCandidate = true ∨
    ∀ other, Candidate interfaces other → other.isLoopback = true

variable {config : Config} {interfaces : List InterfaceAddress} {draws : Draws}

/-- What stands behind a plan. -/
theorem Config.plan_eq_ok {plan : Plan} (h : config.plan interfaces draws = .ok plan) :
    ∃ filter locals, config.addressFilter = .ok filter ∧
      config.ports draws = .ok plan.ports ∧
      selectLocal interfaces config.enableLoopbackCandidate none = some locals ∧
      plan.locals = locals.filter (Filter.passes filter) := by
  unfold Config.plan at h
  split at h
  · injection h
  · rename_i filter hfilter
    split at h
    · injection h
    · rename_i ports hports
      split at h
      · injection h
      · rename_i locals hlocals
        injection h with h
        subst h
        exact ⟨filter, locals, hfilter, hports, hlocals, rfl⟩

/-- **The addresses of a plan are the eligible ones.** -/
theorem mem_locals_plan_iff {plan : Plan} (h : config.plan interfaces draws = .ok plan)
    {a : IpAddr} : a ∈ plan.locals ↔ ∃ ip, a = .v4 ip ∧ config.Eligible interfaces ip := by
  obtain ⟨filter, locals, hfilter, -, hselect, hlocals⟩ := Config.plan_eq_ok h
  rw [hlocals, List.mem_filter, mem_selectLocal_iff hselect]
  simp only [mem_eligible_iff]
  constructor
  · rintro ⟨⟨ip, ⟨hpresent, hzero⟩, rfl, hloop⟩, hpass⟩
    exact ⟨ip, rfl, hpresent, hzero, ⟨filter, hfilter, hpass⟩, hloop⟩
  · rintro ⟨ip, rfl, hpresent, hzero, ⟨filter', hfilter', hpass⟩, hloop⟩
    rw [hfilter] at hfilter'
    injection hfilter' with hfilter'
    subst hfilter'
    exact ⟨⟨ip, ⟨hpresent, hzero⟩, rfl, hloop⟩, hpass⟩

/-! ## The probes of a collection -/

namespace Collector

/-- The tasks are those of local addresses, and probe from there. -/
def AtHome (locals : List IpAddr) (tasks : List ProbeTask) : Prop :=
  ∀ t ∈ tasks, ∃ ip ∈ locals, ProbeTask.AtHome ip t

variable {c : Collector} {locals : List IpAddr} {tasks : List ProbeTask}

theorem atHome_start (c : Collector) (locals : List IpAddr) :
    AtHome locals (locals.map (ProbeTask.start c.ports)) := by
  intro t ht
  obtain ⟨ip, hip, rfl⟩ := List.mem_map.mp ht
  exact ⟨ip, hip, rfl, fun _ hp => absurd hp List.not_mem_nil⟩

theorem AtHome.pollAll (h : AtHome locals tasks) (prober : Prober) (now : Nat) :
    AtHome locals (pollAll prober now tasks) := by
  intro t ht
  obtain ⟨u, hu, rfl⟩ := List.mem_map.mp ht
  obtain ⟨ip, hip, hhome⟩ := h u hu
  exact ⟨ip, hip, hhome.poll now⟩

/-- The tasks that a wait leaves are those of local addresses. -/
theorem atHome_waitFor (c : Collector) (locals : List IpAddr) :
    AtHome locals (c.waitFor locals).tasks := by
  rcases Nat.eq_zero_or_pos c.initial with hzero | hpos
  · rw [waitFor_of_zero hzero]
    exact atHome_start c locals
  · rw [waitFor_of_pos hpos]
    obtain ⟨last, tasks, tally, hhome, hend⟩ := @wait_induction c.prober c.grace
      (fun _ tasks _ => AtHome locals tasks)
      (fun _ _ _ next h _ _ => h.pollAll c.prober next)
      0 _ ((Tally.start c.initial).receiveAll c.grace 0
        (sentAll c.prober 0 (locals.map (ProbeTask.start c.ports))))
      ((atHome_start c locals).pollAll c.prober 0)
    rcases hend with ⟨_, hwait⟩ | ⟨_, _, _, hwait⟩
    · rw [hwait]
      exact hhome
    · rw [hwait]
      exact hhome

/-- **A collection probes from its local addresses only.** -/
theorem ip_mem_of_probe (c : Collector) (locals : List IpAddr) {p : Nat × Endpoint}
    (hp : p ∈ (c.run locals).probes) : p.2.ip ∈ locals := by
  by_cases hnone : distinct locals = []
  · simp [run, hnone] at hp
  · rw [run_of_ne_nil hnone] at hp
    obtain ⟨t, ht, hp⟩ := List.mem_flatMap.mp hp
    obtain ⟨u, hu, rfl⟩ := List.mem_map.mp ht
    obtain ⟨ip, hip, hhome⟩ := atHome_waitFor c (distinct locals) u hu
    rw [hhome.cancel.probes p hp]
    exact mem_distinct.mp hip

end Collector

/-! ## The whole resolution -/

/-- A report is that of the collection that follows the plan. -/
theorem resolve_eq_ok {prober : Prober} {clock : Clock} {report : Report}
    (h : resolve config interfaces draws prober clock = .ok report) :
    ∃ plan, config.plan interfaces draws = .ok plan ∧
      collect prober plan.ports config.timeouts plan.locals clock = .ok report := by
  rw [resolve_eq_plan] at h
  cases hplan : config.plan interfaces draws with
  | error e =>
      rw [hplan] at h
      injection h
  | ok plan =>
      rw [hplan] at h
      refine ⟨plan, rfl, ?_⟩
      cases hcollect : collect prober plan.ports config.timeouts plan.locals clock with
      | error e =>
          simp only [Except.bind, hcollect] at h
          injection h
      | ok r =>
          simp only [Except.bind, hcollect] at h
          injection h with h
          subst h
          rfl

/-- **Only eligible addresses are probed and reported, and each of them has its task.** What the
    configuration says about interfaces and about the node's own address has no part in it. -/
theorem resolve_eligible (config : Config) (interfaces : List InterfaceAddress) (draws : Draws)
    (prober : Prober) (clock : Clock) :
    (∀ report, resolve config interfaces draws prober clock = .ok report →
      (∀ p ∈ report.probes, ∃ ip, p.2.ip = .v4 ip ∧ config.Eligible interfaces ip) ∧
      (∀ m ∈ report.mappings, ∃ ip, m.internal = .v4 ip ∧ config.Eligible interfaces ip) ∧
      ∃ ips : List IpAddr, ips.Nodup ∧
        (∀ a, a ∈ ips ↔ ∃ ip, a = .v4 ip ∧ config.Eligible interfaces ip) ∧
        report.launched = ips.length) ∧
    ∀ (onInterfaces : Filter String) (nodeIp : Option IpAddr) (autoGenerated external : Bool),
      let config' : Config :=
        { config with
          interfaces := onInterfaces
          nodeIp := nodeIp
          nodeIpAutoGenerated := autoGenerated
          useExternalIp := external }
      resolve config' interfaces draws prober clock =
          resolve config interfaces draws prober clock ∧
        ∀ net ids, discover net ids draws config' clock = discover net ids draws config clock := by
  refine ⟨?_, fun _ _ _ _ => ⟨rfl, fun _ _ => rfl⟩⟩
  intro report h
  obtain ⟨plan, hplan, hcollect⟩ := resolve_eq_ok h
  refine ⟨?_, ?_, ?_⟩
  · intro p hp
    rw [collect_eq_ok hcollect] at hp
    exact (mem_locals_plan_iff hplan).mp (Collector.ip_mem_of_probe _ _ hp)
  · intro m hm
    obtain ⟨-, -, hlocals, -⟩ := Session.collect_bijective hcollect
    exact (mem_locals_plan_iff hplan).mp (hlocals m hm)
  · obtain ⟨-, hlaunched, -⟩ := Collector.report_run (config.collector prober plan) plan.locals
    rw [collect_eq_ok hcollect]
    refine ⟨distinct plan.locals, nodup_distinct _, ?_, hlaunched⟩
    intro a
    rw [mem_distinct]
    exact mem_locals_plan_iff hplan

/-- Addresses of all kinds: loopback, unspecified, one address in both its forms, one that the host
    of the race excludes, and one of IPv6 alone. -/
def mixedAddresses : List InterfaceAddress :=
  [⟨"lo", .v4 ⟨127, 0, 0, 1⟩⟩, ⟨"eth0", .v4 ⟨0, 0, 0, 0⟩⟩, ⟨"eth0", .v6 (.ofIpv4 ⟨10, 0, 0, 1⟩)⟩,
    ⟨"eth1", .v4 ⟨10, 0, 0, 1⟩⟩, ⟨"eth1", .v4 ⟨10, 0, 0, 4⟩⟩,
    ⟨"eth1", .v6 (.of 0xFE80 0 0 0 0 0 0 1)⟩]

/-- Of all these addresses one is probed and mapped, whatever interfaces the configuration names.
    The loopback address is not eligible. -/
theorem resolve_eligible_mixed :
    let config : Config := { raceHost with enableLoopbackCandidate := false }
    let config' : Config := { config with interfaces := { excludes := ["eth0", "eth1"] } }
    let clock := Clock.hourOld
    ¬config.Eligible mixedAddresses ⟨127, 0, 0, 1⟩ ∧
      ∃ report, resolve config' mixedAddresses id Collector.race.prober clock = .ok report ∧
        report.launched = 1 ∧ report.mappings = [⟨.v4 ⟨203, 0, 113, 9⟩, .v4 ⟨10, 0, 0, 1⟩⟩] ∧
        config.Eligible mixedAddresses ⟨10, 0, 0, 1⟩ := by
  intro config config' clock
  constructor
  · intro h
    rcases h.loopback rfl with hflag | hall
    · injection hflag
    · -- The other candidates are no loopback addresses.
      have hother : Candidate mixedAddresses ⟨10, 0, 0, 4⟩ :=
        ⟨⟨⟨"eth1", .v4 ⟨10, 0, 0, 4⟩⟩, by simp [mixedAddresses], Or.inl rfl⟩, by decide⟩
      exact absurd (hall _ hother) (by decide)
  · obtain ⟨heligible, hsame⟩ :=
      resolve_eligible config mixedAddresses id Collector.race.prober clock
    obtain ⟨hsame, -⟩ := hsame { excludes := ["eth0", "eth1"] } none false false
    have hreport : (resolve config mixedAddresses id Collector.race.prober clock).map
        (fun r => (r.launched, r.mappings)) =
          .ok (1, [⟨.v4 ⟨203, 0, 113, 9⟩, .v4 ⟨10, 0, 0, 1⟩⟩]) := by
      decide +kernel
    rw [show resolve config' mixedAddresses id Collector.race.prober clock =
      resolve config mixedAddresses id Collector.race.prober clock from hsame]
    generalize resolve config mixedAddresses id Collector.race.prober clock = resolved
      at hreport heligible ⊢
    cases resolved with
    | error e => injection hreport
    | ok report =>
        injection hreport with hreport
        injection hreport with hlaunched hmappings
        obtain ⟨-, hmapped, -⟩ := heligible report rfl
        obtain ⟨ip, hip, hallowed⟩ :=
          hmapped ⟨.v4 ⟨203, 0, 113, 9⟩, .v4 ⟨10, 0, 0, 1⟩⟩ (by rw [hmappings]; simp)
        injection hip with hip
        subst hip
        exact ⟨report, rfl, hlaunched, hmappings, hallowed⟩

end NatDiscovery
