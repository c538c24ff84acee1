import Mathlib.Data.List.Induction
import NatDiscovery.Proofs.Filtering

/-!
# `Proofs.Candidates` — the selection arranges the candidates of a host

`selectLocal` keeps two lists while it goes through the interface addresses, and passes over what one
of them holds. What comes out is **one list of candidates, arranged**: the addresses of the admitted
interfaces in their IPv4 form, each where it occurs first, then the loopback addresses behind the
others or left out (`selectLocal_arranges`). The candidates are put together with the library's
`List.eraseDups`, in which no second list occurs; that the two lists of the selection are parts of it
comes down to dropping repetitions before or after a filter (`eraseDups_filter`).

## Contents
- `distinct_eq_eraseDups`, `eraseDups_filter`: first occurrences
- `candidates`, `mem_candidates_iff`: the candidates of a host
- `plainOnes_eq_filter`, `loopbackOnes_eq_filter`: the two lists as parts of the candidates
- `eligible_admitted`: interfaces that are not admitted might as well not be there
- `selectLocal_arranges`: the selection
-/

namespace NatDiscovery

/-! ## First occurrences -/

section FirstOccurrences

variable {α : Type} [DecidableEq α]

theorem eraseDups_concat (xs : List α) (x : α) :
    (xs ++ [x]).eraseDups = if x ∈ xs then xs.eraseDups else xs.eraseDups ++ [x] := by
  rw [List.eraseDups_append]
  by_cases h : x ∈ xs
  · simp [List.removeAll, h]
  · simp [List.removeAll, h, List.eraseDups_cons]

/-- What is gathered element by element are the first occurrences. -/
theorem distinct_eq_eraseDups (xs : List α) : distinct xs = xs.eraseDups := by
  induction xs using List.reverseRecOn with
  | nil => rfl
  | append_singleton xs x ih =>
      rw [distinct_concat, eraseDups_concat, addNew, ih]
      simp only [List.mem_eraseDups]

/-- A filter keeps or drops all occurrences of an element alike, so it may come before or after. -/
theorem eraseDups_filter (p : α → Bool) (xs : List α) :
    (xs.filter p).eraseDups = xs.eraseDups.filter p := by
  induction xs using List.reverseRecOn with
  | nil => rfl
  | append_singleton xs x ih =>
      rw [List.filter_append, eraseDups_concat]
      cases hp : p x with
      | false =>
          rw [List.filter_singleton, hp, cond_false, List.append_nil, ih]
          split
          · rfl
          · simp [hp]
      | true =>
          rw [List.filter_singleton, hp, cond_true, eraseDups_concat, ih]
          by_cases h : x ∈ xs
          · simp [h, hp]
          · simp [h, hp]

theorem nodup_eraseDups (xs : List α) : xs.eraseDups.Nodup :=
  distinct_eq_eraseDups xs ▸ nodup_distinct xs

end FirstOccurrences

/-! ## The candidates of a host -/

/-- The candidates of a host: the IPv4 addresses of the admitted interfaces, IPv4-mapped addresses
    among them, without 0.0.0.0, each where it occurs first. -/
def candidates (filter : Option (Filter String)) (interfaces : List InterfaceAddress) :
    List IpAddr :=
  ((eligible filter interfaces).map .v4).eraseDups

section Selection

variable {interfaces : List InterfaceAddress} {filter : Option (Filter String)}

theorem mem_candidates_iff {a : IpAddr} :
    a ∈ candidates filter interfaces ↔
      ∃ i ∈ interfaces, (∀ f ∈ filter, f.Admits (· = i.interface)) ∧
        ∃ ip : Ipv4, a = .v4 ip ∧ ip ≠ ⟨0, 0, 0, 0⟩ ∧
          (i.ip = .v4 ip ∨ i.ip = .v6 (.ofIpv4 ip)) := by
  simp only [candidates, eligible, List.mem_eraseDups, List.mem_map, List.mem_filterMap,
    Option.ite_none_right_eq_some, candidate?_eq_some_iff, Option.all_eq_true,
    Filter.allowsName_iff]
  constructor
  · rintro ⟨ip, ⟨i, hi, hadmits, hform, hzero⟩, rfl⟩
    exact ⟨i, hi, hadmits, ip, rfl, hzero, hform⟩
  · rintro ⟨i, hi, hadmits, ip, rfl, hzero, hform⟩
    exact ⟨ip, ⟨i, hi, hadmits, hform, hzero⟩, rfl⟩

theorem candidates_eq_nil_iff :
    candidates filter interfaces = [] ↔ eligible filter interfaces = [] := by
  simp only [List.eq_nil_iff_forall_not_mem, candidates, List.mem_eraseDups, List.mem_map,
    not_exists, not_and]
  constructor
  · intro h ip hip
    exact h (.v4 ip) ip hip rfl
  · rintro h a ip hip rfl
    exact h ip hip

/-- The list of plain addresses is the plain part of the candidates. -/
theorem plainOnes_eq_filter :
    plainOnes (eligible filter interfaces) =
      (candidates filter interfaces).filter fun a => !a.isLoopback := by
  rw [candidates, ← eraseDups_filter, List.filter_map, plainOnes, distinct_eq_eraseDups]
  rfl

/-- The list of loopback addresses is the loopback part. -/
theorem loopbackOnes_eq_filter :
    loopbackOnes (eligible filter interfaces) =
      (candidates filter interfaces).filter fun a => a.isLoopback := by
  rw [candidates, ← eraseDups_filter, List.filter_map, loopbackOnes, distinct_eq_eraseDups]
  rfl

/-- What a filter on names holds back might as well not be there. -/
theorem eligible_admitted (filter : Option (Filter String)) (interfaces : List InterfaceAddress) :
    eligible filter interfaces =
      eligible none (interfaces.filter fun i => filter.all (·.allowsName i.interface)) := by
  simp only [eligible, List.filterMap_filter, Option.all_none, if_true]

/-! ## The selection -/

/-- The parts have no address in common. -/
theorem nodup_parts (xs : List IpAddr) (h : xs.Nodup) :
    (xs.filter (fun a => !a.isLoopback) ++ xs.filter fun a => a.isLoopback).Nodup := by
  refine List.Nodup.append (h.filter _) (h.filter _) ?_
  intro a hplain hloop
  have hplain := (List.mem_filter.mp hplain).2
  rw [(List.mem_filter.mp hloop).2] at hplain
  injection hplain

/-- In a list of plain addresses, or behind one, loopback addresses are followed by nothing else. -/
theorem pairwise_parts (xs : List IpAddr) :
    (xs.filter (fun a => !a.isLoopback) ++ xs.filter fun a => a.isLoopback).Pairwise
      fun a b => a.isLoopback = true → b.isLoopback = true := by
  rw [List.pairwise_append]
  refine ⟨?_, ?_, ?_⟩
  · rw [List.pairwise_filter]
    refine List.pairwise_of_forall ?_
    intro a b hplain _ hloop
    rw [hloop] at hplain
    injection hplain
  · rw [List.pairwise_filter]
    refine List.pairwise_of_forall ?_
    intro a b _ hloop _
    exact hloop
  · intro a _ b hb _
    exact (List.mem_filter.mp hb).2

/-- What is chosen, if there is anything to choose from. -/
theorem choose_of_ne_nil {plain loops : List IpAddr} (h : ¬(plain = [] ∧ loops = []))
    (loopback : Bool) :
    choose loopback plain loops =
      some (if loopback then plain ++ loops else if plain = [] then loops else plain) := by
  unfold choose
  cases plain with
  | nil =>
      have hloops : loops ≠ [] := fun hnil => h ⟨rfl, hnil⟩
      cases loopback <;> simp [hloops]
  | cons p plain => cases loopback <;> rfl

/-- The chosen addresses keep the order in which plain addresses come first. -/
theorem sublist_of_choose_eq_some {loopback : Bool} {plain loops locals : List IpAddr}
    (h : choose loopback plain loops = some locals) : locals.Sublist (plain ++ loops) := by
  have hsome : ¬(plain = [] ∧ loops = []) := by
    intro hnil
    rw [choose_eq_none_iff.mpr hnil] at h
    injection h
  rw [choose_of_ne_nil hsome, Option.some.injEq] at h
  subst h
  split
  · exact List.Sublist.refl _
  · split
    · exact List.sublist_append_right plain loops
    · exact List.sublist_append_left plain loops

end Selection

/-- **The selection arranges the candidates**: the plain ones, then the loopback ones if they are
    wanted; the loopback ones alone if there are no others. There is no selection exactly where there
    are no candidates, and a filter on names does the same as leaving interfaces out. -/
theorem selectLocal_arranges (interfaces : List InterfaceAddress) (loopback : Bool)
    (filter : Option (Filter String)) :
    let all := candidates filter interfaces
    let plain := all.filter fun a => !a.isLoopback
    let loops := all.filter fun a => a.isLoopback
    let selected := selectLocal interfaces loopback filter
    (∀ a, a ∈ all ↔ ∃ i ∈ interfaces, (∀ f ∈ filter, f.Admits (· = i.interface)) ∧
      ∃ ip : Ipv4, a = .v4 ip ∧ ip ≠ ⟨0, 0, 0, 0⟩ ∧ (i.ip = .v4 ip ∨ i.ip = .v6 (.ofIpv4 ip))) ∧
    (selected = none ↔ all = []) ∧
    (all ≠ [] → selected =
      some (if loopback then plain ++ loops else if plain = [] then loops else plain)) ∧
    (∀ locals, selected = some locals → locals.Nodup ∧ (∀ a ∈ plain, a ∈ locals) ∧
      locals.Pairwise fun a b => a.isLoopback = true → b.isLoopback = true) ∧
    selected =
      selectLocal (interfaces.filter fun i => filter.all (·.allowsName i.interface)) loopback
        none := by
  intro all plain loops selected
  have hselected : selected = choose loopback plain loops := by
    show selectLocal interfaces loopback filter = _
    rw [selectLocal_eq, plainOnes_eq_filter, loopbackOnes_eq_filter]
  have hnone : selected = none ↔ all = [] :=
    selectLocal_eq_none_iff.trans candidates_eq_nil_iff.symm
  refine ⟨fun a => mem_candidates_iff, hnone, ?_, ?_, ?_⟩
  · intro hall
    have hsome : ¬(plain = [] ∧ loops = []) := by
      intro hnil
      exact hall (hnone.mp (hselected.trans (choose_eq_none_iff.mpr hnil)))
    rw [hselected, choose_of_ne_nil hsome]
  · intro locals hlocals
    rw [hselected] at hlocals
    have hsub := sublist_of_choose_eq_some hlocals
    refine ⟨(nodup_parts all (nodup_eraseDups _)).sublist hsub, ?_,
      (pairwise_parts all).sublist hsub⟩
    intro a ha
    exact (mem_of_choose_eq_some hlocals).mpr (Or.inl ha)
  · show selectLocal interfaces loopback filter = _
    rw [selectLocal_eq, selectLocal_eq, eligible_admitted]

/-- Three addresses are selected. The loopback address comes last, although it is the first of the
    host. What the interface left out has, another interface has as well. -/
theorem selectLocal_arranges_mixed :
    let filter : Filter String := { excludes := ["eth0"] }
    let locals : List IpAddr := [.v4 ⟨10, 0, 0, 1⟩, .v4 ⟨10, 0, 0, 4⟩, .v4 ⟨127, 0, 0, 1⟩]
    candidates (some filter) mixedAddresses ≠ [] ∧
      selectLocal mixedAddresses true (some filter) = some locals ∧ locals.Nodup := by
  intro filter locals
  obtain ⟨-, -, hselected, hlocals, -⟩ := selectLocal_arranges mixedAddresses true (some filter)
  have hall : candidates (some filter) mixedAddresses ≠ [] := by decide
  have harranged : selectLocal mixedAddresses true (some filter) = some locals := by
    rw [hselected hall]
    decide
  exact ⟨hall, harranged, (hlocals locals harranged).1⟩

end NatDiscovery
