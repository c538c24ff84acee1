import NatDiscovery.Resolution

/-!
# `Proofs.Selection` — which addresses a resolution probes

`selectLocal` goes through the interface addresses one by one, keeps two lists, and passes over what
it has seen. In closed form these are **the distinct addresses of two kinds among those eligible**
(`selectLocal_eq`). The order and the repetitions of the interface addresses show in the order of
the selection and nowhere else: the same interface addresses lead to the same error, or to the same
ports and a permutation of the addresses (`plan_reorder`).

## Contents
- `eligible`, `plainOnes`, `loopbackOnes`, `choose`, `selectLocal_eq`: the selection in closed form
- `distinct_perm`, `choose_perm`, `selectLocal_reorder`: the same addresses in another order
- `SameOutcome`: computations that both fail, or both succeed
- `Config.plan`, `resolve_eq_plan`, `plan_reorder`: what is settled before any probe starts
-/

namespace NatDiscovery

/-! ## The selection in closed form -/

/-- The addresses that may be probed, interface by interface. -/
def eligible (filter : Option (Filter String)) (interfaces : List InterfaceAddress) : List Ipv4 :=
  interfaces.filterMap fun i =>
    if filter.all (·.allowsName i.interface) then candidate? i.ip else none

/-- Those that are not loopback addresses, each once. -/
def plainOnes (ips : List Ipv4) : List IpAddr :=
  distinct ((ips.filter fun ip => !ip.isLoopback).map .v4)

/-- The loopback addresses among them, each once. -/
def loopbackOnes (ips : List Ipv4) : List IpAddr :=
  distinct ((ips.filter fun ip => ip.isLoopback).map .v4)

/-- Interface addresses that are not eligible leave no trace. -/
theorem foldl_see (filter : Option (Filter String)) (interfaces : List InterfaceAddress)
    (c : Candidates) :
    interfaces.foldl (Candidates.see filter) c =
      (eligible filter interfaces).foldl Candidates.add c := by
  induction interfaces generalizing c with
  | nil => rfl
  | cons i interfaces ih =>
      rw [List.foldl_cons, ih, eligible, eligible, List.filterMap_cons, Candidates.see]
      by_cases hpass : filter.all (·.allowsName i.interface) = true
      · rw [if_pos hpass, if_pos hpass]
        cases candidate? i.ip <;> rfl
      · rw [if_neg hpass, if_neg hpass]

/-- The two lists are gathered independently. -/
theorem foldl_add (ips : List Ipv4) (c : Candidates) :
    ips.foldl Candidates.add c =
      { plain := ((ips.filter fun ip => !ip.isLoopback).map .v4).foldl addNew c.plain
        loopback := ((ips.filter fun ip => ip.isLoopback).map .v4).foldl addNew c.loopback } := by
  induction ips generalizing c with
  | nil => rfl
  | cons ip ips ih =>
      rw [List.foldl_cons, ih, Candidates.add]
      cases hloop : ip.isLoopback <;> simp [hloop]

/-- The choice among the two kinds: loopback addresses come last and only on request, unless they
    are all there is. -/
def choose (loopback : Bool) (plain loops : List IpAddr) : Option (List IpAddr) :=
  let chosen := if loopback then plain ++ loops else plain
  if chosen.isEmpty then
    if loops.isEmpty then none else some loops
  else some chosen

/-- **The selection in closed form.** -/
theorem selectLocal_eq (interfaces : List InterfaceAddress) (loopback : Bool)
    (filter : Option (Filter String)) :
    selectLocal interfaces loopback filter =
      choose loopback (plainOnes (eligible filter interfaces))
        (loopbackOnes (eligible filter interfaces)) := by
  unfold selectLocal
  rw [foldl_see, foldl_add]
  rfl

/-! ## The same addresses in another order -/

/-- Lists with the same elements have the same distinct ones, in some order. -/
theorem distinct_perm {α : Type} [DecidableEq α] {xs ys : List α} (h : ∀ x, x ∈ xs ↔ x ∈ ys) :
    (distinct xs).Perm (distinct ys) := by
  rw [List.perm_ext_iff_of_nodup (nodup_distinct xs) (nodup_distinct ys)]
  intro x
  rw [mem_distinct, mem_distinct]
  exact h x

/-- The choice depends on the order of neither kind. -/
theorem choose_perm (loopback : Bool) {plain plain' loops loops' : List IpAddr}
    (hplain : plain.Perm plain') (hloops : loops.Perm loops') :
    Option.Rel List.Perm (choose loopback plain loops) (choose loopback plain' loops') := by
  have hchosen : (if loopback then plain ++ loops else plain).Perm
      (if loopback then plain' ++ loops' else plain') := by
    split
    · exact hplain.append hloops
    · exact hplain
  unfold choose
  generalize (if loopback then plain ++ loops else plain) = chosen at hchosen ⊢
  generalize (if loopback then plain' ++ loops' else plain') = chosen' at hchosen ⊢
  simp only [hchosen.isEmpty_eq, hloops.isEmpty_eq]
  cases chosen'.isEmpty with
  | false => exact .some hchosen
  | true =>
      cases loops'.isEmpty with
      | false => exact .some hloops
      | true => exact .none

section Reorder

variable {interfaces interfaces' : List InterfaceAddress}

theorem mem_eligible_congr (hsame : ∀ i, i ∈ interfaces ↔ i ∈ interfaces')
    (filter : Option (Filter String)) (ip : Ipv4) :
    ip ∈ eligible filter interfaces ↔ ip ∈ eligible filter interfaces' := by
  simp only [eligible, List.mem_filterMap, hsame]

theorem mem_map_filter_congr {ips ips' : List Ipv4} (hsame : ∀ ip, ip ∈ ips ↔ ip ∈ ips')
    (p : Ipv4 → Bool) (x : IpAddr) :
    x ∈ (ips.filter p).map IpAddr.v4 ↔ x ∈ (ips'.filter p).map IpAddr.v4 := by
  simp only [List.mem_map, List.mem_filter, hsame]

/-- **The same interface addresses select the same local addresses**, in some order, or both select
    none. -/
theorem selectLocal_reorder (hsame : ∀ i, i ∈ interfaces ↔ i ∈ interfaces') (loopback : Bool)
    (filter : Option (Filter String)) :
    Option.Rel List.Perm (selectLocal interfaces loopback filter)
      (selectLocal interfaces' loopback filter) := by
  have hips := mem_eligible_congr hsame filter
  rw [selectLocal_eq, selectLocal_eq]
  apply choose_perm
  · exact distinct_perm (mem_map_filter_congr hips _)
  · exact distinct_perm (mem_map_filter_congr hips _)

end Reorder

/-! ## What is settled before any probe starts -/

/-- Both computations fail with the same error, or both succeed with results that are related. -/
inductive SameOutcome {ε α : Type} (related : α → α → Prop) : Except ε α → Except ε α → Prop where
  | error (e : ε) : SameOutcome related (.error e) (.error e)
  | ok {a b : α} (h : related a b) : SameOutcome related (.ok a) (.ok b)

namespace SameOutcome

variable {ε ε' α β : Type} {r : α → α → Prop} {q : β → β → Prop} {x y : Except ε α}

theorem mapError (h : SameOutcome r x y) (f : ε → ε') :
    SameOutcome r (x.mapError f) (y.mapError f) := by
  cases h with
  | error e => exact .error (f e)
  | ok h => exact .ok h

/-- Computations that go on from related results in a related way. -/
theorem bind (h : SameOutcome r x y) {f g : α → Except ε β}
    (next : ∀ a b, x = .ok a → r a b → SameOutcome q (f a) (g b)) :
    SameOutcome q (x.bind f) (y.bind g) := by
  cases h with
  | error e => exact .error e
  | @ok a b h => exact next a b rfl h

end SameOutcome

/-- The candidate ports and the addresses to probe. -/
structure Plan where
  ports : List Port
  locals : List IpAddr
  deriving DecidableEq, Repr

/-- What a resolution settles before any probe starts. -/
def Config.plan (config : Config) (interfaces : List InterfaceAddress) (draws : Draws) :
    Except ResolveError Plan :=
  match config.addressFilter with
  | .error e => .error (.config e)
  | .ok filter =>
    match config.ports draws with
    | .error e => .error (.config e)
    | .ok ports =>
      match selectLocal interfaces config.enableLoopbackCandidate none with
      | none => .error (.network .noLocalAddress)
      | some locals => .ok ⟨ports, locals.filter (Filter.passes filter)⟩

/-- A resolution is a plan, and a collection that follows it. -/
theorem resolve_eq_plan (config : Config) (interfaces : List InterfaceAddress) (draws : Draws)
    (prober : Prober) (clock : Clock) :
    resolve config interfaces draws prober clock =
      (config.plan interfaces draws).bind fun plan =>
        (collect prober plan.ports config.timeouts plan.locals clock).mapError .clock := by
  unfold resolve Config.plan
  cases config.addressFilter with
  | error e => rfl
  | ok filter =>
      cases config.ports draws with
      | error e => rfl
      | ok ports =>
          cases selectLocal interfaces config.enableLoopbackCandidate none with
          | none => rfl
          | some locals =>
              simp only [Except.bind]
              cases collect prober ports config.timeouts (locals.filter (Filter.passes filter))
                  clock with
              | error e => rfl
              | ok report => rfl

/-- The plans have the same ports, and the same addresses in some order. -/
def Plan.SameUpToOrder (p q : Plan) : Prop :=
  p.ports = q.ports ∧ p.locals.Perm q.locals

/-- **The same interface addresses lead to the same plan**, up to the order of its addresses. -/
theorem plan_reorder (config : Config) {interfaces interfaces' : List InterfaceAddress}
    (hsame : ∀ i, i ∈ interfaces ↔ i ∈ interfaces') (draws : Draws) :
    SameOutcome Plan.SameUpToOrder (config.plan interfaces draws)
      (config.plan interfaces' draws) := by
  unfold Config.plan
  cases config.addressFilter with
  | error e => exact .error _
  | ok filter =>
      cases config.ports draws with
      | error e => exact .error _
      | ok ports =>
          have hselect := selectLocal_reorder hsame config.enableLoopbackCandidate none
          generalize selectLocal interfaces config.enableLoopbackCandidate none = selected
            at hselect ⊢
          generalize selectLocal interfaces' config.enableLoopbackCandidate none = selected'
            at hselect ⊢
          cases hselect with
          | none => exact .error _
          | some hperm => exact .ok ⟨rfl, hperm.filter _⟩

end NatDiscovery
