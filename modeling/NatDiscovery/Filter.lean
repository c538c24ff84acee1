import NatDiscovery.Cidr

/-!
# `NatDiscovery.Filter` — include and exclude lists

Network interfaces and addresses are filtered by the same rule: a list of inclusions, when there are
any, names everything that passes; otherwise the exclusions name everything that does not.

## Contents
- `Filter`, `Filter.allows`, `Filter.set?`
- `Filter.allowsName`: interfaces, by name
- `Filter.blocks`, `Filter.allowsIp`: addresses, by block
-/

namespace NatDiscovery

/-- A list of inclusions and a list of exclusions. -/
structure Filter (α : Type) where
  includes : List α := []
  excludes : List α := []
  deriving DecidableEq, Repr

namespace Filter

variable {α : Type}

/-- Whether something passes, given which entries match it. -/
def allows (f : Filter α) (hits : α → Bool) : Bool :=
  if f.includes.isEmpty then !f.excludes.any hits else f.includes.any hits

/-- The filter, unless both lists are empty. -/
def set? (f : Filter α) : Option (Filter α) :=
  if f.includes.isEmpty && f.excludes.isEmpty then none else some f

/-- Inclusions win: the exclusions do not matter beside them. -/
theorem allows_of_includes {f : Filter α} (h : f.includes ≠ []) (hits : α → Bool) :
    f.allows hits = f.includes.any hits := by
  simp [allows, h]

theorem allows_of_no_includes {f : Filter α} (h : f.includes = []) (hits : α → Bool) :
    f.allows hits = !f.excludes.any hits := by
  simp [allows, h]

/-- Whether an interface of this name passes; names are compared exactly. -/
def allowsName (f : Filter String) (name : String) : Bool :=
  f.allows (· == name)

/-- Whether an address passes. -/
def allowsIp (f : Filter Cidr) (ip : IpAddr) : Bool :=
  f.allows (·.contains ip)

/-- The blocks that the texts spell, or the first text that spells none, inclusions before
exclusions. -/
def blocks (f : Filter String) : Except ConfigError (Filter Cidr) := do
  let includes ← f.includes.mapM Cidr.parse
  let excludes ← f.excludes.mapM Cidr.parse
  return { includes, excludes }

/-- The address filter of the texts, or none when there are no texts. -/
def addressFilter (f : Filter String) : Except ConfigError (Option (Filter Cidr)) :=
  match f.set? with
  | none => .ok none
  | some f => f.blocks.map some

/-- Whether an address passes a filter that may be absent. -/
def passes (f : Option (Filter Cidr)) (ip : IpAddr) : Bool :=
  f.all (·.allowsIp ip)

end Filter

end NatDiscovery
