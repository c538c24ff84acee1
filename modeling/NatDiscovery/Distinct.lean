/-!
# `NatDiscovery.Distinct` — lists without repetitions

A list is gathered element by element; an element that is there already is passed over. What
remains are the first occurrences in their order.

## Contents
- `addNew`, `distinct`
- `mem_distinct`, `nodup_distinct`: the same elements, each once
-/

namespace NatDiscovery

variable {α : Type} [DecidableEq α]

/-- The list with `x` at its end, unless it holds `x` already. -/
def addNew (xs : List α) (x : α) : List α :=
  if x ∈ xs then xs else xs ++ [x]

/-- The first occurrences of the elements, in their order. -/
def distinct (xs : List α) : List α :=
  xs.foldl addNew []

theorem mem_addNew {xs : List α} {x y : α} : y ∈ addNew xs x ↔ y ∈ xs ∨ y = x := by
  by_cases h : x ∈ xs
  · simp only [addNew, h, if_true]
    constructor
    · exact Or.inl
    · rintro (hy | rfl)
      · exact hy
      · exact h
  · simp [addNew, h]

theorem nodup_addNew {xs : List α} (hxs : xs.Nodup) (x : α) : (addNew xs x).Nodup := by
  by_cases h : x ∈ xs
  · simpa [addNew, h] using hxs
  · simp only [addNew, h, if_false]
    rw [List.nodup_append]
    refine ⟨hxs, by simp, ?_⟩
    intro a ha b hb
    rcases List.mem_singleton.1 hb with rfl
    rintro rfl
    exact h ha

theorem mem_foldl_addNew {xs acc : List α} {y : α} :
    y ∈ xs.foldl addNew acc ↔ y ∈ acc ∨ y ∈ xs := by
  induction xs generalizing acc with
  | nil => simp
  | cons x xs ih => simp [ih, mem_addNew, or_assoc]

theorem nodup_foldl_addNew {xs acc : List α} (h : acc.Nodup) : (xs.foldl addNew acc).Nodup := by
  induction xs generalizing acc with
  | nil => exact h
  | cons x xs ih => exact ih (nodup_addNew h x)

/-- The last element is gathered last. -/
theorem distinct_concat (xs : List α) (x : α) : distinct (xs ++ [x]) = addNew (distinct xs) x :=
  List.foldl_append

/-- Gathering loses no element and makes none up. -/
@[simp] theorem mem_distinct {xs : List α} {y : α} : y ∈ distinct xs ↔ y ∈ xs := by
  simp [distinct, mem_foldl_addNew]

/-- No element is gathered twice. -/
theorem nodup_distinct (xs : List α) : (distinct xs).Nodup :=
  nodup_foldl_addNew List.nodup_nil

end NatDiscovery
