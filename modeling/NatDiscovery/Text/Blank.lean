/-!
# `NatDiscovery.Text.Blank` — blanks and trimming

The blanks are the characters of the Unicode property `White_Space`. Configuration texts (address
blocks, the ends of a port range) may be surrounded by them, so both readers trim first.

## Contents
- `isBlank`, `trim`
- `trim_eq_self`, `trim_blank_append`, `trim_append_blank`, `exists_blanks_trim`: trimming takes away
  the blanks at both ends and nothing else.
-/

namespace NatDiscovery

/-- The character has the Unicode property `White_Space`. -/
def isBlank (c : Char) : Bool :=
  let n := c.toNat
  (0x09 ≤ n && n ≤ 0x0D) || n == 0x20 || n == 0x85 || n == 0xA0 || n == 0x1680 ||
    (0x2000 ≤ n && n ≤ 0x200A) || n == 0x2028 || n == 0x2029 || n == 0x202F || n == 0x205F ||
    n == 0x3000

/-- The text without the blanks at its end. -/
def trimEnd : List Char → List Char
  | [] => []
  | c :: cs =>
    match trimEnd cs with
    | [] => if isBlank c then [] else [c]
    | kept => c :: kept

/-- The text without the blanks at its two ends. -/
def trim (cs : List Char) : List Char :=
  trimEnd (cs.dropWhile isBlank)

/-! ## What trimming keeps -/

theorem trimEnd_cons_of_not_blank {c : Char} (cs : List Char) (h : isBlank c = false) :
    trimEnd (c :: cs) = c :: trimEnd cs := by
  cases hc : trimEnd cs <;> simp [trimEnd, hc, h]

theorem trimEnd_eq_nil {ws : List Char} (h : ∀ w ∈ ws, isBlank w = true) : trimEnd ws = [] := by
  induction ws with
  | nil => rfl
  | cons w ws ih =>
    have hw := h w (by simp)
    simp [trimEnd, ih fun v hv => h v (by simp [hv]), hw]

theorem trimEnd_append_blank (cs : List Char) {ws : List Char} (h : ∀ w ∈ ws, isBlank w = true) :
    trimEnd (cs ++ ws) = trimEnd cs := by
  induction cs with
  | nil => simpa [trimEnd] using trimEnd_eq_nil h
  | cons c cs ih => simp [trimEnd, ih]

theorem dropWhile_blank_append {ws : List Char} (cs : List Char)
    (h : ∀ w ∈ ws, isBlank w = true) :
    (ws ++ cs).dropWhile isBlank = cs.dropWhile isBlank := by
  induction ws with
  | nil => rfl
  | cons w ws ih =>
    have hw := h w (by simp)
    simp [hw, ih fun v hv => h v (by simp [hv])]

/-- Blanks in front of a text do not matter. -/
theorem trim_blank_append {ws : List Char} (cs : List Char) (h : ∀ w ∈ ws, isBlank w = true) :
    trim (ws ++ cs) = trim cs := by
  simp [trim, dropWhile_blank_append cs h]

/-- Blanks behind a text do not matter. -/
theorem trim_append_blank (cs : List Char) {ws : List Char} (h : ∀ w ∈ ws, isBlank w = true) :
    trim (cs ++ ws) = trim cs := by
  induction cs with
  | nil =>
    have hd := dropWhile_blank_append [] h
    simp only [List.append_nil, List.dropWhile_nil] at hd
    simp [trim, hd]
  | cons c cs ih =>
    by_cases hc : isBlank c = true
    · simpa [trim, hc] using ih
    · simpa [trim, hc] using trimEnd_append_blank (c :: cs) h

theorem trimEnd_eq_self {cs : List Char} (h : ∀ c ∈ cs, isBlank c = false) : trimEnd cs = cs := by
  induction cs with
  | nil => rfl
  | cons c cs ih =>
    rw [trimEnd_cons_of_not_blank cs (h c (by simp)), ih fun d hd => h d (by simp [hd])]

/-- A text without blanks is not changed. -/
theorem trim_eq_self {cs : List Char} (h : ∀ c ∈ cs, isBlank c = false) : trim cs = cs := by
  cases cs with
  | nil => rfl
  | cons c cs =>
    have hc := h c (by simp)
    simpa [trim, hc] using trimEnd_eq_self h

/-! ## What trimming takes away -/

theorem exists_blanks_trimEnd (cs : List Char) :
    ∃ back, cs = trimEnd cs ++ back ∧ ∀ w ∈ back, isBlank w = true := by
  induction cs with
  | nil => exact ⟨[], rfl, by simp⟩
  | cons c cs ih =>
    obtain ⟨back, hcs, hback⟩ := ih
    cases hkept : trimEnd cs with
    | nil =>
      rw [hkept, List.nil_append] at hcs
      -- Nothing is kept of what follows, so `c` decides for itself.
      by_cases hc : isBlank c = true
      · exact ⟨c :: cs, by simp [trimEnd, hkept, hc], by simpa [hc, hcs] using hback⟩
      · exact ⟨cs, by simp [trimEnd, hkept, hc], hcs ▸ hback⟩
    | cons d kept =>
      refine ⟨back, ?_, hback⟩
      rw [hkept] at hcs
      simp only [trimEnd, hkept]
      exact congrArg (c :: ·) hcs

/-- A text is what is kept of it, with blanks around. -/
theorem exists_blanks_trim (cs : List Char) :
    ∃ front back, cs = front ++ trim cs ++ back ∧ (∀ w ∈ front, isBlank w = true) ∧
      ∀ w ∈ back, isBlank w = true := by
  obtain ⟨back, hrest, hback⟩ := exists_blanks_trimEnd (cs.dropWhile isBlank)
  refine ⟨cs.takeWhile isBlank, back, ?_, ?_, hback⟩
  · rw [List.append_assoc, trim, ← hrest, List.takeWhile_append_dropWhile]
  · exact List.all_eq_true.mp List.all_takeWhile

end NatDiscovery
