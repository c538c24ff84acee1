import Mathlib.Data.List.Basic
import Mathlib.Tactic.IntervalCases
import NatDiscovery.Text.Numeral

/-!
# `Proofs.Text.Numeral` — a written number is read back

A number is written with the digits of a base, and a reader takes every digit that it finds. So the
text behind the number decides whether it is read back: it must not go on with a digit
(`Stops`). The reader's form must have room for the number, and then nothing else can go wrong: a
written number starts with a zero only when it is zero (`head?_digitsOf`).

## Contents
- `Stops`: the text behind goes on with no character of a kind
- `digitsOf`, `digitRun_write`: the digits found are those written
- `ofDigits_digitsOf`, `head?_digitsOf`: what they spell
- `Form.read_write`: a numeral of a form
- `readWhole_eq_ok_iff`, `readWhole_write`: a whole text
-/

namespace NatDiscovery

/-- The text is at its end, or goes on with a character that is not of this kind. -/
def Stops (p : Char → Prop) (rest : List Char) : Prop :=
  ∀ c ∈ rest.head?, ¬p c

theorem stops_nil (p : Char → Prop) : Stops p [] := by
  intro c hc
  cases hc

theorem stops_cons {p : Char → Prop} {c : Char} {rest : List Char} :
    Stops p (c :: rest) ↔ ¬p c := by
  constructor
  · intro h
    exact h c rfl
  · intro h d hd
    obtain rfl := Option.some.inj hd
    exact h

theorem Stops.mono {p q : Char → Prop} {rest : List Char} (h : Stops q rest)
    (hpq : ∀ c, p c → q c) : Stops p rest := by
  intro c hc hp
  exact h c hc (hpq c hp)

namespace Numeral

/-- The character is a digit of the base. -/
def IsDigit (base : Nat) (c : Char) : Prop :=
  (digit? base c).isSome

/-- Digits are characters before those of a greater base. -/
theorem IsDigit.mono {base base' : Nat} (hle : base ≤ base') {c : Char} (h : IsDigit base c) :
    IsDigit base' c := by
  obtain ⟨d, hd⟩ := Option.isSome_iff_exists.mp h
  simp only [digit?, Option.filter_eq_some_iff, decide_eq_true_eq] at hd
  refine Option.isSome_iff_exists.mpr ⟨d, ?_⟩
  simp only [digit?, Option.filter_eq_some_iff, decide_eq_true_eq]
  exact ⟨hd.1, Nat.lt_of_lt_of_le hd.2 hle⟩

theorem digit?_digitChar {base d : Nat} (hbase : base ≤ 16) (hd : d < base) :
    digit? base d.digitChar = some d := by
  have hsixteen : d < 16 := Nat.lt_of_lt_of_le hd hbase
  have hvalue : digit? 16 d.digitChar = some d := by
    clear hd
    interval_cases d <;> decide
  simp only [digit?, Option.filter_eq_some_iff, decide_eq_true_eq] at hvalue ⊢
  exact ⟨hvalue.1, hd⟩

/-! ## Runs of digits -/

theorem digitRun_of_stops {base : Nat} {cs : List Char} (h : Stops (IsDigit base) cs) :
    digitRun base cs = ([], cs) := by
  cases cs with
  | nil => rfl
  | cons c cs =>
      have hc : digit? base c = none := by
        simpa [IsDigit] using stops_cons.mp h
      simp only [digitRun, hc]

/-- A run of digits ends where the text behind stops. -/
theorem digitRun_append {base : Nat} {cs rest : List Char} (hcs : ∀ c ∈ cs, IsDigit base c)
    (hrest : Stops (IsDigit base) rest) :
    digitRun base (cs ++ rest) = (cs.filterMap (digit? base), rest) := by
  induction cs with
  | nil => exact digitRun_of_stops hrest
  | cons c cs ih =>
      obtain ⟨d, hd⟩ := Option.isSome_iff_exists.mp (hcs c (List.mem_cons_self ..))
      have htail : ∀ c ∈ cs, IsDigit base c := by
        intro c hc
        exact hcs c (List.mem_cons_of_mem _ hc)
      have ih := ih htail
      show digitRun base (c :: (cs ++ rest)) = _
      simp only [digitRun, hd, ih, List.filterMap_cons]

theorem length_filterMap_digit? {base : Nat} {cs : List Char} (hcs : ∀ c ∈ cs, IsDigit base c) :
    (cs.filterMap (digit? base)).length = cs.length := by
  induction cs with
  | nil => rfl
  | cons c cs ih =>
      obtain ⟨d, hd⟩ := Option.isSome_iff_exists.mp (hcs c (List.mem_cons_self ..))
      rw [List.filterMap_cons, hd]
      exact congrArg Nat.succ (ih fun c hc => hcs c (List.mem_cons_of_mem _ hc))

theorem ofDigits_append_singleton (base : Nat) (digits : List Nat) (d : Nat) :
    ofDigits base (digits ++ [d]) = ofDigits base digits * base + d := by
  rw [ofDigits, List.foldl_append]
  rfl

/-! ## The digits of a number -/

/-- The digits of a number, most significant first. -/
def digitsOf (base n : Nat) : List Nat :=
  (write base n).filterMap (digit? base)

section Digits

variable {base : Nat} (hone : 1 < base) (hbase : base ≤ 16)

include hone hbase

theorem isDigit_of_mem_write (n : Nat) : ∀ c ∈ write base n, IsDigit base c := by
  -- The last digit is `n % base`, and those before it are written for `n / base`.
  induction n using Nat.strong_induction_on with
  | _ n ih =>
      intro c hc
      have hmod : n % base < base := Nat.mod_lt _ (by omega)
      rw [write, Nat.toDigits_eq_if hone] at hc
      split at hc
      · rename_i hlt
        rw [List.mem_singleton.mp hc, IsDigit, digit?_digitChar hbase hlt]
        rfl
      · rename_i hge
        rcases List.mem_append.mp hc with hc | hc
        · exact ih (n / base) (Nat.div_lt_self (by omega) hone) c hc
        · rw [List.mem_singleton.mp hc, IsDigit, digit?_digitChar hbase hmod]
          rfl

omit hone in
theorem digitsOf_of_lt {n : Nat} (h : n < base) : digitsOf base n = [n] := by
  rw [digitsOf, write, Nat.toDigits_of_lt_base h, List.filterMap_cons, digit?_digitChar hbase h]
  rfl

theorem digitsOf_of_le {n : Nat} (h : base ≤ n) :
    digitsOf base n = digitsOf base (n / base) ++ [n % base] := by
  have hmod : n % base < base := Nat.mod_lt _ (by omega)
  rw [digitsOf, write, Nat.toDigits_of_base_le hone h, List.filterMap_append, List.filterMap_cons,
    digit?_digitChar hbase hmod]
  rfl

/-- The digits spell the number. -/
theorem ofDigits_digitsOf (n : Nat) : ofDigits base (digitsOf base n) = n := by
  induction n using Nat.strong_induction_on with
  | _ n ih =>
      by_cases h : n < base
      · rw [digitsOf_of_lt hbase h]
        show 0 * base + n = n
        omega
      · have hle : base ≤ n := Nat.le_of_not_lt h
        rw [digitsOf_of_le hone hbase hle, ofDigits_append_singleton,
          ih (n / base) (Nat.div_lt_self (by omega) hone), Nat.mul_comm]
        exact Nat.div_add_mod n base

theorem digitsOf_ne_nil (n : Nat) : digitsOf base n ≠ [] := by
  by_cases h : n < base
  · rw [digitsOf_of_lt hbase h]
    exact List.cons_ne_nil _ _
  · rw [digitsOf_of_le hone hbase (Nat.le_of_not_lt h)]
    exact List.concat_ne_nil _ _

/-- Only zero starts with a zero. -/
theorem head?_digitsOf {n : Nat} (h : (digitsOf base n).head? = some 0) : n = 0 := by
  induction n using Nat.strong_induction_on with
  | _ n ih =>
      by_cases hlt : n < base
      · rw [digitsOf_of_lt hbase hlt] at h
        exact Option.some.inj h
      · have hle : base ≤ n := Nat.le_of_not_lt hlt
        -- The first digit is that of `n / base`, which is not zero.
        have hpos : 0 < n / base := Nat.div_pos hle (by omega)
        rw [digitsOf_of_le hone hbase hle,
          List.head?_append_of_ne_nil _ (digitsOf_ne_nil hone hbase _)] at h
        have hzero := ih (n / base) (Nat.div_lt_self (by omega) hone) h
        omega

theorem length_digitsOf_le {n k : Nat} (hk : 0 < k) (h : n < base ^ k) :
    (digitsOf base n).length ≤ k := by
  rw [digitsOf, length_filterMap_digit? (isDigit_of_mem_write hone hbase n)]
  exact (Nat.length_toDigits_le_iff hone hk).mpr h

/-- The digits that a reader finds are those of the number. -/
theorem digitRun_write (n : Nat) {rest : List Char} (hrest : Stops (IsDigit base) rest) :
    digitRun base (write base n ++ rest) = (digitsOf base n, rest) :=
  digitRun_append (isDigit_of_mem_write hone hbase n) hrest

end Digits

/-! ## Numerals of a form -/

/-- The form has room for the number: it is below the bound, and so short that its digits are no
more than allowed. -/
structure Form.Holds (f : Form) (n : Nat) : Prop where
  one_lt : 1 < f.base
  base_le : f.base ≤ 16
  lt_bound : n < f.bound
  fits : ∀ k ∈ f.maxDigits, 0 < k ∧ n < f.base ^ k

/-- **A written number is read back**, and the text behind it is left. -/
theorem Form.read_write {f : Form} {n : Nat} (h : f.Holds n) {rest : List Char}
    (hrest : Stops (IsDigit f.base) rest) : f.read (write f.base n ++ rest) = some (n, rest) := by
  have haccepts : f.accepts (digitsOf f.base n) = true := by
    have hempty : (digitsOf f.base n).isEmpty = false := by
      simpa using digitsOf_ne_nil h.one_lt h.base_le n
    have hlength : f.maxDigits.all ((digitsOf f.base n).length ≤ ·) = true := by
      rw [Option.all_eq_true]
      intro k hk
      obtain ⟨hpos, hlt⟩ := h.fits k hk
      exact decide_eq_true (length_digitsOf_le h.one_lt h.base_le hpos hlt)
    have hzeros :
        ((digitsOf f.base n).head? != some 0 || (digitsOf f.base n).length == 1) = true := by
      rw [Bool.or_eq_true, bne_iff_ne]
      by_cases hhead : (digitsOf f.base n).head? = some 0
      · -- Then the number is zero, and has one digit.
        right
        have hlt : n < f.base := by
          rw [head?_digitsOf h.one_lt h.base_le hhead]
          exact Nat.lt_trans Nat.zero_lt_one h.one_lt
        rw [digitsOf_of_lt h.base_le hlt]
        rfl
      · exact Or.inl hhead
    simp only [accepts, hempty, hlength, ofDigits_digitsOf h.one_lt h.base_le, h.lt_bound,
      Bool.or_assoc, hzeros, decide_true, Bool.not_false, Bool.and_self, Bool.or_true]
  simp only [read, digitRun_write h.one_lt h.base_le n hrest, haccepts, if_true,
    ofDigits_digitsOf h.one_lt h.base_le]

/-- A reader takes the run of digits or nothing. -/
theorem Form.read_eq_none_or (f : Form) (cs : List Char) :
    f.read cs = none ∨ ∃ n, f.read cs = some (n, (digitRun f.base cs).2) := by
  cases haccepts : f.accepts (digitRun f.base cs).1 with
  | true => exact Or.inr ⟨_, if_pos haccepts⟩
  | false => exact Or.inl (if_neg (Bool.eq_false_iff.mp haccepts))

/-- A text that does not start with a digit holds no numeral. -/
theorem Form.read_of_stops {f : Form} {cs : List Char} (h : Stops (IsDigit f.base) cs) :
    f.read cs = none := by
  simp only [read, digitRun_of_stops h, accepts, List.isEmpty_nil, Bool.not_true, Bool.false_and,
    Bool.false_eq_true, if_false]

/-! ## A whole text -/

/-- Digits behind others lead on from the number that those spell. -/
theorem le_foldl_digits (n : Nat) (ds : List Nat) : n ≤ ds.foldl (fun n d => n * 10 + d) n := by
  induction ds generalizing n with
  | nil => exact Nat.le_refl n
  | cons d ds ih => exact Nat.le_trans (by omega) (ih (n * 10 + d))

/-- The digits of a text are read on from a number as long as the bound is not reached. Since the
    number only grows, it is the last one that has to stay below. -/
theorem continueFrom_eq_ok_iff {bound n m : Nat} {cs : List Char} (hn : n < bound) :
    continueFrom bound n cs = .ok m ↔
      (∀ c ∈ cs, IsDigit 10 c) ∧ m < bound ∧
        (cs.filterMap (digit? 10)).foldl (fun n d => n * 10 + d) n = m := by
  induction cs generalizing n with
  | nil =>
      simp only [continueFrom, Except.ok.injEq, List.not_mem_nil, false_implies, implies_true,
        List.filterMap_nil, List.foldl_nil, true_and]
      exact ⟨fun h => ⟨h ▸ hn, h⟩, fun h => h.2⟩
  | cons c cs ih =>
      rw [continueFrom, List.forall_mem_cons, IsDigit]
      cases hd : digit? 10 c with
      | none => simp
      | some d =>
          rw [List.filterMap_cons, hd]
          by_cases hlt : n * 10 + d < bound
          · simp only [hlt, if_true, ih hlt, Option.isSome_some, true_and, List.foldl_cons]
          · have hle := le_foldl_digits (n * 10 + d) (cs.filterMap (digit? 10))
            simp only [hlt, if_false, reduceCtorEq, List.foldl_cons, false_iff]
            rintro ⟨_, hm, heq⟩
            omega

theorem readWhole_plus (bound : Nat) {cs : List Char} (h : cs ≠ []) :
    readWhole bound ('+' :: cs) = continueFrom bound 0 cs := by
  cases cs with
  | nil => exact absurd rfl h
  | cons c cs => rfl

theorem readWhole_of_ne (bound : Nat) {c : Char} (cs : List Char) (h : c ≠ '+') :
    readWhole bound (c :: cs) = continueFrom bound 0 (c :: cs) := by
  unfold readWhole
  split <;> simp_all

/-- **A text is a decimal numeral below the bound** exactly when it is digits that spell such a
    number, at least one, with a `+` before them or without. -/
theorem readWhole_eq_ok_iff {bound n : Nat} (hbound : 0 < bound) {cs : List Char} :
    readWhole bound cs = .ok n ↔
      ∃ digits, (cs = digits ∨ cs = '+' :: digits) ∧ digits ≠ [] ∧
        (∀ c ∈ digits, IsDigit 10 c) ∧ n < bound ∧
        ofDigits 10 (digits.filterMap (digit? 10)) = n := by
  have hplus : ¬IsDigit 10 '+' := by simp [IsDigit, digit?]
  constructor
  · intro h
    cases cs with
    | nil => injection h
    | cons c cs =>
        by_cases hc : c = '+'
        · subst hc
          have hne : cs ≠ [] := by
            rintro rfl
            injection h
          rw [readWhole_plus bound hne, continueFrom_eq_ok_iff hbound] at h
          exact ⟨cs, Or.inr rfl, hne, h⟩
        · rw [readWhole_of_ne bound cs hc, continueFrom_eq_ok_iff hbound] at h
          exact ⟨c :: cs, Or.inl rfl, List.cons_ne_nil _ _, h⟩
  · rintro ⟨digits, rfl | rfl, hne, hdigits, h⟩
    · cases cs with
      | nil => exact absurd rfl hne
      | cons c cs =>
          have hc : c ≠ '+' := by
            rintro rfl
            exact hplus (hdigits _ List.mem_cons_self)
          rw [readWhole_of_ne bound cs hc, continueFrom_eq_ok_iff hbound]
          exact ⟨hdigits, h⟩
    · rw [readWhole_plus bound hne, continueFrom_eq_ok_iff hbound]
      exact ⟨hdigits, h⟩

/-- A number below the bound is read back from its digits. -/
theorem readWhole_write {bound n : Nat} (h : n < bound) : readWhole bound (write 10 n) = .ok n := by
  have hdigits : ∀ c ∈ write 10 n, IsDigit 10 c :=
    isDigit_of_mem_write (by decide) (by decide) n
  have hvalue : ofDigits 10 (digitsOf 10 n) = n := ofDigits_digitsOf (by decide) (by decide) n
  have hsome : digitsOf 10 n ≠ [] := digitsOf_ne_nil (by decide) (by decide) n
  have hne : write 10 n ≠ [] := by
    intro hnil
    apply hsome
    rw [digitsOf, hnil]
    rfl
  exact (readWhole_eq_ok_iff (Nat.zero_lt_of_lt h)).mpr
    ⟨write 10 n, Or.inl rfl, hne, hdigits, h, hvalue⟩

end Numeral

end NatDiscovery
