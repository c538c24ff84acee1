import NatDiscovery.CommandLine.PortRange
import NatDiscovery.Proofs.Faults
import NatDiscovery.Proofs.Text.Numeral

/-!
# `Proofs.PortRange` — the texts that are port ranges

A port range is spelled by **two decimal numerals with a dash between them**, and blanks around each.
A numeral may have a plus sign in front and any number of zeros behind that, so a range has many
spellings. The grammar (`PortRange.SpelledBy`) speaks of texts and numbers and of no reader, and the
reader takes exactly the texts of the grammar (`PortRange.parse_eq_ok_iff`).

A numeral has no dash, and neither have blanks. So the first dash of a text is where the two parts
meet, and the text says by itself which of them is at fault when it is refused.

## Contents
- `digit?_ten`, `ofDigits_filterMap_digit?`: decimal digits and their value
- `Port.SpelledBy`, `readWhole_eq_ok_iff_spelledBy`: numerals
- `Port.PaddedBy`, `readPortText_eq_ok_iff`: numerals with blanks around
- `PortRange.SpelledBy`, `PortRange.parse_of_spelledBy`: ranges
- `PortRange.Explains`, `PortRange.spelledBy_or_explains`, `PortRange.parse_eq_ok_iff`: other texts
- `PortRange.write`, `PortRange.spelledBy_write`: the usual text
- `PortRange.ports_eq_error_iff`, `PortRange.parse_exact`: what becomes of a range that is read
-/

namespace NatDiscovery

open Numeral

/-! ## Decimal digits -/

namespace Numeral

/-- The digits of base ten are `0` to `9`. -/
theorem digit?_ten (c : Char) :
    digit? 10 c = if c.isDigit then some (c.toNat - '0'.toNat) else none := by
  have hrange : c.isDigit = true ↔ '0' ≤ c ∧ c ≤ '9' := Char.isDigit_iff_toNat
  unfold digit?
  by_cases hdigit : '0' ≤ c ∧ c ≤ '9'
  · have hlt : c.toNat - '0'.toNat < 10 := by
      have hle : c.toNat ≤ '9'.toNat := hdigit.2
      have hnine : '9'.toNat = '0'.toNat + 9 := rfl
      omega
    rw [if_pos (hrange.mpr hdigit)]
    simp only [hdigit, and_self, if_true, Option.filter_some, hlt, decide_true]
  · rw [if_neg fun h => hdigit (hrange.mp h)]
    -- Letters stand for ten and up.
    simp only [hdigit, if_false, Option.filter_eq_none_iff, decide_eq_true_eq]
    intro value hvalue
    split at hvalue
    · obtain rfl := Option.some.inj hvalue
      omega
    · split at hvalue
      · obtain rfl := Option.some.inj hvalue
        omega
      · injection hvalue

theorem isDigit_ten_iff {c : Char} : IsDigit 10 c ↔ c.isDigit = true := by
  rw [IsDigit, digit?_ten]
  split <;> simp_all

/-- What decimal digits spell is their value. -/
theorem ofDigits_filterMap_digit? {digits : List Char} (h : ∀ c ∈ digits, c.isDigit = true) :
    ofDigits 10 (digits.filterMap (digit? 10)) = Nat.ofDigitChars 10 digits 0 := by
  have hfold : ∀ n, (digits.filterMap (digit? 10)).foldl (fun n d => n * 10 + d) n =
      Nat.ofDigitChars 10 digits n := by
    induction digits with
    | nil => exact fun n => rfl
    | cons c digits ih =>
        intro n
        rw [List.forall_mem_cons] at h
        have hc : digit? 10 c = some (c.toNat - '0'.toNat) := by
          rw [digit?_ten, if_pos h.1]
        rw [List.filterMap_cons, hc, List.foldl_cons, Nat.ofDigitChars_cons, Nat.mul_comm]
        exact ih h.2 _
  exact hfold 0

end Numeral

/-! ## Ports -/

/-- The text is a decimal numeral for the port: a plus sign or none, and then digits, at least one and
    with any number of zeros in front. -/
def Port.SpelledBy (p : Port) (numeral : List Char) : Prop :=
  ∃ sign digits : List Char, numeral = sign ++ digits ∧ (sign = [] ∨ sign = ['+']) ∧ digits ≠ [] ∧
    (∀ c ∈ digits, c.isDigit = true) ∧ Nat.ofDigitChars 10 digits 0 = p.toNat

/-- The text is such a numeral with blanks around it. -/
def Port.PaddedBy (p : Port) (part : List Char) : Prop :=
  ∃ front numeral back : List Char, part = front ++ numeral ++ back ∧
    (∀ c ∈ front, isBlank c = true) ∧ (∀ c ∈ back, isBlank c = true) ∧ p.SpelledBy numeral

section Ports

variable {p : Port}

theorem Port.SpelledBy.mem_numeral {numeral : List Char} (h : p.SpelledBy numeral) :
    ∀ c ∈ numeral, c = '+' ∨ c.isDigit = true := by
  obtain ⟨sign, digits, rfl, hsign, -, hdigits, -⟩ := h
  intro c hc
  rcases List.mem_append.mp hc with hc | hc
  · rcases hsign with rfl | rfl
    · exact absurd hc List.not_mem_nil
    · exact Or.inl (List.mem_singleton.mp hc)
  · exact Or.inr (hdigits c hc)

/-- Digits are no blanks. -/
theorem isBlank_of_isDigit {c : Char} (h : c.isDigit = true) : isBlank c = false := by
  have hrange : 0x30 ≤ c.toNat ∧ c.toNat ≤ 0x39 := Char.isDigit_iff_toNat.mp h
  simp only [isBlank, Bool.or_eq_false_iff, Bool.and_eq_false_iff, decide_eq_false_iff_not,
    beq_eq_false_iff_ne, ne_eq]
  omega

theorem Port.SpelledBy.not_blank {numeral : List Char} (h : p.SpelledBy numeral) :
    ∀ c ∈ numeral, isBlank c = false := by
  intro c hc
  rcases h.mem_numeral c hc with rfl | hdigit
  · decide
  · exact isBlank_of_isDigit hdigit

theorem Port.SpelledBy.dash_notMem {numeral : List Char} (h : p.SpelledBy numeral) :
    '-' ∉ numeral := by
  intro hmem
  rcases h.mem_numeral '-' hmem with hplus | hdigit
  · exact absurd hplus (by decide)
  · exact absurd hdigit (by decide)

/-- **A whole text is read as a port** exactly when it is a numeral for it. -/
theorem readWhole_eq_ok_iff_spelledBy {numeral : List Char} :
    readWhole 65536 numeral = .ok p.toNat ↔ p.SpelledBy numeral := by
  rw [readWhole_eq_ok_iff (by decide)]
  constructor
  · rintro ⟨digits, hnumeral, hne, hdigits, -, hvalue⟩
    have hdigits : ∀ c ∈ digits, c.isDigit = true := fun c hc => isDigit_ten_iff.mp (hdigits c hc)
    rw [ofDigits_filterMap_digit? hdigits] at hvalue
    rcases hnumeral with rfl | rfl
    · exact ⟨[], _, rfl, Or.inl rfl, hne, hdigits, hvalue⟩
    · exact ⟨['+'], _, rfl, Or.inr rfl, hne, hdigits, hvalue⟩
  · rintro ⟨sign, digits, rfl, hsign, hne, hdigits, hvalue⟩
    refine ⟨digits, ?_, hne, fun c hc => isDigit_ten_iff.mpr (hdigits c hc), p.toNat_lt, ?_⟩
    · rcases hsign with rfl | rfl
      · exact Or.inl rfl
      · exact Or.inr rfl
    · rw [ofDigits_filterMap_digit? hdigits, hvalue]

/-- Blanks around a numeral are what trimming takes away. -/
theorem Port.paddedBy_iff {part : List Char} : p.PaddedBy part ↔ p.SpelledBy (trim part) := by
  constructor
  · rintro ⟨front, numeral, back, rfl, hfront, hback, hspelled⟩
    rw [trim_append_blank _ hback, trim_blank_append _ hfront, trim_eq_self hspelled.not_blank]
    exact hspelled
  · intro hspelled
    obtain ⟨front, back, hpart, hfront, hback⟩ := exists_blanks_trim part
    exact ⟨front, trim part, back, hpart, hfront, hback, hspelled⟩

theorem Port.PaddedBy.dash_notMem {part : List Char} (h : p.PaddedBy part) : '-' ∉ part := by
  obtain ⟨front, numeral, back, rfl, hfront, hback, hspelled⟩ := h
  have hdash : isBlank '-' = false := by decide
  intro hmem
  rcases List.mem_append.mp hmem with hmem | hmem
  · rcases List.mem_append.mp hmem with hmem | hmem
    · exact absurd (hfront _ hmem) (by rw [hdash]; decide)
    · exact hspelled.dash_notMem hmem
  · exact absurd (hback _ hmem) (by rw [hdash]; decide)

/-- **A part is read as a port** exactly when it is a numeral for it with blanks around. -/
theorem readPortText_eq_ok_iff {part : List Char} : readPortText part = .ok p ↔ p.PaddedBy part := by
  rw [Port.paddedBy_iff, ← readWhole_eq_ok_iff_spelledBy, readPortText]
  cases hread : readWhole 65536 (trim part) with
  | error fault => simp [Except.map]
  | ok n =>
      obtain ⟨-, -, -, -, hlt, -⟩ := (readWhole_eq_ok_iff (by decide)).mp hread
      simp only [Except.map, Except.ok.injEq]
      constructor
      · rintro rfl
        exact (UInt16.toNat_ofNat_of_lt' hlt).symm
      · rintro rfl
        exact UInt16.ofNat_toNat

/-- A part that is not read as a port is no numeral with blanks around. -/
theorem readPortText_eq_error_iff {part : List Char} :
    (∃ fault, readPortText part = .error fault) ↔ ∀ p : Port, ¬p.PaddedBy part := by
  cases hread : readPortText part with
  | error fault =>
      refine iff_of_true ⟨fault, rfl⟩ fun p hpadded => ?_
      rw [readPortText_eq_ok_iff.mpr hpadded] at hread
      injection hread
  | ok p => exact iff_of_false (by simp) fun h => h p (readPortText_eq_ok_iff.mp hread)

end Ports

/-! ## Ranges -/

namespace PortRange

/-- The text is a numeral for each end of the range, with blanks around it, and a dash between the
    two. -/
def SpelledBy (r : PortRange) (text : String) : Prop :=
  ∃ before behind : List Char, text.toList = before ++ '-' :: behind ∧
    r.start.PaddedBy before ∧ r.stop.PaddedBy behind

variable {text : String}

/-- A text without a dash. -/
theorem parse_of_no_dash (h : '-' ∉ text.toList) : parse text = .error (.noDash text) := by
  have hsplit : splitFirst '-' text.toList = none := by
    rw [Option.eq_none_iff_forall_not_mem]
    rintro ⟨before, behind⟩ hsome
    rw [Option.mem_def, splitFirst_eq_some_iff] at hsome
    exact h (hsome.1 ▸ List.mem_append_right _ List.mem_cons_self)
  rw [parse, hsplit]

section Dash

variable {before behind : List Char} {start stop : Port} {fault : Fault}
  (htext : text.toList = before ++ '-' :: behind) (hfirst : '-' ∉ before)

include htext hfirst

/-- The part before the first dash is read first. -/
theorem parse_of_start_error (hstart : readPortText before = .error fault) :
    parse text = .error (.start fault) := by
  simp only [parse, splitFirst_eq_some_iff.mpr ⟨htext, hfirst⟩, hstart]

theorem parse_of_stop_error (hstart : readPortText before = .ok start)
    (hstop : readPortText behind = .error fault) : parse text = .error (.stop fault) := by
  simp only [parse, splitFirst_eq_some_iff.mpr ⟨htext, hfirst⟩, hstart, hstop]

theorem parse_of_ends (hstart : readPortText before = .ok start)
    (hstop : readPortText behind = .ok stop) : parse text = .ok ⟨start, stop⟩ := by
  simp only [parse, splitFirst_eq_some_iff.mpr ⟨htext, hfirst⟩, hstart, hstop]

end Dash

theorem parse_of_spelledBy {r : PortRange} (h : r.SpelledBy text) : parse text = .ok r := by
  obtain ⟨before, behind, htext, hstart, hstop⟩ := h
  exact parse_of_ends htext hstart.dash_notMem (readPortText_eq_ok_iff.mpr hstart)
    (readPortText_eq_ok_iff.mpr hstop)

/-! ## Other texts -/

/-- The error tells what is wrong with the text: there is no dash, or what stands before the first one
    is no port, or what stands behind it. -/
inductive Explains (text : String) : PortRangeError → Prop where
  | noDash (undivided : '-' ∉ text.toList) : Explains text (.noDash text)
  | start {before behind : List Char} {fault : Fault}
      (split : text.toList = before ++ '-' :: behind) (first : '-' ∉ before)
      (misspelt : ∀ p : Port, ¬p.PaddedBy before) : Explains text (.start fault)
  | stop {before behind : List Char} {start : Port} {fault : Fault}
      (split : text.toList = before ++ '-' :: behind) (spelt : start.PaddedBy before)
      (misspelt : ∀ p : Port, ¬p.PaddedBy behind) : Explains text (.stop fault)

/-- **A text spells a range or has a fault**, and it is read or refused accordingly. -/
theorem spelledBy_or_explains (text : String) :
    (∃ r : PortRange, r.SpelledBy text ∧ parse text = .ok r) ∨
      ∃ e, Explains text e ∧ parse text = .error e := by
  by_cases hdash : '-' ∈ text.toList
  · obtain ⟨before, behind, htext, hfirst⟩ := List.eq_append_cons_of_mem hdash
    cases hstart : readPortText before with
    | error fault =>
        exact Or.inr ⟨_, .start htext hfirst (readPortText_eq_error_iff.mp ⟨fault, hstart⟩),
          parse_of_start_error htext hfirst hstart⟩
    | ok start =>
        have hspelt := readPortText_eq_ok_iff.mp hstart
        cases hstop : readPortText behind with
        | error fault =>
            exact Or.inr ⟨_, .stop htext hspelt (readPortText_eq_error_iff.mp ⟨fault, hstop⟩),
              parse_of_stop_error htext hfirst hstart hstop⟩
        | ok stop =>
            exact Or.inl ⟨⟨start, stop⟩,
              ⟨before, behind, htext, hspelt, readPortText_eq_ok_iff.mp hstop⟩,
              parse_of_ends htext hfirst hstart hstop⟩
  · exact Or.inr ⟨_, .noDash hdash, parse_of_no_dash hdash⟩

/-- **A text is read as a range** exactly when it spells the range. -/
theorem parse_eq_ok_iff {r : PortRange} : parse text = .ok r ↔ r.SpelledBy text := by
  refine ⟨?_, parse_of_spelledBy⟩
  intro h
  rcases spelledBy_or_explains text with ⟨r', hspelled, hparse⟩ | ⟨e, -, hparse⟩
  · rw [h] at hparse
    obtain rfl := Except.ok.inj hparse
    exact hspelled
  · rw [h] at hparse
    injection hparse

/-! ## The usual text -/

/-- The two ends in decimal with a dash between them. -/
def write (r : PortRange) : String :=
  String.ofList (Endpoint.writePort r.start) ++ "-" ++ String.ofList (Endpoint.writePort r.stop)

theorem paddedBy_writePort (p : Port) : p.PaddedBy (Endpoint.writePort p) := by
  have hnumeral : p.SpelledBy (Endpoint.writePort p) :=
    ⟨[], Nat.toDigits 10 p.toNat, rfl, Or.inl rfl, Nat.toDigits_ne_nil,
      fun _ hc => Nat.isDigit_of_mem_toDigits (by decide) (by decide) hc,
      Nat.ofDigitChars_ten_toDigits⟩
  exact ⟨[], _, [], (List.append_nil _).symm, by simp, by simp, hnumeral⟩

theorem spelledBy_write (r : PortRange) : r.SpelledBy r.write :=
  ⟨Endpoint.writePort r.start, Endpoint.writePort r.stop, by simp [write],
    paddedBy_writePort r.start, paddedBy_writePort r.stop⟩

/-! ## What becomes of a range -/

/-- A configured range is rejected exactly when it is empty. -/
theorem ports_eq_error_iff {r : PortRange} {config : Config} (h : config.portRange = some r)
    (draws : Draws) :
    config.ports draws = .error (.invalidPortRange r.start r.stop) ↔ r.stop ≤ r.start := by
  constructor
  · intro hrejected
    by_contra hsome
    rw [Config.ports, h, candidatePorts, if_pos (UInt16.not_le.mp hsome)] at hrejected
    injection hrejected
  · exact ports_of_empty h

/-- **The texts of port ranges.** A text is read as a range exactly when it spells it, and a text that
    spells none is refused for the fault it has. The usual text of a range is read back, whichever its
    ends. A range that is read may be empty or turned around; it is when the candidate ports are
    determined that such a range, and no other, is rejected. -/
theorem parse_exact (text : String) :
    (∀ r, parse text = .ok r ↔ r.SpelledBy text) ∧
    ((∀ r : PortRange, ¬r.SpelledBy text) → ∃ e, parse text = .error e ∧ Explains text e) ∧
    (∀ r : PortRange, parse r.write = .ok r) ∧
    ∀ r : PortRange, r.SpelledBy text → parse text = .ok r ∧
      ∀ (config : Config) (draws : Draws), config.portRange = some r →
        (config.ports draws = .error (.invalidPortRange r.start r.stop) ↔ r.stop ≤ r.start) := by
  refine ⟨fun _ => parse_eq_ok_iff, ?_, fun r => parse_eq_ok_iff.mpr r.spelledBy_write, ?_⟩
  · intro hnone
    rcases spelledBy_or_explains text with ⟨r, hspelled, -⟩ | ⟨e, hexplains, hparse⟩
    · exact absurd hspelled (hnone r)
    · exact ⟨e, hparse, hexplains⟩
  · intro r hspelled
    exact ⟨parse_eq_ok_iff.mpr hspelled, fun config draws h => ports_eq_error_iff h draws⟩

/-- A range that is turned around, with a plus sign, zeros in front and blanks of several kinds. -/
def turnedText : String :=
  "\t+00050000 -\u00a040000\n"

/-- It is read, and rejected when the ports are determined; a text with a second dash is not read. -/
theorem parse_exact_turned :
    (⟨50000, 40000⟩ : PortRange).SpelledBy turnedText ∧
      parse turnedText = .ok ⟨50000, 40000⟩ ∧
      ({ portRange := some ⟨50000, 40000⟩ } : Config).ports id =
        .error (.invalidPortRange 50000 40000) ∧
      (∀ r : PortRange, ¬r.SpelledBy "1-2-3") ∧
      ∃ e, parse "1-2-3" = .error e ∧ Explains "1-2-3" e := by
  obtain ⟨-, -, -, hread⟩ := parse_exact turnedText
  obtain ⟨hiff, hrefused, -, -⟩ := parse_exact "1-2-3"
  have hstart : Port.PaddedBy 50000 "\t+00050000 ".toList :=
    ⟨['\t'], "+00050000".toList, [' '], by decide +kernel, List.forall_mem_singleton.mpr rfl,
      List.forall_mem_singleton.mpr rfl, ['+'], "00050000".toList, by decide +kernel, Or.inr rfl,
      by decide +kernel, List.all_eq_true.mp (by decide +kernel), by decide +kernel⟩
  have hstop : Port.PaddedBy 40000 "\u00a040000\n".toList :=
    ⟨['\u00a0'], "40000".toList, ['\n'], by decide +kernel, List.forall_mem_singleton.mpr rfl,
      List.forall_mem_singleton.mpr rfl, [], "40000".toList, rfl, Or.inl rfl, by decide +kernel,
      List.all_eq_true.mp (by decide +kernel), by decide +kernel⟩
  have hspelled : (⟨50000, 40000⟩ : PortRange).SpelledBy turnedText :=
    ⟨_, _, by decide +kernel, hstart, hstop⟩
  have hnone : ∀ r : PortRange, ¬r.SpelledBy "1-2-3" := by
    intro r hr
    have hok := (hiff r).mpr hr
    have herror : parse "1-2-3" = .error (.stop .invalidDigit) := by decide +kernel
    rw [herror] at hok
    injection hok
  obtain ⟨hparse, hports⟩ := hread _ hspelled
  exact ⟨hspelled, hparse, (hports _ id rfl).mpr (by decide), hnone, hrefused hnone⟩

end PortRange

end NatDiscovery
