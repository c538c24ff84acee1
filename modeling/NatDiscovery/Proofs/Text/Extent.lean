import NatDiscovery.Proofs.Text.Address

/-!
# `Proofs.Text.Extent` — how much of a text a reader takes

A reader of numerals or addresses finds something at the head of a text and leaves the rest. Here
the text is any text, not a written one. Two things are said of it:

- **the part that is taken decides**: the reader takes the same part, and finds the same, in front
  of any other text that does not go on with a digit (`Form.read_split`, `Ipv4.readHead_split`);
- **an IPv6 address takes two colons at least** (`Ipv6.readHead_colons`), in full because there are
  eight groups, and otherwise in `::`.

So a text with one colon or none holds no IPv6 address, and what stands before its colon is an IPv4
address exactly when it is one by itself.

## Contents
- `expect_eq_some_iff`, `expect_of_notMem`
- `Form.read_split`, `Ipv4.readHead_split`: what is taken
- `readGroups_colons`, `Ipv6.readHead_colons`: colons
- `Ipv6.readHead_of_stops`, `IpAddr.ofText?_of_stops`: texts that begin with a foreign character
- `IpAddr.ofText?_of_few_colons`, `IpAddr.ofText?_of_one_colon`: texts with few colons
-/

namespace NatDiscovery

open Numeral

theorem expect_eq_some_iff {x : Char} {cs rest : List Char} :
    expect x cs = some rest ↔ cs = x :: rest := by
  cases cs with
  | nil => simp [expect]
  | cons c cs => simp [expect]

theorem expect_of_notMem {x : Char} {cs : List Char} (h : x ∉ cs) : expect x cs = none := by
  rw [Option.eq_none_iff_forall_ne_some]
  intro rest hrest
  rw [expect_eq_some_iff] at hrest
  exact h (hrest ▸ List.mem_cons_self)

/-! ## What is taken -/

/-- A run of digits is a part of the text, and the rest goes on with no digit. -/
theorem Numeral.digitRun_split (base : Nat) (cs : List Char) :
    ∃ digits, cs = digits ++ (digitRun base cs).2 ∧ (∀ c ∈ digits, IsDigit base c) ∧
      digits.filterMap (digit? base) = (digitRun base cs).1 := by
  induction cs with
  | nil => exact ⟨[], rfl, by simp, rfl⟩
  | cons c cs ih =>
      cases hd : digit? base c with
      | none => exact ⟨[], by simp [digitRun, hd], by simp, by simp [digitRun, hd]⟩
      | some d =>
          obtain ⟨digits, hcs, hdigits, hvalues⟩ := ih
          refine ⟨c :: digits, ?_, ?_, ?_⟩
          · simp only [digitRun, hd, List.cons_append]
            exact congrArg (c :: ·) hcs
          · intro x hx
            rcases List.mem_cons.mp hx with rfl | hx
            · exact Option.isSome_of_mem hd
            · exact hdigits x hx
          · simp only [digitRun, hd, List.filterMap_cons, hvalues]

/-- A numeral is found again in front of any text that goes on with no digit. -/
theorem Numeral.Form.read_split {f : Form} {n : Nat} {cs rest : List Char}
    (h : f.read cs = some (n, rest)) :
    ∃ digits, cs = digits ++ rest ∧ (∀ c ∈ digits, IsDigit f.base c) ∧
      ∀ other, Stops (IsDigit f.base) other → f.read (digits ++ other) = some (n, other) := by
  obtain ⟨digits, hcs, hdigits, hvalues⟩ := digitRun_split f.base cs
  simp only [read, Option.ite_none_right_eq_some, Option.some.injEq, Prod.mk.injEq] at h
  obtain ⟨haccepts, hn, hrest⟩ := h
  refine ⟨digits, hrest ▸ hcs, hdigits, ?_⟩
  intro other hother
  simp only [read, digitRun_append hdigits hother, hvalues, haccepts, if_true, hn]

section Address

variable {dialect : Dialect} {cs rest : List Char}

theorem readOctet_split {o : UInt8} (h : readOctet dialect cs = some (o, rest)) :
    ∃ digits, cs = digits ++ rest ∧ (∀ c ∈ digits, IsDigit 10 c) ∧
      ∀ other, Stops (IsDigit 10) other →
        readOctet dialect (digits ++ other) = some (o, other) := by
  obtain ⟨⟨n, rest'⟩, hread, hpair⟩ := Option.map_eq_some_iff.mp h
  injection hpair with ho hrest
  subst ho hrest
  obtain ⟨digits, hcs, hdigits, hsame⟩ := Form.read_split hread
  refine ⟨digits, hcs, hdigits, ?_⟩
  intro other hother
  rw [readOctet, hsame other hother]
  rfl

/-- An IPv4 address is found again in front of any text that goes on with no digit. -/
theorem Ipv4.readHead_split {ip : Ipv4} (h : Ipv4.readHead dialect cs = some (ip, rest)) :
    ∃ address, cs = address ++ rest ∧ (∀ c ∈ address, IsDigit 10 c ∨ c = '.') ∧
      ∀ other, Stops (IsDigit 10) other →
        Ipv4.readHead dialect (address ++ other) = some (ip, other) := by
  simp only [readHead, Option.bind_eq_bind, Option.bind_eq_some_iff, expect_eq_some_iff,
    Option.pure_def, Option.some.injEq, Prod.mk.injEq, Prod.exists] at h
  obtain ⟨oa, _, ha, _, rfl, ob, _, hb, _, rfl, oc, _, hc, _, rfl, od, _, hd, rfl, rfl⟩ := h
  obtain ⟨a, rfl, hda, hsa⟩ := readOctet_split ha
  obtain ⟨b, rfl, hdb, hsb⟩ := readOctet_split hb
  obtain ⟨c, rfl, hdc, hsc⟩ := readOctet_split hc
  obtain ⟨d, rfl, hdd, hsd⟩ := readOctet_split hd
  have hpoint (cs : List Char) : Stops (IsDigit 10) ('.' :: cs) :=
    stops_cons.mpr (not_isDigit_point 10)
  refine ⟨a ++ '.' :: (b ++ '.' :: (c ++ '.' :: d)), by simp, ?_, ?_⟩
  · intro x hx
    simp only [List.mem_append, List.mem_cons] at hx
    rcases hx with hx | hx | hx | hx | hx | hx | hx
    · exact Or.inl (hda x hx)
    · exact Or.inr hx
    · exact Or.inl (hdb x hx)
    · exact Or.inr hx
    · exact Or.inl (hdc x hx)
    · exact Or.inr hx
    · exact Or.inl (hdd x hx)
  · intro other hother
    simp only [readHead, List.append_assoc, List.cons_append, hsa _ (hpoint _), hsb _ (hpoint _),
      hsc _ (hpoint _), hsd _ hother, expect_cons_self, Option.bind_eq_bind, Option.bind_some,
      Option.pure_def]

/-! ## Colons -/

theorem Ipv4.count_colon_readHead {ip : Ipv4} (h : Ipv4.readHead dialect cs = some (ip, rest)) :
    rest.count ':' = cs.count ':' := by
  obtain ⟨address, rfl, haddress, -⟩ := readHead_split h
  have hnone : ':' ∉ address := by
    intro hmem
    rcases haddress _ hmem with hdigit | hpoint
    · exact not_isDigit_colon 10 hdigit
    · exact absurd hpoint (by decide)
  rw [List.count_append, List.count_eq_zero_of_not_mem hnone, Nat.zero_add]

theorem count_colon_readGroup {g : UInt16} (h : readGroup cs = some (g, rest)) :
    rest.count ':' = cs.count ':' := by
  obtain ⟨⟨n, rest'⟩, hread, hpair⟩ := Option.map_eq_some_iff.mp h
  injection hpair with _ hrest
  subst hrest
  obtain ⟨digits, rfl, hdigits, -⟩ := Form.read_split hread
  have hnone : ':' ∉ digits := fun hmem => not_isDigit_colon 16 (hdigits _ hmem)
  rw [List.count_append, List.count_eq_zero_of_not_mem hnone, Nat.zero_add]

/-- The colons of a run: one before each group, but for the first one where none has to stand there,
    and for the second of those that an IPv4 address stands for. -/
def GroupRun.colons (colon : Bool) (run : GroupRun) : Nat :=
  run.groups.length - (if colon then 0 else 1) - (if run.dotted then 1 else 0)

/-- A run of groups takes all its colons. -/
theorem readGroups_colons (dialect : Dialect) (limit : Nat) (colon : Bool) (cs : List Char) :
    (readGroups dialect limit colon cs).rest.count ':' +
      (readGroups dialect limit colon cs).colons colon ≤ cs.count ':' := by
  induction limit generalizing colon cs with
  | zero => simp [readGroups, GroupRun.colons]
  | succ limit ih =>
      cases hbody : (if colon then expect ':' cs else some cs) with
      | none => simp [readGroups, hbody, GroupRun.colons]
      | some body =>
          -- The colon before the first group, where one has to stand there.
          have hcolons : cs.count ':' = body.count ':' + if colon then 1 else 0 := by
            cases colon with
            | false =>
                obtain rfl := Option.some.inj hbody
                rfl
            | true =>
                rw [if_pos rfl, expect_eq_some_iff] at hbody
                rw [hbody, List.count_cons_self]
                rfl
          cases hdotted : (if 0 < limit then Ipv4.readHead dialect body else none) with
          | some r =>
              obtain ⟨ip, rest⟩ := r
              have hrest := Ipv4.count_colon_readHead (Option.ite_none_right_eq_some.mp hdotted).2
              have hpair : ip.groups.length = 2 := rfl
              simp only [readGroups, hbody, hdotted, GroupRun.colons, hpair, hrest, hcolons,
                if_true]
              split <;> omega
          | none =>
              cases hgroup : readGroup body with
              | none => simp [readGroups, hbody, hdotted, hgroup, GroupRun.colons]
              | some r =>
                  obtain ⟨g, rest⟩ := r
                  have hrest := count_colon_readGroup hgroup
                  have hrun := ih true rest
                  simp only [readGroups, hbody, hdotted, hgroup, GroupRun.colons, hrest, hcolons,
                    List.length_cons, if_true, Nat.sub_zero] at hrun ⊢
                  split <;> omega

/-- **An IPv6 address takes two colons at least.** -/
theorem Ipv6.readHead_colons {ip : Ipv6} (h : Ipv6.readHead dialect cs = some (ip, rest)) :
    rest.count ':' + 2 ≤ cs.count ':' := by
  have hhead := readGroups_colons dialect 8 false cs
  simp only [readHead] at h
  split at h
  · -- Eight groups.
    rename_i hlength
    obtain rfl : (readGroups dialect 8 false cs).rest = rest :=
      congrArg Prod.snd (Option.some.inj h)
    rw [GroupRun.colons, hlength] at hhead
    have hdotted : (if (readGroups dialect 8 false cs).dotted then 1 else 0) ≤ 1 := by
      split <;> omega
    simp only [Bool.false_eq_true, if_false] at hhead
    omega
  · split at h
    · injection h
    · simp only [Option.bind_eq_bind, Option.bind_eq_some_iff, expect_eq_some_iff,
        Option.pure_def, Option.some.injEq, Prod.mk.injEq] at h
      obtain ⟨_, hfirst, body, rfl, _, -, -, rfl⟩ := h
      have htail := readGroups_colons dialect
        (8 - (readGroups dialect 8 false cs).groups.length - dialect.leastGap) false body
      rw [hfirst, List.count_cons_self, List.count_cons_self] at hhead
      omega

/-! ## Whole texts -/

@[simp] theorem wholly_none {α : Type} : wholly (none : Option (α × List Char)) = none :=
  rfl

theorem wholly_eq_some_iff {α : Type} {found : Option (α × List Char)} {x : α} :
    wholly found = some x ↔ found = some (x, []) := by
  cases found with
  | none => simp [wholly]
  | some r =>
      obtain ⟨y, rest⟩ := r
      cases rest <;> simp [wholly]

/-- A text that begins with no character of an address holds none. -/
theorem Ipv6.readHead_of_stops (h : Stops InAddress cs) : Ipv6.readHead dialect cs = none := by
  have hgroups : NoGroup false cs := by
    intro body hbody
    obtain rfl := Option.some.inj hbody
    exact stops_goesOn h
  have hcolon : expect ':' cs = none := by
    cases cs with
    | nil => rfl
    | cons c cs =>
        apply expect_of_ne
        rintro rfl
        exact stops_cons.mp h (Or.inr (Or.inr rfl))
  simp [readHead, readGroups_of_noGroup dialect hgroups, hcolon]

theorem IpAddr.ofText?_of_stops (h : Stops InAddress cs) : IpAddr.ofText? cs = none := by
  rw [ofText?, Ipv4.readHead_of_stops .strict (stops_goesOn h), Ipv6.readHead_of_stops h]
  rfl

/-- What spells an address of IPv6 has more than one colon, so a text with fewer can only be one of
    IPv4. -/
theorem IpAddr.ofText?_of_few_colons (h : cs.count ':' ≤ 1) :
    IpAddr.ofText? cs = (wholly (Ipv4.readHead .strict cs)).map IpAddr.v4 := by
  have hnone : wholly (Ipv6.readHead .strict cs) = none := by
    rw [Option.eq_none_iff_forall_ne_some]
    intro ip hip
    have hcolons := Ipv6.readHead_colons (wholly_eq_some_iff.mp hip)
    omega
  rw [ofText?, hnone, Option.map_none, Option.or_none]

/-- A text with a single colon is no address. -/
theorem IpAddr.ofText?_of_one_colon (h : cs.count ':' = 1) : IpAddr.ofText? cs = none := by
  rw [ofText?_of_few_colons (Nat.le_of_eq h), Option.map_eq_none_iff,
    Option.eq_none_iff_forall_ne_some]
  intro ip hip
  have hcolons := Ipv4.count_colon_readHead (wholly_eq_some_iff.mp hip)
  rw [h] at hcolons
  injection hcolons

end Address

end NatDiscovery
