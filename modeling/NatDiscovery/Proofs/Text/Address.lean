import NatDiscovery.Ip.Text
import NatDiscovery.Proofs.Text.Numeral

/-!
# `Proofs.Text.Address` — a written address is read back

The text of an IPv4 address is four numerals with points between them. That of an IPv6 address has
three shapes: the IPv4-mapped form, all eight groups, and groups on both sides of `::`, which stands
for the first of the longest runs of zeros. The reader takes as many groups as it finds, so it has
to be shown where it stops (`readGroups_writeGroups`), and that it takes no group for the first
octet of an IPv4 address (`Ipv4.readHead_writeGroups`).

Both dialects read what is written. A text may follow the address as long as none of its characters
could belong to an address (`InAddress`).

## Contents
- `InAddress`: the characters of addresses
- `readOctet_writeOctet`, `Ipv4.readHead_write`: IPv4
- `readGroups_cons`, `readGroups_of_noGroup`, `readGroups_writeGroups`: runs of groups
- `longestZeroRun_split`: the run of zeros that is left out
- `Ipv6.readHead_write`, `IpAddr.ofText?_toText`: addresses
- `inAddress_of_mem_toText`: nothing else occurs in their texts
-/

namespace NatDiscovery

open Numeral

/-- A character that occurs in addresses: a digit of a group, a point or a colon. -/
def InAddress (c : Char) : Prop :=
  IsDigit 16 c ∨ c = '.' ∨ c = ':'

theorem expect_of_ne {x c : Char} {cs : List Char} (h : c ≠ x) : expect x (c :: cs) = none := by
  rw [expect, if_neg h]

theorem not_isDigit_point (base : Nat) : ¬IsDigit base '.' := by
  simp [IsDigit, digit?]

theorem not_isDigit_colon (base : Nat) : ¬IsDigit base ':' := by
  simp [IsDigit, digit?]

/-! ## IPv4 -/

theorem Dialect.holds_octet (dialect : Dialect) (o : UInt8) : dialect.octet.Holds o.toNat where
  one_lt := show 1 < 10 by decide
  base_le := show 10 ≤ 16 by decide
  lt_bound := o.toNat_lt
  fits := by
    intro k hk
    obtain rfl := Option.some.inj hk
    have hthree : 256 ≤ 10 ^ 3 := by decide
    exact ⟨Nat.succ_pos 2, Nat.lt_of_lt_of_le o.toNat_lt hthree⟩

theorem readOctet_writeOctet (dialect : Dialect) (o : UInt8) {rest : List Char}
    (hrest : Stops (IsDigit 10) rest) :
    readOctet dialect (writeOctet o ++ rest) = some (o, rest) := by
  have hread : dialect.octet.read (write 10 o.toNat ++ rest) = some (o.toNat, rest) :=
    Form.read_write (dialect.holds_octet o) hrest
  rw [readOctet, writeOctet, hread]
  show some (UInt8.ofNat o.toNat, rest) = some (o, rest)
  rw [UInt8.ofNat_toNat]

/-- The text behind an IPv4 address may be anything but a digit. -/
theorem Ipv4.readHead_write (dialect : Dialect) (ip : Ipv4) {rest : List Char}
    (hrest : Stops (IsDigit 10) rest) :
    Ipv4.readHead dialect (ip.write ++ rest) = some (ip, rest) := by
  have hpoint (cs : List Char) : Stops (IsDigit 10) ('.' :: cs) :=
    stops_cons.mpr (not_isDigit_point 10)
  simp only [readHead, write, List.append_assoc, List.cons_append,
    readOctet_writeOctet dialect _ (hpoint _), readOctet_writeOctet dialect _ hrest,
    expect_cons_self, Option.bind_eq_bind, Option.bind_some, Option.pure_def]

/-- An octet is followed by a point, so digits that are not make no IPv4 address. -/
theorem Ipv4.readHead_eq_none (dialect : Dialect) {cs : List Char}
    (h : Stops (· = '.') (digitRun 10 cs).2) : Ipv4.readHead dialect cs = none := by
  have hexpect : expect '.' (digitRun 10 cs).2 = none := by
    cases hcs : (digitRun 10 cs).2 with
    | nil => rfl
    | cons c rest =>
        rw [hcs] at h
        exact expect_of_ne (stops_cons (p := (· = '.')) |>.mp h)
  rcases dialect.octet.read_eq_none_or cs with hread | ⟨n, hread⟩
  · simp only [readHead, readOctet, hread, Option.map_none, Option.bind_eq_bind, Option.bind_none]
  · -- An octet takes the digits, and the point is missing behind it.
    have hoctet : readOctet dialect cs = some (UInt8.ofNat n, (digitRun 10 cs).2) := by
      rw [readOctet, hread]
      rfl
    simp only [readHead, hoctet, hexpect, Option.bind_eq_bind, Option.bind_some, Option.bind_none]

/-! ## Groups -/

/-- A character that goes on a group, or makes it the first octet of an IPv4 address. -/
def GoesOn (c : Char) : Prop :=
  IsDigit 16 c ∨ c = '.'

theorem stops_colon (cs : List Char) : Stops GoesOn (':' :: cs) := by
  apply stops_cons.mpr
  rintro (hdigit | hpoint)
  · exact not_isDigit_colon 16 hdigit
  · exact absurd hpoint (by decide)

theorem holds_groupForm (g : UInt16) : groupForm.Holds g.toNat where
  one_lt := by decide
  base_le := by decide
  lt_bound := g.toNat_lt
  fits := by
    intro k hk
    obtain rfl := Option.some.inj hk
    exact ⟨by decide, g.toNat_lt⟩

theorem readGroup_writeGroup (g : UInt16) {rest : List Char} (hrest : Stops GoesOn rest) :
    readGroup (writeGroup g ++ rest) = some (g, rest) := by
  have hread : groupForm.read (write 16 g.toNat ++ rest) = some (g.toNat, rest) :=
    Form.read_write (holds_groupForm g) (hrest.mono fun c hc => Or.inl hc)
  rw [readGroup, writeGroup, hread]
  show some (UInt16.ofNat g.toNat, rest) = some (g, rest)
  rw [UInt16.ofNat_toNat]

/-- Digits of groups are not followed by a point, however many of them are decimal. -/
theorem stops_point_digitRun {ds rest : List Char} (hds : ∀ c ∈ ds, IsDigit 16 c)
    (hrest : Stops GoesOn rest) : Stops (· = '.') (digitRun 10 (ds ++ rest)).2 := by
  induction ds with
  | nil =>
      have hdigits : Stops (IsDigit 10) rest :=
        hrest.mono fun c hc => Or.inl (hc.mono (by decide))
      rw [List.nil_append, digitRun_of_stops hdigits]
      exact hrest.mono fun c hc => Or.inr hc
  | cons c ds ih =>
      have hc := hds c (List.mem_cons_self ..)
      show Stops _ (digitRun 10 (c :: (ds ++ rest))).2
      cases hd : digit? 10 c with
      | none =>
          -- A letter ends the digits, and a letter is no point.
          simp only [digitRun, hd]
          apply stops_cons.mpr
          rintro rfl
          exact not_isDigit_point 16 hc
      | some d =>
          simp only [digitRun, hd]
          exact ih fun c hc => hds c (List.mem_cons_of_mem _ hc)

theorem isDigit_of_mem_writeGroup {g : UInt16} {c : Char} (h : c ∈ writeGroup g) : IsDigit 16 c :=
  isDigit_of_mem_write (by decide) (by decide) g.toNat c h

theorem Ipv4.readHead_writeGroup (dialect : Dialect) (g : UInt16) {rest : List Char}
    (hrest : Stops GoesOn rest) : Ipv4.readHead dialect (writeGroup g ++ rest) = none :=
  readHead_eq_none dialect (stops_point_digitRun (fun _ => isDigit_of_mem_writeGroup) hrest)

theorem Ipv4.readHead_of_stops (dialect : Dialect) {cs : List Char} (h : Stops GoesOn cs) :
    Ipv4.readHead dialect cs = none := by
  have hnil : ∀ c ∈ ([] : List Char), IsDigit 16 c := by simp
  exact readHead_eq_none dialect (stops_point_digitRun hnil h)

/-! ## Runs of groups -/

/-- Groups, each behind a colon. -/
def groupsBehindColons (gs : List UInt16) : List Char :=
  gs.flatMap fun g => ':' :: writeGroup g

theorem writeGroups_cons (g : UInt16) (gs : List UInt16) :
    writeGroups (g :: gs) = writeGroup g ++ groupsBehindColons gs := by
  induction gs generalizing g with
  | nil =>
      show writeGroup g = writeGroup g ++ []
      rw [List.append_nil]
  | cons h gs ih =>
      show writeGroup g ++ ':' :: writeGroups (h :: gs) = _
      rw [ih h]
      rfl

theorem stops_groupsBehindColons (gs : List UInt16) {rest : List Char}
    (hrest : Stops GoesOn rest) : Stops GoesOn (groupsBehindColons gs ++ rest) := by
  cases gs with
  | nil => exact hrest
  | cons g gs => exact stops_colon _

/-- No group begins the text, with the colon that has to stand before it. -/
def NoGroup (colon : Bool) (cs : List Char) : Prop :=
  ∀ body, (if colon then expect ':' cs else some cs) = some body → Stops GoesOn body

section Runs

variable (dialect : Dialect)

/-- A run ends where no group begins. -/
theorem readGroups_of_noGroup {limit : Nat} {colon : Bool} {cs : List Char}
    (h : NoGroup colon cs) : readGroups dialect limit colon cs = ⟨[], false, cs⟩ := by
  cases limit with
  | zero => rfl
  | succ limit =>
      rw [readGroups]
      cases hbody : (if colon then expect ':' cs else some cs) with
      | none => rfl
      | some body =>
          have hstops := h body hbody
          have hgroup : readGroup body = none := by
            have hread : groupForm.read body = none :=
              Form.read_of_stops (hstops.mono fun c hc => Or.inl hc)
            rw [readGroup, hread]
            rfl
          simp only [Ipv4.readHead_of_stops dialect hstops, ite_self, hgroup]

/-- A run goes on behind a group. -/
theorem readGroups_cons {limit : Nat} {colon : Bool} {cs rest : List Char} {g : UInt16}
    (hbody : (if colon then expect ':' cs else some cs) = some (writeGroup g ++ rest))
    (hrest : Stops GoesOn rest) :
    readGroups dialect (limit + 1) colon cs =
      let run := readGroups dialect limit true rest
      ⟨g :: run.groups, run.dotted, run.rest⟩ := by
  rw [readGroups, hbody]
  simp only [Ipv4.readHead_writeGroup dialect g hrest, ite_self, readGroup_writeGroup g hrest]

/-- And so behind any number of them. -/
theorem readGroups_append {limit : Nat} {gs : List UInt16} {rest : List Char}
    (hlimit : gs.length ≤ limit) (hrest : Stops GoesOn rest) :
    readGroups dialect limit true (groupsBehindColons gs ++ rest) =
      let run := readGroups dialect (limit - gs.length) true rest
      ⟨gs ++ run.groups, run.dotted, run.rest⟩ := by
  induction gs generalizing limit with
  | nil => rfl
  | cons g gs ih =>
      cases limit with
      | zero => exact absurd hlimit (Nat.not_succ_le_zero _)
      | succ limit =>
          have hbody : expect ':' (groupsBehindColons (g :: gs) ++ rest) =
              some (writeGroup g ++ (groupsBehindColons gs ++ rest)) := by
            show expect ':' (':' :: (writeGroup g ++ groupsBehindColons gs) ++ rest) = _
            rw [List.cons_append, expect_cons_self, List.append_assoc]
          have hgroups := stops_groupsBehindColons gs hrest
          rw [readGroups_cons dialect ((if_pos rfl).trans hbody) hgroups,
            ih (Nat.le_of_succ_le_succ hlimit), List.length_cons, Nat.add_sub_add_right]
          rfl

/-- Written groups are read back, up to where no group follows. -/
theorem readGroups_writeGroups {limit : Nat} {gs : List UInt16} {rest : List Char}
    (hlimit : gs.length ≤ limit) (hrest : Stops GoesOn rest) (hend : NoGroup true rest) :
    readGroups dialect limit false (writeGroups gs ++ rest) = ⟨gs, false, rest⟩ := by
  cases gs with
  | nil =>
      apply readGroups_of_noGroup dialect
      intro body hbody
      obtain rfl := Option.some.inj hbody
      exact hrest
  | cons g gs =>
      cases limit with
      | zero => exact absurd hlimit (Nat.not_succ_le_zero _)
      | succ limit =>
          rw [writeGroups_cons, List.append_assoc,
            readGroups_cons dialect rfl (stops_groupsBehindColons gs hrest),
            readGroups_append dialect (Nat.le_of_succ_le_succ hlimit) hrest]
          simp only [readGroups_of_noGroup dialect hend, List.append_nil]

theorem Ipv4.readHead_writeGroups (gs : List UInt16) {rest : List Char}
    (hrest : Stops GoesOn rest) : Ipv4.readHead dialect (writeGroups gs ++ rest) = none := by
  cases gs with
  | nil => exact readHead_of_stops dialect hrest
  | cons g gs =>
      rw [writeGroups_cons, List.append_assoc]
      exact readHead_writeGroup dialect g (stops_groupsBehindColons gs hrest)

end Runs

/-! ## The run of zeros that is left out -/

theorem leadingZeroGroups_split (gs : List UInt16) :
    List.replicate (leadingZeroGroups gs) 0 ++ gs.drop (leadingZeroGroups gs) = gs := by
  induction gs with
  | nil => rfl
  | cons g gs ih =>
      by_cases hg : g = 0
      · subst hg
        show 0 :: (List.replicate (leadingZeroGroups gs) 0 ++ gs.drop (leadingZeroGroups gs)) = _
        rw [ih]
      · rw [leadingZeroGroups, if_neg hg]
        rfl

/-- The groups on both sides of the run, with as many zeros between them. -/
theorem longestZeroRun_split (gs : List UInt16) :
    gs.take (longestZeroRun gs).1 ++ List.replicate (longestZeroRun gs).2 0 ++
      gs.drop ((longestZeroRun gs).1 + (longestZeroRun gs).2) = gs := by
  induction gs with
  | nil => rfl
  | cons g gs ih =>
      -- A later run is taken only where it is longer than the one that starts here.
      by_cases hlater : leadingZeroGroups (g :: gs) < (longestZeroRun gs).2
      · have hrun : longestZeroRun (g :: gs) =
            ((longestZeroRun gs).1 + 1, (longestZeroRun gs).2) := by
          rw [longestZeroRun, if_pos hlater]
        rw [hrun, Nat.succ_add]
        exact congrArg (g :: ·) ih
      · have hrun : longestZeroRun (g :: gs) = (0, leadingZeroGroups (g :: gs)) := by
          rw [longestZeroRun, if_neg hlater]
        rw [hrun, Nat.zero_add]
        exact leadingZeroGroups_split (g :: gs)

/-! ## IPv6 -/

section Ipv6

variable {dialect : Dialect} {rest : List Char}

theorem noGroup_colons (cs : List Char) : NoGroup true (':' :: ':' :: cs) := by
  intro body hbody
  rw [if_pos rfl, expect_cons_self] at hbody
  obtain rfl := Option.some.inj hbody
  exact stops_colon cs

/-- Behind an address no group goes on, and none begins. -/
theorem noGroup_of_stops (h : Stops InAddress rest) : NoGroup true rest := by
  intro body hbody
  cases rest with
  | nil => injection hbody
  | cons c rest =>
      have hc : c ≠ ':' := by
        intro hc
        exact stops_cons.mp h (Or.inr (Or.inr hc))
      rw [if_pos rfl, expect_of_ne hc] at hbody
      injection hbody

theorem stops_goesOn (h : Stops InAddress rest) : Stops GoesOn rest :=
  h.mono fun _ hc => hc.imp id Or.inl

/-- All eight groups. -/
theorem Ipv6.readHead_groups (ip : Ipv6) (hrest : Stops InAddress rest) :
    Ipv6.readHead dialect (writeGroups ip.groups ++ rest) = some (ip, rest) := by
  have hhead : readGroups dialect 8 false (writeGroups ip.groups ++ rest) =
      ⟨ip.groups, false, rest⟩ :=
    readGroups_writeGroups dialect (Nat.le_of_eq ip.length_eq) (stops_goesOn hrest)
      (noGroup_of_stops hrest)
  simp only [readHead, hhead, ip.length_eq, dite_true]
  rfl

/-- The tail of an address is read with room for as many groups as `::` stands for at least. -/
theorem Ipv6.readHead_gap {pre tail : List UInt16} {body : List Char} {dotted : Bool}
    {ip : Ipv6} (hpre : pre.length < 8)
    (htail : readGroups dialect (8 - pre.length - dialect.leastGap) false body =
      ⟨tail, dotted, rest⟩)
    (hip : Ipv6.ofHeadTail? pre tail = some ip) :
    Ipv6.readHead dialect (writeGroups pre ++ ':' :: ':' :: body) = some (ip, rest) := by
  have hhead : readGroups dialect 8 false (writeGroups pre ++ ':' :: ':' :: body) =
      ⟨pre, false, ':' :: ':' :: body⟩ :=
    readGroups_writeGroups dialect (Nat.le_of_lt hpre) (stops_colon _) (noGroup_colons body)
  have hne : pre.length ≠ 8 := Nat.ne_of_lt hpre
  simp only [readHead, hhead, hne, dite_false, Bool.false_eq_true, if_false, expect_cons_self,
    Option.bind_eq_bind, Option.bind_some, htail, hip, Option.pure_def]

/-- An IPv4 address behind a colon ends the run. -/
theorem readGroups_dotted {limit : Nat} (ip : Ipv4) (hlimit : 0 < limit)
    (hrest : Stops InAddress rest) :
    readGroups dialect (limit + 1) true (':' :: (ip.write ++ rest)) = ⟨ip.groups, true, rest⟩ := by
  have hdigits : Stops (IsDigit 10) rest := hrest.mono fun _ hc => Or.inl (hc.mono (by decide))
  rw [readGroups, if_pos rfl, expect_cons_self]
  simp only [if_pos hlimit, Ipv4.readHead_write dialect ip hdigits]

/-- The IPv4-mapped form: a group of ones and an IPv4 address behind `::`. -/
theorem Ipv6.readHead_mapped (hgap : dialect.leastGap ≤ 2) (ip : Ipv4)
    (hrest : Stops InAddress rest) :
    Ipv6.readHead dialect ("::ffff:".toList ++ ip.write ++ rest) = some (.ofIpv4 ip, rest) := by
  have htext : "::ffff:".toList ++ ip.write ++ rest =
      writeGroups [] ++ ':' :: ':' :: (writeGroup 0xFFFF ++ ':' :: (ip.write ++ rest)) := by
    have hones : writeGroup 0xFFFF = ['f', 'f', 'f', 'f'] := rfl
    rw [hones, List.append_assoc]
    rfl
  have htail : readGroups dialect (8 - 0 - dialect.leastGap) false
      (writeGroup 0xFFFF ++ ':' :: (ip.write ++ rest)) = ⟨0xFFFF :: ip.groups, true, rest⟩ := by
    -- The ones and the IPv4 address take three groups, and there is room for six.
    obtain ⟨room, hroom⟩ : ∃ room, 8 - 0 - dialect.leastGap = room + 6 :=
      ⟨2 - dialect.leastGap, by omega⟩
    rw [hroom, readGroups_cons dialect rfl (stops_colon _),
      readGroups_dotted ip (Nat.succ_pos _) hrest]
  rw [htext]
  exact readHead_gap (Nat.succ_pos 7) htail rfl

/-- Groups on both sides of `::`. What it leaves out are the zeros of the run. -/
theorem Ipv6.readHead_run (hgap : dialect.leastGap ≤ 2) (ip : Ipv6)
    (hrun : 1 < (longestZeroRun ip.groups).2) (hrest : Stops InAddress rest) :
    let run := longestZeroRun ip.groups
    Ipv6.readHead dialect (writeGroups (ip.groups.take run.1) ++ ':' :: ':' ::
      (writeGroups (ip.groups.drop (run.1 + run.2)) ++ rest)) = some (ip, rest) := by
  intro run
  have hsplit : ip.groups.take run.1 ++ List.replicate run.2 0 ++ ip.groups.drop (run.1 + run.2) =
      ip.groups := longestZeroRun_split ip.groups
  have hlength : (ip.groups.take run.1).length + run.2 + (ip.groups.drop (run.1 + run.2)).length =
      8 := by
    rw [← ip.length_eq, ← congrArg List.length hsplit, List.length_append, List.length_append,
      List.length_replicate]
  have htwo : 1 < run.2 := hrun
  -- What the parts are does not matter any more, only how long they are and what they make.
  generalize ip.groups.take run.1 = pre at hsplit hlength ⊢
  generalize ip.groups.drop (run.1 + run.2) = post at hsplit hlength ⊢
  refine readHead_gap (by omega) (readGroups_writeGroups dialect (by omega) (stops_goesOn hrest)
    (noGroup_of_stops hrest)) ?_
  have hzeros : 8 - pre.length - post.length = run.2 := by omega
  have hgroups : (pre ++ List.replicate run.2 0 ++ post).length = 8 := by
    rw [hsplit, ip.length_eq]
  simp only [ofHeadTail?, hzeros, dif_pos hgroups]
  simp only [hsplit]

/-- **A written IPv6 address is read back**, in every dialect in which two groups of zeros may be
    left out. -/
theorem Ipv6.readHead_write (hgap : dialect.leastGap ≤ 2) (ip : Ipv6)
    (hrest : Stops InAddress rest) : Ipv6.readHead dialect (ip.write ++ rest) = some (ip, rest) := by
  unfold write
  cases hmapped : ip.mapped? with
  | some v4 =>
      obtain rfl := mapped?_eq_some_iff.mp hmapped
      exact readHead_mapped hgap v4 hrest
  | none =>
      by_cases hrun : 1 < (longestZeroRun ip.groups).2
      · simp only [if_pos hrun, List.append_assoc, List.cons_append]
        exact readHead_run hgap ip hrun hrest
      · simp only [if_neg hrun]
        exact readHead_groups ip hrest

/-- It is no IPv4 address, although it may end with one. -/
theorem Ipv4.readHead_ipv6 (ip : Ipv6) (hrest : Stops InAddress rest) :
    Ipv4.readHead dialect (ip.write ++ rest) = none := by
  unfold Ipv6.write
  cases ip.mapped? with
  | some v4 => exact readHead_of_stops dialect (stops_colon _)
  | none =>
      by_cases hrun : 1 < (longestZeroRun ip.groups).2
      · simp only [if_pos hrun, List.append_assoc, List.cons_append]
        exact readHead_writeGroups dialect _ (stops_colon _)
      · simp only [if_neg hrun]
        exact readHead_writeGroups dialect _ (stops_goesOn hrest)

end Ipv6

/-! ## Whole texts -/

/-- **An address is read back from its text.** -/
theorem IpAddr.ofText?_toText (ip : IpAddr) : IpAddr.ofText? ip.toText = some ip := by
  cases ip with
  | v4 ip =>
      have hread : Ipv4.readHead .strict (ip.write ++ []) = some (ip, []) :=
        Ipv4.readHead_write .strict ip (stops_nil _)
      rw [List.append_nil] at hread
      show ((wholly (Ipv4.readHead .strict ip.write)).map IpAddr.v4).or _ = _
      rw [hread]
      rfl
  | v6 ip =>
      have hread : Ipv6.readHead .strict (ip.write ++ []) = some (ip, []) :=
        Ipv6.readHead_write (by decide) ip (stops_nil _)
      have hother : Ipv4.readHead .strict (ip.write ++ []) = none :=
        Ipv4.readHead_ipv6 ip (stops_nil _)
      rw [List.append_nil] at hread hother
      show ((wholly (Ipv4.readHead .strict ip.write)).map IpAddr.v4).or
        ((wholly (Ipv6.readHead .strict ip.write)).map IpAddr.v6) = _
      rw [hread, hother]
      rfl

theorem IpAddr.ofString?_of_written (ip : IpAddr) : IpAddr.ofString? ip.write = some ip := by
  rw [ofString?, write, String.toList_ofList, ofText?_toText]

/-- Different addresses have different texts. -/
theorem IpAddr.toText_inj {a b : IpAddr} : a.toText = b.toText ↔ a = b := by
  constructor
  · intro h
    have hread := congrArg IpAddr.ofText? h
    rw [ofText?_toText, ofText?_toText] at hread
    exact Option.some.inj hread
  · rintro rfl
    rfl

/-! ## The characters of a text -/

theorem Ipv4.inAddress_of_mem_write {ip : Ipv4} {c : Char} (h : c ∈ ip.write) : InAddress c := by
  have hdigit {o : UInt8} (hc : c ∈ writeOctet o) : InAddress c :=
    Or.inl ((isDigit_of_mem_write (by decide) (by decide) o.toNat c hc).mono (by decide))
  have hpoint (hc : c = '.') : InAddress c := Or.inr (Or.inl hc)
  simp only [write, List.mem_append, List.mem_cons] at h
  rcases h with h | h | h | h | h | h | h
  · exact hdigit h
  · exact hpoint h
  · exact hdigit h
  · exact hpoint h
  · exact hdigit h
  · exact hpoint h
  · exact hdigit h

theorem inAddress_of_mem_groupsBehindColons {gs : List UInt16} {c : Char}
    (h : c ∈ groupsBehindColons gs) : InAddress c := by
  obtain ⟨g, -, hc⟩ := List.mem_flatMap.mp h
  rcases List.mem_cons.mp hc with hc | hc
  · exact Or.inr (Or.inr hc)
  · exact Or.inl (isDigit_of_mem_writeGroup hc)

theorem inAddress_of_mem_writeGroups {gs : List UInt16} {c : Char} (h : c ∈ writeGroups gs) :
    InAddress c := by
  cases gs with
  | nil => cases h
  | cons g gs =>
      rw [writeGroups_cons] at h
      rcases List.mem_append.mp h with h | h
      · exact Or.inl (isDigit_of_mem_writeGroup h)
      · exact inAddress_of_mem_groupsBehindColons h

theorem Ipv6.inAddress_of_mem_write {ip : Ipv6} {c : Char} (h : c ∈ ip.write) : InAddress c := by
  have hcolon (hc : c = ':') : InAddress c := Or.inr (Or.inr hc)
  -- The cases are the shapes that are written: mapped, with a run left out, and in full.
  unfold write at h
  cases hmapped : ip.mapped? with
  | some v4 =>
      simp only [hmapped, List.mem_append] at h
      rcases h with h | h
      · have hlead : "::ffff:".toList.all (fun c => c = ':' || c = 'f') = true := by decide
        have hc := List.all_eq_true.mp hlead c h
        rw [Bool.or_eq_true, decide_eq_true_iff, decide_eq_true_iff] at hc
        rcases hc with hc | rfl
        · exact hcolon hc
        · exact Or.inl rfl
      · exact Ipv4.inAddress_of_mem_write h
  | none =>
      simp only [hmapped] at h
      split at h
      · rcases List.mem_append.mp h with h | h
        · exact inAddress_of_mem_writeGroups h
        · rcases List.mem_cons.mp h with h | h
          · exact hcolon h
          · rcases List.mem_cons.mp h with h | h
            · exact hcolon h
            · exact inAddress_of_mem_writeGroups h
      · exact inAddress_of_mem_writeGroups h

/-- The text of an address consists of digits, points and colons. -/
theorem inAddress_of_mem_toText {ip : IpAddr} {c : Char} (h : c ∈ ip.toText) : InAddress c := by
  cases ip with
  | v4 ip => exact Ipv4.inAddress_of_mem_write h
  | v6 ip => exact Ipv6.inAddress_of_mem_write h

end NatDiscovery
