import NatDiscovery.Cidr
import NatDiscovery.Proofs.Text.Address

/-!
# `Proofs.Cidr.Spelling` — every spelling of a block is read

A block can be spelled in many ways: octets and groups with zeros in front, groups in upper or lower
case, the zeros of an IPv6 address written out or left out at any place, its end as an IPv4 address,
blanks around the whole. Here the spellings are **a grammar** that says nothing about a reader
(`Cidr.SpelledBy`), and the reader finds the block in each of them (`Cidr.parse_of_spelled`).

The grammar is followed from its leaves: a numeral is read up to where the text behind it stops, a
group is no first octet of an IPv4 address as long as no point follows, and a run of groups takes
them all as long as the limit leaves room.

## Contents
- `Form.Spells`, `Form.read_of_spells`: numerals
- `Ipv4.SpelledBy`, `GroupsSpelledBy`, `Ipv6.SpelledBy`: addresses, as they stand in blocks
- `readGroups_of_spelled`, `Ipv6.readHead_of_spelled`: what is read of them
- `Cidr.SpelledBy`, `Cidr.parse_of_spelled`: blocks
- `IpAddr.spelledBy_toText`, `Cidr.spelledBy_written`: the usual text is one of the spellings
-/

namespace NatDiscovery

open Numeral

/-! ## Numerals -/

/-- The text is a numeral for the number, with as many zeros in front as there is room for. -/
structure Numeral.Form.Spells (f : Form) (n : Nat) (cs : List Char) : Prop where
  digits : ∀ c ∈ cs, IsDigit f.base c
  ne_nil : cs ≠ []
  short : ∀ k ∈ f.maxDigits, cs.length ≤ k
  value : ofDigits f.base (cs.filterMap (digit? f.base)) = n
  lt_bound : n < f.bound

/-- Whether a text is a numeral for a number can be computed. -/
instance (f : Form) (n : Nat) (cs : List Char) : Decidable (f.Spells n cs) :=
  decidable_of_iff
    ((cs.all fun c => (digit? f.base c).isSome) = true ∧ cs ≠ [] ∧
      (f.maxDigits.all fun k => cs.length ≤ k) = true ∧
      ofDigits f.base (cs.filterMap (digit? f.base)) = n ∧ n < f.bound) <| by
    simp only [List.all_eq_true, Option.all_eq_true, decide_eq_true_eq]
    constructor
    · rintro ⟨digits, ne_nil, short, value, lt_bound⟩
      exact ⟨digits, ne_nil, short, value, lt_bound⟩
    · intro h
      exact ⟨h.digits, h.ne_nil, h.short, h.value, h.lt_bound⟩

theorem Numeral.Form.read_of_spells {f : Form} (hzeros : f.leadingZeros = true) {n : Nat}
    {cs rest : List Char} (h : f.Spells n cs) (hrest : Stops (IsDigit f.base) rest) :
    f.read (cs ++ rest) = some (n, rest) := by
  have hlength := length_filterMap_digit? h.digits
  have haccepts : f.accepts (cs.filterMap (digit? f.base)) = true := by
    have hempty : (cs.filterMap (digit? f.base)).isEmpty = false := by
      rw [List.isEmpty_eq_false_iff, ← List.length_pos_iff, hlength, List.length_pos_iff]
      exact h.ne_nil
    have hshort : f.maxDigits.all ((cs.filterMap (digit? f.base)).length ≤ ·) = true := by
      rw [Option.all_eq_true, hlength]
      intro k hk
      exact decide_eq_true (h.short k hk)
    simp only [accepts, hempty, hshort, h.value, h.lt_bound, hzeros, decide_true, Bool.not_false,
      Bool.true_or, Bool.and_self]
  simp only [read, digitRun_append h.digits hrest, haccepts, if_true, h.value]

/-- A number is spelled by its digits. -/
theorem Numeral.Form.spells_write {f : Form} {n : Nat} (h : f.Holds n) :
    f.Spells n (write f.base n) where
  digits := isDigit_of_mem_write h.one_lt h.base_le n
  ne_nil := by
    intro hnil
    apply digitsOf_ne_nil h.one_lt h.base_le n
    rw [digitsOf, hnil]
    rfl
  short := by
    intro k hk
    obtain ⟨hpos, hlt⟩ := h.fits k hk
    rw [← length_filterMap_digit? (isDigit_of_mem_write h.one_lt h.base_le n)]
    exact length_digitsOf_le h.one_lt h.base_le hpos hlt
  value := ofDigits_digitsOf h.one_lt h.base_le n
  lt_bound := h.lt_bound

/-! ## Addresses -/

/-- The text is four octets with points between them. -/
def Ipv4.SpelledBy (ip : Ipv4) (cs : List Char) : Prop :=
  ∃ a b c d : List Char, cs = a ++ '.' :: (b ++ '.' :: (c ++ '.' :: d)) ∧
    Dialect.lenient.octet.Spells ip.a.toNat a ∧ Dialect.lenient.octet.Spells ip.b.toNat b ∧
    Dialect.lenient.octet.Spells ip.c.toNat c ∧ Dialect.lenient.octet.Spells ip.d.toNat d

/-- The text is groups with colons between them. The last two may be spelled as an IPv4 address,
    which `dotted` tells. -/
inductive GroupsSpelledBy : (dotted : Bool) → List UInt16 → List Char → Prop where
  | single {g : UInt16} {cs : List Char} (group : groupForm.Spells g.toNat cs) :
      GroupsSpelledBy false [g] cs
  | dotted {ip : Ipv4} {cs : List Char} (pair : ip.SpelledBy cs) :
      GroupsSpelledBy true ip.groups cs
  | cons {g : UInt16} {cs : List Char} {dotted : Bool} {gs : List UInt16} {ds : List Char}
      (group : groupForm.Spells g.toNat cs) (others : GroupsSpelledBy dotted gs ds) :
      GroupsSpelledBy dotted (g :: gs) (cs ++ ':' :: ds)

/-- The text on one side of a gap, where there may be no group at all. -/
inductive SideSpelledBy : (dotted : Bool) → List UInt16 → List Char → Prop where
  | none : SideSpelledBy false [] []
  | some {dotted : Bool} {gs : List UInt16} {cs : List Char} (groups : GroupsSpelledBy dotted gs cs) :
      SideSpelledBy dotted gs cs

/-- The text is all eight groups, or those on both sides of a `::` that stands for zeros, be it none.
    The IPv4 address can only come last. -/
inductive Ipv6.SpelledBy (ip : Ipv6) : List Char → Prop where
  | full {dotted : Bool} {cs : List Char} (groups : GroupsSpelledBy dotted ip.groups cs) :
      SpelledBy ip cs
  | gap {pre post : List UInt16} {zeros : Nat} {dotted : Bool} {cs ds : List Char}
      (groups_eq : ip.groups = pre ++ List.replicate zeros 0 ++ post) (lt : pre.length < 8)
      (before : SideSpelledBy false pre cs) (behind : SideSpelledBy dotted post ds) :
      SpelledBy ip (cs ++ ':' :: ':' :: ds)

/-- The text spells the address as it may stand in a block. -/
def IpAddr.SpelledBy : IpAddr → List Char → Prop
  | .v4 ip, cs => ip.SpelledBy cs
  | .v6 ip, cs => ip.SpelledBy cs

section Read

variable {rest : List Char}

theorem readOctet_of_spelled {o : UInt8} {cs : List Char}
    (h : Dialect.lenient.octet.Spells o.toNat cs) (hrest : Stops (IsDigit 10) rest) :
    readOctet .lenient (cs ++ rest) = some (o, rest) := by
  rw [readOctet, Form.read_of_spells rfl h hrest]
  show some (UInt8.ofNat o.toNat, rest) = some (o, rest)
  rw [UInt8.ofNat_toNat]

theorem Ipv4.readHead_of_spelled {ip : Ipv4} {cs : List Char} (h : ip.SpelledBy cs)
    (hrest : Stops (IsDigit 10) rest) :
    Ipv4.readHead .lenient (cs ++ rest) = some (ip, rest) := by
  obtain ⟨a, b, c, d, rfl, ha, hb, hc, hd⟩ := h
  have hpoint (cs : List Char) : Stops (IsDigit 10) ('.' :: cs) :=
    stops_cons.mpr (not_isDigit_point 10)
  simp only [readHead, List.append_assoc, List.cons_append, readOctet_of_spelled ha (hpoint _),
    readOctet_of_spelled hb (hpoint _), readOctet_of_spelled hc (hpoint _),
    readOctet_of_spelled hd hrest, expect_cons_self, Option.bind_eq_bind, Option.bind_some,
    Option.pure_def]

/-- A run goes on behind a group, which is no octet. -/
theorem readGroups_of_group {limit : Nat} {colon : Bool} {text cs : List Char} {g : UInt16}
    (h : groupForm.Spells g.toNat cs)
    (hbody : (if colon then expect ':' text else some text) = some (cs ++ rest))
    (hrest : Stops GoesOn rest) :
    readGroups .lenient (limit + 1) colon text =
      let run := readGroups .lenient limit true rest
      ⟨g :: run.groups, run.dotted, run.rest⟩ := by
  have hoctet : Ipv4.readHead .lenient (cs ++ rest) = none :=
    Ipv4.readHead_eq_none .lenient (stops_point_digitRun h.digits hrest)
  have hgroup : readGroup (cs ++ rest) = some (g, rest) := by
    rw [readGroup, Form.read_of_spells rfl h (hrest.mono fun c hc => Or.inl hc)]
    show some (UInt16.ofNat g.toNat, rest) = some (g, rest)
    rw [UInt16.ofNat_toNat]
  rw [readGroups, hbody]
  simp only [hoctet, ite_self, hgroup]

/-- **A run of groups is read to its end**, if there is room for them. -/
theorem readGroups_of_spelled {dotted : Bool} {gs : List UInt16} {cs : List Char}
    (h : GroupsSpelledBy dotted gs cs) {limit : Nat} {colon : Bool} {text : List Char}
    (hlimit : gs.length ≤ limit)
    (hbody : (if colon then expect ':' text else some text) = some (cs ++ rest))
    (hrest : Stops GoesOn rest) (hend : NoGroup true rest) :
    readGroups .lenient limit colon text = ⟨gs, dotted, rest⟩ := by
  -- Behind the first group there is a colon, less room and a shorter text.
  induction h generalizing limit colon text with
  | single group =>
      obtain ⟨limit, rfl⟩ := Nat.exists_eq_add_one_of_ne_zero (Nat.ne_of_gt hlimit)
      rw [readGroups_of_group group hbody hrest, readGroups_of_noGroup .lenient hend]
  | @dotted ip cs pair =>
      obtain ⟨limit, rfl⟩ : ∃ l, limit = l + 2 := Nat.exists_eq_add_of_le' hlimit
      have hdigits : Stops (IsDigit 10) rest :=
        hrest.mono fun c hc => Or.inl (hc.mono (by decide))
      rw [readGroups, hbody]
      simp only [Nat.succ_pos, if_true, Ipv4.readHead_of_spelled pair hdigits]
  | @cons g cs dotted gs ds group others ih =>
      obtain ⟨limit, rfl⟩ := Nat.exists_eq_add_one_of_ne_zero (Nat.ne_of_gt (Nat.lt_of_lt_of_le
        (Nat.succ_pos gs.length) hlimit))
      rw [List.append_assoc, List.cons_append] at hbody
      rw [readGroups_of_group group hbody (stops_colon _),
        ih (Nat.le_of_succ_le_succ hlimit) ((if_pos rfl).trans (expect_cons_self ':' _))]

theorem readGroups_of_side {dotted : Bool} {gs : List UInt16} {cs : List Char}
    (h : SideSpelledBy dotted gs cs) {limit : Nat} (hlimit : gs.length ≤ limit)
    (hrest : Stops GoesOn rest) (hend : NoGroup true rest) :
    readGroups .lenient limit false (cs ++ rest) = ⟨gs, dotted, rest⟩ := by
  cases h with
  | none =>
      apply readGroups_of_noGroup
      intro body hbody
      obtain rfl := Option.some.inj hbody
      exact hrest
  | some groups => exact readGroups_of_spelled groups hlimit rfl hrest hend

/-- **An IPv6 address is read in all its spellings.** -/
theorem Ipv6.readHead_of_spelled {ip : Ipv6} {cs : List Char} (h : ip.SpelledBy cs)
    (hrest : Stops InAddress rest) :
    Ipv6.readHead .lenient (cs ++ rest) = some (ip, rest) := by
  have hgoes := stops_goesOn hrest
  have hend := noGroup_of_stops hrest
  cases h with
  | full groups =>
      have hhead : readGroups .lenient 8 false (cs ++ rest) = ⟨ip.groups, _, rest⟩ :=
        readGroups_of_spelled groups (Nat.le_of_eq ip.length_eq) rfl hgoes hend
      simp only [readHead, hhead, ip.length_eq, dite_true]
      rfl
  | @gap pre post zeros dotted cs ds groups_eq lt before behind =>
      have hlength : pre.length + zeros + post.length = 8 := by
        rw [← ip.length_eq, groups_eq, List.length_append, List.length_append,
          List.length_replicate]
      have hhead : readGroups .lenient 8 false (cs ++ ':' :: ':' :: (ds ++ rest)) =
          ⟨pre, false, ':' :: ':' :: (ds ++ rest)⟩ :=
        readGroups_of_side before (Nat.le_of_lt lt) (stops_colon _) (noGroup_colons _)
      have htail : readGroups .lenient (8 - pre.length - Dialect.lenient.leastGap) false
          (ds ++ rest) = ⟨post, dotted, rest⟩ :=
        readGroups_of_side behind (by show _ ≤ 8 - pre.length - 0; omega) hgoes hend
      have hip : ofHeadTail? pre post = some ip := by
        have hzeros : 8 - pre.length - post.length = zeros := by omega
        have hgroups : (pre ++ List.replicate zeros 0 ++ post).length = 8 := by
          rw [← groups_eq, ip.length_eq]
        simp only [ofHeadTail?, hzeros, dif_pos hgroups]
        simp only [← groups_eq]
      have hne : pre.length ≠ 8 := Nat.ne_of_lt lt
      rw [List.append_assoc, List.cons_append, List.cons_append]
      simp only [readHead, hhead, hne, dite_false, Bool.false_eq_true, if_false, expect_cons_self,
        Option.bind_eq_bind, Option.bind_some, htail, hip, Option.pure_def]

/-- No text begins with addresses of both families: the reader of IPv6 addresses comes upon the IPv4
    address first, and takes it for the end of a run. -/
theorem Ipv4.readHead_of_readHead_ipv6 {dialect : Dialect} {cs : List Char} {r : Ipv6 × List Char}
    (h : Ipv6.readHead dialect cs = some r) : Ipv4.readHead dialect cs = none := by
  cases hread : Ipv4.readHead dialect cs with
  | none => rfl
  | some s =>
      have hhead : readGroups dialect 8 false cs = ⟨s.1.groups, true, s.2⟩ := by
        simp [readGroups, hread]
      have hlength : s.1.groups.length ≠ 8 := by
        show 2 ≠ 8
        decide
      simp [Ipv6.readHead, hhead, hlength] at h

end Read

/-! ## The characters of a spelling -/

theorem Ipv4.SpelledBy.inAddress {ip : Ipv4} {cs : List Char} (h : ip.SpelledBy cs) :
    ∀ x ∈ cs, InAddress x := by
  obtain ⟨a, b, c, d, rfl, ha, hb, hc, hd⟩ := h
  have hdigit {o : UInt8} {cs : List Char} (ho : Dialect.lenient.octet.Spells o.toNat cs)
      {x : Char} (hx : x ∈ cs) : InAddress x :=
    Or.inl ((ho.digits x hx).mono (by decide))
  intro x hx
  simp only [List.mem_append, List.mem_cons] at hx
  rcases hx with hx | rfl | hx | rfl | hx | rfl | hx
  · exact hdigit ha hx
  · exact Or.inr (Or.inl rfl)
  · exact hdigit hb hx
  · exact Or.inr (Or.inl rfl)
  · exact hdigit hc hx
  · exact Or.inr (Or.inl rfl)
  · exact hdigit hd hx

theorem GroupsSpelledBy.inAddress {dotted : Bool} {gs : List UInt16} {cs : List Char}
    (h : GroupsSpelledBy dotted gs cs) : ∀ x ∈ cs, InAddress x := by
  induction h with
  | single group => exact fun x hx => Or.inl (group.digits x hx)
  | dotted pair => exact pair.inAddress
  | cons group others ih =>
      intro x hx
      rcases List.mem_append.mp hx with hx | hx
      · exact Or.inl (group.digits x hx)
      · rcases List.mem_cons.mp hx with rfl | hx
        · exact Or.inr (Or.inr rfl)
        · exact ih x hx

theorem SideSpelledBy.inAddress {dotted : Bool} {gs : List UInt16} {cs : List Char}
    (h : SideSpelledBy dotted gs cs) : ∀ x ∈ cs, InAddress x := by
  cases h with
  | none => exact fun x hx => absurd hx List.not_mem_nil
  | some groups => exact groups.inAddress

theorem Ipv6.SpelledBy.inAddress {ip : Ipv6} {cs : List Char} (h : ip.SpelledBy cs) :
    ∀ x ∈ cs, InAddress x := by
  cases h with
  | full groups => exact groups.inAddress
  | gap _ _ before behind =>
      intro x hx
      simp only [List.mem_append, List.mem_cons] at hx
      rcases hx with hx | rfl | rfl | hx
      · exact before.inAddress x hx
      · exact Or.inr (Or.inr rfl)
      · exact Or.inr (Or.inr rfl)
      · exact behind.inAddress x hx

theorem IpAddr.SpelledBy.inAddress {ip : IpAddr} {cs : List Char} (h : ip.SpelledBy cs) :
    ∀ x ∈ cs, InAddress x := by
  cases ip with
  | v4 ip => exact Ipv4.SpelledBy.inAddress h
  | v6 ip => exact Ipv6.SpelledBy.inAddress h

/-- Digits are characters of three ranges. -/
theorem Numeral.IsDigit.bounds {base : Nat} {c : Char} (h : IsDigit base c) :
    (0x30 ≤ c.toNat ∧ c.toNat ≤ 0x39) ∨ (0x61 ≤ c.toNat ∧ c.toNat ≤ 0x7A) ∨
      (0x41 ≤ c.toNat ∧ c.toNat ≤ 0x5A) := by
  obtain ⟨d, hd⟩ := Option.isSome_iff_exists.mp h
  simp only [digit?, Option.filter_eq_some_iff] at hd
  obtain ⟨hd, -⟩ := hd
  split at hd
  · rename_i hrange
    exact Or.inl hrange
  · split at hd
    · rename_i hrange
      exact Or.inr (Or.inl hrange)
    · split at hd
      · rename_i hrange
        exact Or.inr (Or.inr hrange)
      · injection hd

/-- Blanks are neither digits nor what stands between them. -/
theorem isBlank_of_inAddress {c : Char} (h : InAddress c) : isBlank c = false := by
  rcases h with hdigit | rfl | rfl
  · have hbounds := hdigit.bounds
    simp only [isBlank, Bool.or_eq_false_iff, Bool.and_eq_false_iff, decide_eq_false_iff_not,
      beq_eq_false_iff_ne, ne_eq]
    omega
  · decide
  · decide

/-! ## Blocks -/

/-- The text spells the block: the address, a slash and the length in decimal, with blanks around
    them. Bits of the address beyond the length may be set. -/
def Cidr.SpelledBy (c : Cidr) (text : String) : Prop :=
  ∃ front address length back : List Char,
    text.toList = front ++ (address ++ '/' :: length) ++ back ∧
      (∀ x ∈ front, isBlank x = true) ∧ (∀ x ∈ back, isBlank x = true) ∧
      c.address.SpelledBy address ∧ (Cidr.lengthForm c.address.family).Spells c.length length

namespace Cidr

theorem isDigit_lengthForm {family : Family} {c : Char} (h : IsDigit (lengthForm family).base c) :
    InAddress c := by
  cases family with
  | v4 => exact Or.inl (h.mono (show 10 ≤ 16 by decide))
  | v6 => exact Or.inl (h.mono (show 10 ≤ 16 by decide))

theorem readLength_of_spelled (c : Cidr) {length : List Char}
    (h : (lengthForm c.address.family).Spells c.length length) :
    readLength c.address ('/' :: length) = some (c, []) := by
  have hzeros : (lengthForm c.address.family).leadingZeros = true := by
    cases c.address.family <;> rfl
  have hread : (lengthForm c.address.family).read length = some (c.length, []) := by
    have hread := Form.read_of_spells hzeros h (stops_nil _)
    rwa [List.append_nil] at hread
  unfold readLength
  rw [expect_cons_self, Option.bind_eq_bind, Option.bind_some]
  split
  · rename_i hnone
    rw [hread] at hnone
    injection hnone
  · rename_i n rest hsome
    rw [hread] at hsome
    injection hsome with hsome
    injection hsome with hlength hrest
    subst hlength hrest
    rfl

/-- An address, a slash and a length are read as the block, whichever family comes first. -/
theorem ofText?_of_spelled (c : Cidr) {address length : List Char}
    (haddress : c.address.SpelledBy address)
    (hlength : (lengthForm c.address.family).Spells c.length length) :
    ofText? (address ++ '/' :: length) = some c := by
  have hslash : Stops InAddress ('/' :: length) := by
    apply stops_cons.mpr
    simp [InAddress, IsDigit, digit?]
  have hread := readLength_of_spelled c hlength
  obtain ⟨ip, n, hn⟩ := c
  cases ip with
  | v4 ip =>
      have hhead := Ipv4.readHead_of_spelled haddress
        (hslash.mono fun _ hc => Or.inl (hc.mono (by decide)))
      rw [ofText?, hhead, Option.bind_some, hread, wholly, Option.some_or]
  | v6 ip =>
      have hhead := Ipv6.readHead_of_spelled haddress hslash
      rw [ofText?, Ipv4.readHead_of_readHead_ipv6 hhead, hhead, Option.bind_some, hread]
      rfl

/-- **A block is read from each of its spellings.** -/
theorem parse_of_spelled {c : Cidr} {text : String} (h : c.SpelledBy text) :
    parse text = .ok c := by
  obtain ⟨front, address, length, back, htext, hfront, hback, haddress, hlength⟩ := h
  have hblank : ∀ x ∈ address ++ '/' :: length, isBlank x = false := by
    intro x hx
    rcases List.mem_append.mp hx with hx | hx
    · exact isBlank_of_inAddress (haddress.inAddress x hx)
    · rcases List.mem_cons.mp hx with rfl | hx
      · decide
      · exact isBlank_of_inAddress (isDigit_lengthForm (hlength.digits x hx))
  have htrim : trim text.toList = address ++ '/' :: length := by
    rw [htext, trim_append_blank _ hback, trim_blank_append _ hfront, trim_eq_self hblank]
  have hread : ofText? (trim text.toList) = some c := by
    rw [htrim]
    exact ofText?_of_spelled c haddress hlength
  unfold parse
  rw [hread]

end Cidr

/-! ## The usual text -/

theorem Ipv4.spelledBy_write (ip : Ipv4) : ip.SpelledBy ip.write :=
  ⟨writeOctet ip.a, writeOctet ip.b, writeOctet ip.c, writeOctet ip.d, rfl,
    Form.spells_write (Dialect.holds_octet .lenient ip.a),
    Form.spells_write (Dialect.holds_octet .lenient ip.b),
    Form.spells_write (Dialect.holds_octet .lenient ip.c),
    Form.spells_write (Dialect.holds_octet .lenient ip.d)⟩

theorem sideSpelledBy_writeGroups (gs : List UInt16) :
    SideSpelledBy false gs (writeGroups gs) := by
  have hgroups (g : UInt16) (gs : List UInt16) :
      GroupsSpelledBy false (g :: gs) (writeGroups (g :: gs)) := by
    induction gs generalizing g with
    | nil => exact .single (Form.spells_write (holds_groupForm g))
    | cons h gs ih => exact .cons (Form.spells_write (holds_groupForm g)) (ih h)
  cases gs with
  | nil => exact .none
  | cons g gs => exact .some (hgroups g gs)

theorem SideSpelledBy.of_ne_nil {dotted : Bool} {gs : List UInt16} {cs : List Char}
    (h : SideSpelledBy dotted gs cs) (hne : gs ≠ []) : GroupsSpelledBy dotted gs cs := by
  cases h with
  | none => exact absurd rfl hne
  | some groups => exact groups

theorem Ipv6.spelledBy_write (ip : Ipv6) : ip.SpelledBy ip.write := by
  unfold write
  cases hmapped : ip.mapped? with
  | some v4 =>
      obtain rfl := mapped?_eq_some_iff.mp hmapped
      have htail : GroupsSpelledBy true (0xFFFF :: v4.groups) ("ffff".toList ++ ':' :: v4.write) :=
        .cons (Form.spells_write (holds_groupForm 0xFFFF)) (.dotted v4.spelledBy_write)
      have hgroups : (Ipv6.ofIpv4 v4).groups =
          [] ++ List.replicate 5 0 ++ (0xFFFF :: v4.groups) := rfl
      exact .gap hgroups (Nat.succ_pos 7) .none (.some htail)
  | none =>
      by_cases hrun : 1 < (longestZeroRun ip.groups).2
      · have hsplit := longestZeroRun_split ip.groups
        have hlength := congrArg List.length hsplit
        rw [ip.length_eq, List.length_append, List.length_append, List.length_replicate] at hlength
        simp only [if_pos hrun]
        exact .gap hsplit.symm (by omega) (sideSpelledBy_writeGroups _)
          (sideSpelledBy_writeGroups _)
      · simp only [if_neg hrun]
        have hne : ip.groups ≠ [] := by
          rw [← List.length_pos_iff, ip.length_eq]
          exact Nat.succ_pos 7
        exact .full ((sideSpelledBy_writeGroups ip.groups).of_ne_nil hne)

/-- **An address is spelled by its text.** -/
theorem IpAddr.spelledBy_toText (ip : IpAddr) : ip.SpelledBy ip.toText := by
  cases ip with
  | v4 ip => exact ip.spelledBy_write
  | v6 ip => exact ip.spelledBy_write

theorem Cidr.holds_lengthForm (c : Cidr) : (lengthForm c.address.family).Holds c.length := by
  have hle := c.length_le
  cases hfamily : c.address.family with
  | v4 =>
      rw [hfamily] at hle
      exact ⟨show 1 < 10 by decide, show 10 ≤ 16 by decide, Nat.lt_succ_of_le hle, by
        intro k hk
        obtain rfl := Option.some.inj hk
        exact ⟨by decide, Nat.lt_of_le_of_lt hle (by decide)⟩⟩
  | v6 =>
      rw [hfamily] at hle
      exact ⟨show 1 < 10 by decide, show 10 ≤ 16 by decide, Nat.lt_succ_of_le hle, by
        intro k hk
        obtain rfl := Option.some.inj hk
        exact ⟨by decide, Nat.lt_of_le_of_lt hle (by decide)⟩⟩

/-- A block is spelled by the text of its address and its length in decimal, whatever blanks stand
    around them. -/
theorem Cidr.spelledBy_written (c : Cidr) {front back : List Char}
    (hfront : ∀ x ∈ front, isBlank x = true) (hback : ∀ x ∈ back, isBlank x = true) :
    c.SpelledBy (String.ofList (front ++ (c.address.toText ++ '/' :: write 10 c.length) ++ back)) :=
  ⟨front, c.address.toText, write 10 c.length, back, String.toList_ofList, hfront, hback,
    c.address.spelledBy_toText, by
      have hspells := Form.spells_write c.holds_lengthForm
      cases hfamily : c.address.family <;> rwa [hfamily] at hspells⟩

end NatDiscovery
