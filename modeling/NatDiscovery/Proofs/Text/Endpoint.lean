import NatDiscovery.Endpoint
import NatDiscovery.Proofs.Text.Extent

/-!
# `Proofs.Text.Endpoint` — a written endpoint is read back

The text of an endpoint is that of its address, a colon and the port. An IPv6 address stands in
brackets, with its scope behind it if it has one, since its own text holds colons. No address is
read as an endpoint: an IPv4 address lacks the colon, an IPv6 address the bracket.

A host without a colon, with a port behind it, is an endpoint exactly when the host is an address,
and then one of IPv4 (`ofText?_host_port`): the only colon is the one before the port, which leaves
none for an IPv6 address in brackets.

## Contents
- `readPort_write`, `readScope_zone`: the parts behind an address
- `ofText?_toText`: endpoints
- `ofText?_address`, `ofText?_of_no_colon`: texts without a port
- `ofText?_host_port`: a host and a port
-/

namespace NatDiscovery

namespace Endpoint

open Numeral

/-! ## Ports and scopes -/

theorem holds_portForm (port : Port) : portForm.Holds port.toNat :=
  ⟨by decide, by decide, port.toNat_lt, fun _ hk => by cases hk⟩

theorem holds_scopeForm (scope : UInt32) : scopeForm.Holds scope.toNat :=
  ⟨by decide, by decide, scope.toNat_lt, fun _ hk => by cases hk⟩

theorem readPort_write (port : Port) : readPort (':' :: writePort port) = some (port, []) := by
  have hread := Form.read_write (holds_portForm port) (stops_nil _)
  rw [List.append_nil] at hread
  rw [readPort, expect_cons_self, writePort]
  show (portForm.read (Numeral.write 10 port.toNat)).bind _ = _
  rw [show portForm.read (Numeral.write 10 port.toNat) = _ from hread]
  show some (UInt16.ofNat port.toNat, []) = _
  rw [UInt16.ofNat_toNat]

theorem isDigit_of_mem_writePort {port : Port} {c : Char} (h : c ∈ writePort port) :
    IsDigit 10 c :=
  isDigit_of_mem_write (by decide) (by decide) port.toNat c h

/-- The scope of an IPv6 endpoint is read up to the bracket, also where it is zero and left out. -/
theorem readScope_zone (scope : UInt32) (rest : List Char) :
    readScope ((if scope = 0 then [] else '%' :: Numeral.write 10 scope.toNat) ++ ']' :: rest) =
      (scope, ']' :: rest) := by
  by_cases hzero : scope = 0
  · rw [if_pos hzero, List.nil_append, readScope, expect_of_ne (by decide), hzero]
    rfl
  · have hbracket : Stops (IsDigit scopeForm.base) (']' :: rest) := by
      apply stops_cons.mpr
      simp [IsDigit, digit?]
    have hread := Form.read_write (holds_scopeForm scope) hbracket
    rw [if_neg hzero, List.cons_append, readScope, expect_cons_self, Option.bind_some,
      show scopeForm.read (Numeral.write 10 scope.toNat ++ ']' :: rest) = _ from hread]
    show (UInt32.ofNat scope.toNat, ']' :: rest) = _
    rw [UInt32.ofNat_toNat]

/-! ## Endpoints -/

theorem not_inAddress_bracket : ¬InAddress '[' := by
  simp [InAddress, IsDigit, digit?]

/-- An IPv4 address with a port. -/
theorem readHead4_toText (ip : Ipv4) (port : Port) :
    readHead4 (toText (.v4 ip port)) = some (.v4 ip port, []) := by
  have hcolon : Stops (IsDigit 10) (':' :: writePort port) :=
    stops_cons.mpr (not_isDigit_colon 10)
  simp only [readHead4, toText, Ipv4.readHead_write .strict ip hcolon, readPort_write,
    Option.bind_eq_bind, Option.bind_some, Option.pure_def]

/-- An IPv6 address in brackets with a port. -/
theorem readHead6_toText (ip : Ipv6) (port : Port) (scope : UInt32) :
    readHead6 (toText (.v6 ip port scope)) = some (.v6 ip port scope, []) := by
  -- Neither the percent sign nor the bracket goes on with the address.
  have hzone : Stops InAddress
      ((if scope = 0 then [] else '%' :: Numeral.write 10 scope.toNat) ++
        ']' :: ':' :: writePort port) := by
    split
    · exact stops_cons.mpr (by simp [InAddress, IsDigit, digit?])
    · exact stops_cons.mpr (by simp [InAddress, IsDigit, digit?])
  have haddress : ∀ rest, Stops InAddress rest →
      Ipv6.readHead .strict (ip.write ++ rest) = some (ip, rest) :=
    fun _ hrest => Ipv6.readHead_write (by decide) ip hrest
  simp only [readHead6, toText, expect_cons_self, List.append_assoc, haddress _ hzone,
    readScope_zone, readPort_write, Option.bind_eq_bind, Option.bind_some, Option.pure_def]

theorem readHead4_bracket (cs : List Char) : readHead4 ('[' :: cs) = none := by
  have hstops : Stops GoesOn ('[' :: cs) := stops_goesOn (stops_cons.mpr not_inAddress_bracket)
  rw [readHead4, Ipv4.readHead_of_stops .strict hstops]
  rfl

theorem readHead6_of_no_bracket {cs : List Char} (h : '[' ∉ cs) : readHead6 cs = none := by
  rw [readHead6, expect_of_notMem h]
  rfl

/-- **An endpoint is read back from its text.** -/
theorem ofText?_toText (e : Endpoint) : ofText? e.toText = some e := by
  cases e with
  | v4 ip port => rw [ofText?, readHead4_toText]; rfl
  | v6 ip port scope =>
      rw [ofText?, readHead6_toText]
      show (wholly (readHead4 ('[' :: _))).or _ = _
      rw [readHead4_bracket]
      rfl

/-! ## Texts without a port -/

/-- **An address by itself is no endpoint.** -/
theorem ofText?_address (a : IpAddr) : ofText? a.toText = none := by
  have hbracket : '[' ∉ a.toText :=
    fun hmem => not_inAddress_bracket (inAddress_of_mem_toText hmem)
  rw [ofText?, readHead6_of_no_bracket hbracket]
  cases a with
  | v4 ip =>
      have hread := Ipv4.readHead_write .strict ip (stops_nil _)
      rw [List.append_nil] at hread
      rw [IpAddr.toText, readHead4, hread]
      rfl
  | v6 ip =>
      have hread : Ipv4.readHead .strict (ip.write ++ []) = none :=
        Ipv4.readHead_ipv6 ip (stops_nil _)
      rw [List.append_nil] at hread
      rw [IpAddr.toText, readHead4, hread]
      rfl

/-- No endpoint begins with a character that is neither a bracket nor one of an address. -/
theorem ofText?_of_foreign {c : Char} (haddress : ¬InAddress c) (hbracket : c ≠ '[')
    (cs : List Char) : ofText? (c :: cs) = none := by
  rw [ofText?, readHead4, readHead6, expect_of_ne hbracket,
    Ipv4.readHead_of_stops .strict (stops_goesOn (stops_cons.mpr haddress))]
  rfl

theorem exists_colon_of_readPort {cs : List Char} {found : Port × List Char}
    (h : readPort cs = some found) : ∃ text, cs = ':' :: text := by
  obtain ⟨text, hcolon, -⟩ := Option.bind_eq_some_iff.mp h
  exact ⟨text, expect_eq_some_iff.mp hcolon⟩

/-- Behind an address in brackets there is one more colon. -/
theorem readHead6_of_few_colons {cs : List Char} (h : cs.count ':' ≤ 1) : readHead6 cs = none := by
  rw [Option.eq_none_iff_forall_ne_some]
  intro found hfound
  simp only [readHead6, Option.bind_eq_bind, Option.bind_eq_some_iff, expect_eq_some_iff,
    Prod.exists] at hfound
  obtain ⟨body, rfl, ip, rest, hip, -⟩ := hfound
  have hcolons := Ipv6.readHead_colons hip
  rw [List.count_cons_of_ne (by decide)] at h
  omega

theorem ofText?_of_no_colon {cs : List Char} (h : ':' ∉ cs) : ofText? cs = none := by
  have hcount : cs.count ':' = 0 := List.count_eq_zero_of_not_mem h
  rw [ofText?, readHead6_of_few_colons (by omega), wholly_none, Option.or_none,
    Option.eq_none_iff_forall_ne_some]
  intro e he
  simp only [wholly_eq_some_iff, readHead4, Option.bind_eq_bind, Option.bind_eq_some_iff,
    Prod.exists] at he
  obtain ⟨ip, rest, hip, port, rest', hport, -⟩ := he
  obtain ⟨text, rfl⟩ := exists_colon_of_readPort hport
  have hcolons := Ipv4.count_colon_readHead hip
  rw [List.count_cons_self] at hcolons
  omega

/-! ## A host and a port -/

theorem colon_notMem_writePort (port : Port) : ':' ∉ writePort port :=
  fun hmem => not_isDigit_colon 10 (isDigit_of_mem_writePort hmem)

theorem count_colon_host_port {host : List Char} (hhost : ':' ∉ host) (port : Port) :
    (host ++ ':' :: writePort port).count ':' = 1 := by
  rw [List.count_append, List.count_cons_self, List.count_eq_zero_of_not_mem hhost,
    List.count_eq_zero_of_not_mem (colon_notMem_writePort port)]

/-- The one colon ends the address. -/
theorem readHead4_host_port {host : List Char} (hhost : ':' ∉ host) (port : Port) (e : Endpoint) :
    readHead4 (host ++ ':' :: writePort port) = some (e, []) ↔
      ∃ ip, Ipv4.readHead .strict host = some (ip, []) ∧ .v4 ip port = e := by
  simp only [readHead4, Option.bind_eq_bind, Option.bind_eq_some_iff, Prod.exists, Option.pure_def,
    Option.some.injEq, Prod.mk.injEq]
  constructor
  · rintro ⟨ip, rest, hip, port', rest', hport, rfl, rfl⟩
    obtain ⟨text, rfl⟩ := exists_colon_of_readPort hport
    obtain ⟨address, htext, -, hsame⟩ := Ipv4.readHead_split hip
    obtain ⟨rfl, -, rfl⟩ :=
      (List.append_cons_inj_of_notMem hhost (colon_notMem_writePort port)).mp htext
    rw [readPort_write] at hport
    obtain ⟨rfl, -⟩ := Prod.mk.inj (Option.some.inj hport)
    have hhead := hsame [] (stops_nil _)
    rw [List.append_nil] at hhead
    exact ⟨ip, hhead, rfl⟩
  · rintro ⟨ip, hip, rfl⟩
    obtain ⟨address, rfl, -, hsame⟩ := Ipv4.readHead_split hip
    rw [List.append_nil]
    exact ⟨ip, _, hsame _ (stops_cons.mpr (not_isDigit_colon 10)), port, [], readPort_write port,
      rfl, rfl⟩

/-- **A host without a colon and a port are an endpoint when the host is an address.** -/
theorem ofText?_host_port {host : List Char} (hhost : ':' ∉ host) (port : Port) :
    ofText? (host ++ ':' :: writePort port) = (IpAddr.ofText? host).map (of · port) := by
  have hone := count_colon_host_port hhost port
  have hnone : host.count ':' ≤ 1 := by
    rw [List.count_eq_zero_of_not_mem hhost]
    omega
  rw [ofText?, readHead6_of_few_colons (by omega), IpAddr.ofText?_of_few_colons hnone, wholly_none,
    Option.or_none, Option.map_map]
  apply Option.ext
  intro e
  rw [wholly_eq_some_iff, readHead4_host_port hhost, Option.map_eq_some_iff]
  simp only [wholly_eq_some_iff, Function.comp_apply, of]

end Endpoint

end NatDiscovery
