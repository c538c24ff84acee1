import NatDiscovery.Proofs.Text.Endpoint
import NatDiscovery.ServerName

/-!
# `Proofs.ServerName` — what a server text stands for

A server text is taken for an endpoint, for an address, or for a host with a port or without, in
that order. The forms do not overlap where it would matter:

- **literals are never looked up**: the text of an address or an endpoint stands for itself,
  whatever names are known (`resolveServer_address`, `resolveServer_endpoint`);
- **the port is a part of its own**: a host without a colon has the same addresses with a port
  behind it and without (`serverEndpoints_host`, `serverEndpoints_host_port`);
- **one scheme is taken away**: a text that has none may get one (`resolveServer_serverUrl_of_not`).

The scheme looks like a host with a colon behind it. A text that has one already and gets a second
one is taken for a host whose name begins with it (`resolveServer_serverUrl_iff`), and a host named
like the scheme loses its name when a port follows it (`carriesScheme_host_port`).

## Contents
- `CarriesScheme`, `stripScheme_of_not`, `ofText?_of_carriesScheme`: the scheme
- `firstOf`, `resolveServer_eq`, `firstOf_map`: the choice among the endpoints
- `resolveServer_endpoint`, `resolveServer_address`, `resolveServer_literal`: literals
- `withPort`, `SameButPort`, `sameButPort`, `resolveServer_withPort`: hosts with a port and without
- `NamedWithPort`, `resolveServer_serverUrl`: texts with the scheme
-/

namespace NatDiscovery

open Numeral Endpoint

/-! ## The scheme -/

/-- The text has the scheme in front. -/
def CarriesScheme (text : List Char) : Prop :=
  scheme.toList <+: text

instance (text : List Char) : Decidable (CarriesScheme text) :=
  inferInstanceAs (Decidable (scheme.toList <+: text))

theorem toList_scheme : scheme.toList = ['s', 't', 'u', 'n', ':'] := by
  simp [scheme]

theorem stripScheme_of_not {text : List Char} (h : ¬CarriesScheme text) :
    stripScheme text = text := by
  unfold stripScheme
  split
  · rename_i rest
    exact absurd ⟨rest, by rw [toList_scheme]; rfl⟩ h
  · rfl

theorem not_inAddress_scheme : ¬InAddress 's' := by
  simp [InAddress, IsDigit, digit?]

/-- The scheme begins with a letter that begins no address and no endpoint. -/
theorem ofText?_of_carriesScheme {text : List Char} (h : CarriesScheme text) :
    Endpoint.ofText? text = none ∧ IpAddr.ofText? text = none := by
  obtain ⟨rest, rfl⟩ := h
  rw [toList_scheme]
  constructor
  · exact Endpoint.ofText?_of_foreign not_inAddress_scheme (by decide) _
  · exact IpAddr.ofText?_of_stops (stops_cons.mpr not_inAddress_scheme)

/-! ## The choice among the endpoints -/

/-- What goes on from a computation succeeds when both do. -/
theorem bind_eq_ok_iff {ε α β : Type} {x : Except ε α} {f : α → Except ε β} {b : β} :
    x.bind f = .ok b ↔ ∃ a, x = .ok a ∧ f a = .ok b := by
  cases x with
  | error e => simp [Except.bind]
  | ok a => simp [Except.bind]

/-- The first endpoint of a family, or the failure of a server text that has none. -/
def firstOf (family : Family) (text : List Char) (endpoints : List Endpoint) :
    Except NetworkError Endpoint :=
  match endpoints.find? (·.family = family) with
  | some e => .ok e
  | none => .error (.noAddressOfFamily (String.ofList text) family)

theorem resolveServer_eq (names : Names) (server : String) (family : Family) :
    resolveServer names server family =
      (serverEndpoints names (stripScheme server.toList)).bind
        (firstOf family (stripScheme server.toList)) := by
  unfold resolveServer
  generalize stripScheme server.toList = text
  dsimp only
  cases serverEndpoints names text with
  | error cause => rfl
  | ok endpoints => rfl

theorem firstOf_singleton (family : Family) (text : List Char) (e : Endpoint) :
    firstOf family text [e] =
      if e.family = family then .ok e
      else .error (.noAddressOfFamily (String.ofList text) family) := by
  by_cases h : e.family = family
  · simp [firstOf, h]
  · simp [firstOf, h]

/-- Of endpoints that differ in their addresses only, the first of a family is the one of the first
    address of that family. -/
theorem firstOf_map (family : Family) (text : List Char) (ips : List IpAddr) (port : Port) :
    firstOf family text (ips.map (Endpoint.of · port)) =
      match ips.find? (·.family = family) with
      | some ip => .ok (.of ip port)
      | none => .error (.noAddressOfFamily (String.ofList text) family) := by
  have hfamily : ((fun e : Endpoint => decide (e.family = family)) ∘ (Endpoint.of · port)) =
      fun ip : IpAddr => decide (ip.family = family) := by
    funext ip
    simp
  rw [firstOf, List.find?_map, hfamily]
  cases ips.find? (·.family = family) with
  | none => rfl
  | some ip => rfl

theorem firstOf_map_eq_ok_iff {family : Family} {text : List Char} {ips : List IpAddr}
    {port : Port} {e : Endpoint} :
    firstOf family text (ips.map (Endpoint.of · port)) = .ok e ↔
      ∃ ip, ips.find? (·.family = family) = some ip ∧ .of ip port = e := by
  rw [firstOf_map]
  cases ips.find? (·.family = family) with
  | none => simp
  | some ip => simp

theorem family_of_firstOf {family : Family} {text : List Char} {endpoints : List Endpoint}
    {e : Endpoint} (h : firstOf family text endpoints = .ok e) : e.family = family := by
  rw [firstOf] at h
  split at h
  · rename_i found hfound
    injection h with h
    have hfamily := List.find?_some (p := fun e : Endpoint => decide (e.family = family)) hfound
    exact h ▸ of_decide_eq_true hfamily
  · injection h

/-- A server is resolved to the wanted family only. -/
theorem family_of_resolveServer {names : Names} {server : String} {family : Family} {e : Endpoint}
    (h : resolveServer names server family = .ok e) : e.family = family := by
  rw [resolveServer_eq, bind_eq_ok_iff] at h
  obtain ⟨endpoints, -, hfirst⟩ := h
  exact family_of_firstOf hfirst

/-! ## Literals -/

section Literals

variable (names : Names)

theorem serverEndpoints_endpoint (e : Endpoint) : serverEndpoints names e.toText = .ok [e] := by
  rw [serverEndpoints, Endpoint.ofText?_toText]

theorem serverEndpoints_address (a : IpAddr) :
    serverEndpoints names a.toText = .ok [.of a defaultPort] := by
  rw [serverEndpoints, Endpoint.ofText?_address, IpAddr.ofText?_toText]

theorem not_carriesScheme_endpoint (e : Endpoint) : ¬CarriesScheme e.toText := by
  intro h
  have hread := (ofText?_of_carriesScheme h).1
  rw [Endpoint.ofText?_toText] at hread
  injection hread

theorem not_carriesScheme_address (a : IpAddr) : ¬CarriesScheme a.toText := by
  intro h
  have hread := (ofText?_of_carriesScheme h).2
  rw [IpAddr.ofText?_toText] at hread
  injection hread

/-- **A text that has no scheme may get one.** -/
theorem resolveServer_serverUrl_of_not {server : String} (family : Family)
    (h : ¬CarriesScheme server.toList) :
    resolveServer names (serverUrl server) family = resolveServer names server family := by
  rw [resolveServer_eq, resolveServer_eq, stripScheme_serverUrl, stripScheme_of_not h]

/-- The text of an endpoint stands for itself. -/
theorem resolveServer_endpoint (e : Endpoint) (family : Family) :
    resolveServer names e.write family =
      if e.family = family then .ok e else .error (.noAddressOfFamily e.write family) := by
  rw [resolveServer_eq, Endpoint.write, String.toList_ofList,
    stripScheme_of_not (not_carriesScheme_endpoint e), serverEndpoints_endpoint]
  exact firstOf_singleton family e.toText e

/-- The text of an address stands for itself, with the default port. -/
theorem resolveServer_address (a : IpAddr) (family : Family) :
    resolveServer names a.write family =
      if a.family = family then .ok (.of a defaultPort)
      else .error (.noAddressOfFamily a.write family) := by
  rw [resolveServer_eq, IpAddr.write, String.toList_ofList,
    stripScheme_of_not (not_carriesScheme_address a), serverEndpoints_address]
  have hfirst := firstOf_singleton family a.toText (.of a defaultPort)
  rw [Endpoint.family_of] at hfirst
  exact hfirst

/-- **Literals stand for themselves**, with the scheme and without, whatever names are known; and a
    server is resolved to the wanted family only. -/
theorem resolveServer_literal (a : IpAddr) (port : Port) (family : Family) :
    (∀ server ∈ [a.write, serverUrl a.write],
      resolveServer names server family =
        if a.family = family then .ok (.of a defaultPort)
        else .error (.noAddressOfFamily a.write family)) ∧
    (∀ server ∈ [(Endpoint.of a port).write, serverUrl (Endpoint.of a port).write],
      resolveServer names server family =
        if a.family = family then .ok (.of a port)
        else .error (.noAddressOfFamily (Endpoint.of a port).write family)) ∧
    ∀ server e, resolveServer names server family = .ok e → e.family = family := by
  have haddress := resolveServer_address names a family
  have hendpoint := resolveServer_endpoint names (.of a port) family
  rw [Endpoint.family_of] at hendpoint
  have hbareAddress : ¬CarriesScheme a.write.toList := by
    rw [IpAddr.write, String.toList_ofList]
    exact not_carriesScheme_address a
  have hbareEndpoint : ¬CarriesScheme (Endpoint.of a port).write.toList := by
    rw [Endpoint.write, String.toList_ofList]
    exact not_carriesScheme_endpoint _
  refine ⟨?_, ?_, fun _ _ => family_of_resolveServer⟩
  · simp only [List.forall_mem_cons, resolveServer_serverUrl_of_not names family hbareAddress]
    exact ⟨haddress, haddress, by simp⟩
  · simp only [List.forall_mem_cons, resolveServer_serverUrl_of_not names family hbareEndpoint]
    exact ⟨hendpoint, hendpoint, by simp⟩

end Literals

/-- A bracketed address behind the scheme, where no names are known. -/
theorem resolveServer_literal_loopback :
    resolveServer (fun _ => []) (serverUrl "[::1]:3479") .v6 =
        .ok (.v6 ⟨[0, 0, 0, 0, 0, 0, 0, 1], rfl⟩ 3479 0) ∧
      (Endpoint.v6 ⟨[0, 0, 0, 0, 0, 0, 0, 1], rfl⟩ 3479 0).family = .v6 := by
  obtain ⟨-, hendpoint, hfamily⟩ :=
    resolveServer_literal (fun _ => []) (.v6 ⟨[0, 0, 0, 0, 0, 0, 0, 1], rfl⟩) 3479 .v6
  have hwritten :
      (Endpoint.of (.v6 ⟨[0, 0, 0, 0, 0, 0, 0, 1], rfl⟩) 3479).write = "[::1]:3479" := by
    decide +kernel
  rw [hwritten] at hendpoint
  have hok := hendpoint (serverUrl "[::1]:3479") (by simp)
  exact ⟨hok, hfamily _ _ hok⟩

/-! ## Hosts -/

/-- A text splits at a character behind which it does not come again. -/
theorem splitLast_append {x : Char} {before after : List Char} (h : x ∉ after) :
    splitLast x (before ++ x :: after) = some (before, after) := by
  induction before with
  | nil => simp only [List.nil_append, splitLast, splitLast_eq_none.mpr h, if_true]
  | cons c before ih => simp only [List.cons_append, splitLast, ih]

/-- A host with a port behind it. -/
def withPort (host : String) (port : Port) : String :=
  host ++ ":" ++ String.ofList (writePort port)

theorem toList_withPort (host : String) (port : Port) :
    (withPort host port).toList = host.toList ++ ':' :: writePort port := by
  simp [withPort]

/-- A host and the same host with a port come to the same: to one address, each with its own port,
    or to the same failure. -/
inductive SameButPort (names : Names) (host : String) (port : Port) (family : Family) : Prop where
  /-- Both have this address. -/
  | found (ip : IpAddr) (hbare : resolveServer names host family = .ok (.of ip defaultPort))
      (hfull : resolveServer names (withPort host port) family = .ok (.of ip port))
  /-- Neither has an address of the family; the failure tells the text it was given. -/
  | noAddress (hbare : resolveServer names host family = .error (.noAddressOfFamily host family))
      (hfull : resolveServer names (withPort host port) family =
        .error (.noAddressOfFamily (withPort host port) family))
  /-- Neither can be looked up, for this cause. -/
  | fault (cause : NetworkError) (hbare : resolveServer names host family = .error cause)
      (hfull : resolveServer names (withPort host port) family = .error cause)

section Hosts

variable (names : Names) {host : List Char}

/-- An address without a colon is its own lookup. -/
theorem lookup_literal (hhost : ':' ∉ host) {ip : IpAddr} (h : IpAddr.ofText? host = some ip) :
    lookup names host = .ok [ip] := by
  have hnul : '\x00' ∉ host := by
    have hcolons : host.count ':' ≤ 1 := by
      rw [List.count_eq_zero_of_not_mem hhost]
      omega
    rw [IpAddr.ofText?_of_few_colons hcolons, Option.map_eq_some_iff] at h
    obtain ⟨ip4, hread, -⟩ := h
    obtain ⟨address, rfl, hchars, -⟩ := Ipv4.readHead_split (wholly_eq_some_iff.mp hread)
    rw [List.append_nil]
    intro hmem
    exact absurd (hchars _ hmem) (by simp [IsDigit, digit?])
  rw [lookup, if_neg hnul, h]

/-- A host without a port is looked up, and asked at the default port. -/
theorem serverEndpoints_host (hhost : ':' ∉ host) :
    serverEndpoints names host =
      (lookup names host).map (List.map (Endpoint.of · defaultPort)) := by
  rw [serverEndpoints, Endpoint.ofText?_of_no_colon hhost]
  cases hliteral : IpAddr.ofText? host with
  | some ip =>
      rw [lookup_literal names hhost hliteral]
      rfl
  | none => rw [splitLast_eq_none.mpr hhost]

/-- A host with a port is looked up the same way, and asked at that port. -/
theorem serverEndpoints_host_port (hhost : ':' ∉ host) (port : Port) :
    serverEndpoints names (host ++ ':' :: writePort port) =
      (lookup names host).map (List.map (Endpoint.of · port)) := by
  rw [serverEndpoints, Endpoint.ofText?_host_port hhost]
  cases hliteral : IpAddr.ofText? host with
  | some ip =>
      rw [lookup_literal names hhost hliteral]
      rfl
  | none =>
      have hport : readWhole 65536 (writePort port) = .ok port.toNat :=
        readWhole_write port.toNat_lt
      rw [IpAddr.ofText?_of_one_colon (Endpoint.count_colon_host_port hhost port),
        splitLast_append (Endpoint.colon_notMem_writePort port)]
      simp only [Option.map_none, hport, UInt16.ofNat_toNat]

theorem not_carriesScheme_of_no_colon (hhost : ':' ∉ host) : ¬CarriesScheme host := by
  rintro ⟨rest, rfl⟩
  exact hhost (by simp [toList_scheme])

/-- The one host that looks like the scheme when a port follows. -/
theorem carriesScheme_host_port (hhost : ':' ∉ host) (port : Port) :
    CarriesScheme (host ++ ':' :: writePort port) ↔ host = ['s', 't', 'u', 'n'] := by
  constructor
  · rintro ⟨rest, htext⟩
    rw [toList_scheme] at htext
    have hparts : host ++ ':' :: writePort port = ['s', 't', 'u', 'n'] ++ ':' :: rest := htext.symm
    exact ((List.append_cons_inj_of_notMem hhost
      (Endpoint.colon_notMem_writePort port)).mp hparts).1
  · rintro rfl
    exact ⟨writePort port, by rw [toList_scheme]; rfl⟩

theorem stripScheme_host {host : String} (hhost : ':' ∉ host.toList) :
    stripScheme host.toList = host.toList :=
  stripScheme_of_not (not_carriesScheme_of_no_colon hhost)

theorem stripScheme_host_port {host : String} (hhost : ':' ∉ host.toList) (hscheme : host ≠ "stun")
    (port : Port) :
    stripScheme (withPort host port).toList = host.toList ++ ':' :: writePort port := by
  rw [toList_withPort]
  apply stripScheme_of_not
  rw [carriesScheme_host_port hhost]
  intro heq
  exact hscheme (String.toList_inj.mp (heq.trans (by simp)))

/-- A host with a port is found where it has an address of the family, at the first such. -/
theorem resolveServer_withPort_iff {host : String} (hhost : ':' ∉ host.toList)
    (hscheme : host ≠ "stun") (port : Port) (family : Family) (e : Endpoint) :
    resolveServer names (withPort host port) family = .ok e ↔
      ∃ ips ip, lookup names host.toList = .ok ips ∧
        ips.find? (·.family = family) = some ip ∧ .of ip port = e := by
  rw [resolveServer_eq, stripScheme_host_port hhost hscheme, serverEndpoints_host_port names hhost]
  cases hlookup : lookup names host.toList with
  | error cause => simp [Except.map, Except.bind]
  | ok ips => simp [Except.map, Except.bind, firstOf_map_eq_ok_iff]

/-- With a port and without, a host is found at the same address or fails the same way. -/
theorem sameButPort {host : String} (hhost : ':' ∉ host.toList) (hscheme : host ≠ "stun")
    (port : Port) (family : Family) : SameButPort names host port family := by
  have hresolve := resolveServer_eq names host family
  have hresolvePort := resolveServer_eq names (withPort host port) family
  rw [stripScheme_host hhost, serverEndpoints_host names hhost] at hresolve
  rw [stripScheme_host_port hhost hscheme, serverEndpoints_host_port names hhost] at hresolvePort
  cases hlookup : lookup names host.toList with
  | error cause =>
      rw [hlookup] at hresolve hresolvePort
      exact .fault cause hresolve hresolvePort
  | ok ips =>
      simp only [hlookup, Except.map, Except.bind, firstOf_map, ← toList_withPort,
        String.ofList_toList] at hresolve hresolvePort
      cases hip : ips.find? (·.family = family) with
      | some ip =>
          rw [hip] at hresolve hresolvePort
          exact .found ip hresolve hresolvePort
      | none =>
          rw [hip] at hresolve hresolvePort
          exact .noAddress hresolve hresolvePort

/-- **The port of a server text changes the port alone**, and the server is found exactly where its
    host has an address of the family. The one host left out looks like the scheme when a port
    follows. -/
theorem resolveServer_withPort {host : String} (hhost : ':' ∉ host.toList) (hscheme : host ≠ "stun")
    (port : Port) (family : Family) :
    SameButPort names host port family ∧
      ∀ e, resolveServer names (withPort host port) family = .ok e ↔
        ∃ ips ip, lookup names host.toList = .ok ips ∧
          ips.find? (·.family = family) = some ip ∧ .of ip port = e :=
  ⟨sameButPort names hhost hscheme port family,
    resolveServer_withPort_iff names hhost hscheme port family⟩

end Hosts

/-- A network with one name, spelled like the scheme. -/
def schemeNamed : Names := fun name =>
  if name = "stun" then [.v4 ⟨198, 51, 100, 7⟩] else []

/-- For that name the port does not change the port alone: name and colon are taken away as the
    scheme, and the port is left for a host. -/
theorem not_forall_withPort :
    ¬∀ (names : Names) (host : String) (port : Port) (family : Family), ':' ∉ host.toList →
      SameButPort names host port family := by
  intro h
  have hbare : resolveServer schemeNamed "stun" .v4 = .ok (.v4 ⟨198, 51, 100, 7⟩ 3478) := by
    decide +kernel
  have hfull : resolveServer schemeNamed (withPort "stun" 80) .v4 = .error .unknownName := by
    decide +kernel
  cases h schemeNamed "stun" 80 .v4 (by decide +kernel) with
  | found ip _ hfound => rw [hfull] at hfound; injection hfound
  | noAddress hnone _ => rw [hbare] at hnone; injection hnone
  | fault cause hcause _ => rw [hbare] at hcause; injection hcause

/-- A name with an address of each family. -/
def dualNamed : Names := fun name =>
  if name = "stun.test" then [.v6 ⟨[0x2001, 0xdb8, 0, 0, 0, 0, 0, 7], rfl⟩, .v4 ⟨198, 51, 100, 7⟩]
  else []

/-- The name that begins like the scheme is an ordinary one. -/
theorem resolveServer_withPort_dualNamed :
    ':' ∉ "stun.test".toList ∧ "stun.test" ≠ "stun" ∧
      SameButPort dualNamed "stun.test" 3479 .v4 ∧
      resolveServer dualNamed (withPort "stun.test" 3479) .v4 =
        .ok (.v4 ⟨198, 51, 100, 7⟩ 3479) := by
  have hhost : ':' ∉ "stun.test".toList := by decide +kernel
  have hscheme : "stun.test" ≠ "stun" := by decide
  obtain ⟨hsame, hfound⟩ := resolveServer_withPort dualNamed hhost hscheme 3479 .v4
  refine ⟨hhost, hscheme, hsame, (hfound _).mpr ?_⟩
  exact ⟨[.v6 ⟨[0x2001, 0xdb8, 0, 0, 0, 0, 0, 7], rfl⟩, .v4 ⟨198, 51, 100, 7⟩],
    .v4 ⟨198, 51, 100, 7⟩, by decide +kernel, by decide +kernel, rfl⟩

/-! ## Texts with the scheme -/

/-- The text is a name with a port behind its last colon, whatever stands in the name, and the
    endpoint is that port of the name's first address of the family. -/
inductive NamedWithPort (names : Names) (family : Family) : List Char → Endpoint → Prop
  | intro {name portText : List Char} {port : Port} {ip : IpAddr} (hlast : ':' ∉ portText)
      (hport : readWhole 65536 portText = .ok port.toNat) (hnul : '\x00' ∉ name)
      (hip : (names (String.ofList name)).find? (·.family = family) = some ip) :
      NamedWithPort names family (name ++ ':' :: portText) (.of ip port)

/-- The last colon of a text with the scheme is the scheme's own or comes later. -/
theorem prefix_of_carriesScheme {name portText : List Char}
    (h : CarriesScheme (name ++ ':' :: portText)) : ['s', 't', 'u', 'n'] <+: name := by
  obtain ⟨rest, htext⟩ := h
  rw [toList_scheme] at htext
  have hparts : ['s', 't', 'u', 'n'] ++ ':' :: rest = name ++ ':' :: portText := htext
  rcases List.append_eq_append_iff.mp hparts with ⟨more, hname, -⟩ | ⟨more, hstun, hrest⟩
  · exact ⟨more, hname.symm⟩
  · -- The name would end within the scheme, and its colon would come before the scheme's.
    cases more with
    | nil => exact ⟨[], by rw [hstun, List.append_nil, List.append_nil]⟩
    | cons c more =>
        injection hrest with hcolon
        have hmem : ':' ∈ ['s', 't', 'u', 'n'] := by
          rw [hstun, hcolon]
          simp
        exact absurd hmem (by decide)

section Scheme

variable (names : Names) {server : String} (family : Family)

/-- A name that begins like the scheme is no literal, so its addresses are the known ones. -/
theorem lookup_eq_ok_iff {name : List Char} (h : ['s', 't', 'u', 'n'] <+: name)
    {ips : List IpAddr} :
    lookup names name = .ok ips ↔
      '\x00' ∉ name ∧ names (String.ofList name) = ips ∧ ips ≠ [] := by
  have hliteral : IpAddr.ofText? name = none := by
    obtain ⟨rest, rfl⟩ := h
    exact IpAddr.ofText?_of_stops (stops_cons.mpr not_inAddress_scheme)
  rw [lookup, hliteral]
  by_cases hnul : '\x00' ∈ name
  · simp [hnul]
  · cases hnames : names (String.ofList name) with
    | nil =>
        rw [if_neg hnul]
        constructor
        · intro hok
          injection hok
        · rintro ⟨-, rfl, hnil⟩
          exact absurd rfl hnil
    | cons ip others =>
        rw [if_neg hnul]
        constructor
        · intro hok
          obtain rfl := Except.ok.inj hok
          exact ⟨hnul, rfl, by simp⟩
        · rintro ⟨-, rfl, -⟩
          rfl

theorem exists_last_colon {text : List Char} (h : CarriesScheme text) :
    ∃ name portText, text = name ++ ':' :: portText ∧ ':' ∉ portText := by
  cases hsplit : splitLast ':' text with
  | none =>
      obtain ⟨rest, rfl⟩ := h
      exact absurd (splitLast_eq_none.mp hsplit) (by simp [toList_scheme])
  | some parts => exact ⟨parts.1, parts.2, splitLast_eq_some hsplit⟩

/-- What has the scheme is no literal: it needs a port behind its last colon and a name before. -/
theorem serverEndpoints_eq_ok_iff {name portText : List Char} (hlast : ':' ∉ portText)
    (h : CarriesScheme (name ++ ':' :: portText)) {endpoints : List Endpoint} :
    serverEndpoints names (name ++ ':' :: portText) = .ok endpoints ↔
      ∃ port ips, readWhole 65536 portText = .ok port ∧ lookup names name = .ok ips ∧
        ips.map (Endpoint.of · (UInt16.ofNat port)) = endpoints := by
  obtain ⟨hendpoint, haddress⟩ := ofText?_of_carriesScheme h
  rw [serverEndpoints, hendpoint, haddress, splitLast_append hlast]
  cases hport : readWhole 65536 portText with
  | error fault => simp [hport]
  | ok port =>
      cases hlookup : lookup names name with
      | error cause => simp [hport, hlookup, Except.map]
      | ok ips => simp [hport, hlookup, Except.map]

/-- **A scheme in front of another one is taken for the beginning of a name.** -/
theorem resolveServer_serverUrl_iff (h : CarriesScheme server.toList) (e : Endpoint) :
    resolveServer names (serverUrl server) family = .ok e ↔
      NamedWithPort names family server.toList e := by
  rw [resolveServer_eq, stripScheme_serverUrl, bind_eq_ok_iff]
  generalize server.toList = text at *
  constructor
  · rintro ⟨endpoints, hendpoints, hfirst⟩
    obtain ⟨name, portText, rfl, hlast⟩ := exists_last_colon h
    obtain ⟨port, ips, hport, hlookup, rfl⟩ :=
      (serverEndpoints_eq_ok_iff names hlast h).mp hendpoints
    obtain ⟨ip, hip, rfl⟩ := firstOf_map_eq_ok_iff.mp hfirst
    obtain ⟨hnul, rfl, -⟩ := (lookup_eq_ok_iff names (prefix_of_carriesScheme h)).mp hlookup
    obtain ⟨_, _, _, _, hbound, _⟩ := (readWhole_eq_ok_iff (by decide)).mp hport
    rw [← UInt16.toNat_ofNat_of_lt hbound] at hport
    exact .intro hlast hport hnul hip
  · rintro ⟨hlast, hport, hnul, hip⟩
    rename_i name portText port ip
    have hlookup : lookup names name = .ok (names (String.ofList name)) := by
      refine (lookup_eq_ok_iff names (prefix_of_carriesScheme h)).mpr ⟨hnul, rfl, ?_⟩
      intro hnil
      rw [hnil] at hip
      injection hip
    refine ⟨_, (serverEndpoints_eq_ok_iff names hlast h).mpr ⟨_, _, hport, hlookup, rfl⟩, ?_⟩
    rw [UInt16.ofNat_toNat]
    exact firstOf_map_eq_ok_iff.mpr ⟨ip, hip, rfl⟩

/-- Such a name begins like the scheme. -/
theorem NamedWithPort.exists_name {text : List Char} {e : Endpoint} (h : CarriesScheme text)
    (hnamed : NamedWithPort names family text e) :
    ∃ name : String, "stun".toList <+: name.toList ∧ names name ≠ [] := by
  obtain ⟨-, -, -, hip⟩ := hnamed
  rename_i name portText port ip
  refine ⟨String.ofList name, ?_, ?_⟩
  · simpa using prefix_of_carriesScheme h
  · intro hnil
    rw [hnil] at hip
    injection hip

/-- **A text may get the scheme unless it has one.** The text with the scheme resolves as the text
    does, where that has none. A text that has one already is taken for a name that begins with it;
    so where no such name is known, the texts without a scheme are the ones that may get one. -/
theorem resolveServer_serverUrl (server : String) :
    (¬CarriesScheme server.toList →
      resolveServer names (serverUrl server) family = resolveServer names server family) ∧
    (CarriesScheme server.toList → ∀ e,
      (resolveServer names (serverUrl server) family = .ok e ↔
        NamedWithPort names family server.toList e)) ∧
    ((∀ name : String, "stun".toList <+: name.toList → names name = []) →
      ∀ e, resolveServer names server family = .ok e →
        (resolveServer names (serverUrl server) family = .ok e ↔
          ¬CarriesScheme server.toList)) := by
  refine ⟨resolveServer_serverUrl_of_not names family,
    fun h => resolveServer_serverUrl_iff names family h, ?_⟩
  intro hunknown e hok
  constructor
  · intro hurl h
    have hnamed := (resolveServer_serverUrl_iff names family h e).mp hurl
    obtain ⟨name, hname, hknown⟩ := hnamed.exists_name names family h
    exact hknown (hunknown name hname)
  · intro h
    rw [resolveServer_serverUrl_of_not names family h, hok]

end Scheme

/-- Without names, a text without the scheme may get it and one with the scheme may not. -/
theorem resolveServer_serverUrl_nameless :
    resolveServer (fun _ => []) (serverUrl "198.51.100.7:3479") .v4 =
        .ok (.v4 ⟨198, 51, 100, 7⟩ 3479) ∧
      resolveServer (fun _ => []) (serverUrl "stun:198.51.100.7") .v4 ≠
        .ok (.v4 ⟨198, 51, 100, 7⟩ 3478) := by
  have hbare : ¬CarriesScheme "198.51.100.7:3479".toList := by decide +kernel
  have hschemed : CarriesScheme "stun:198.51.100.7".toList := by decide +kernel
  obtain ⟨hsame, -, -⟩ := resolveServer_serverUrl (fun _ => []) .v4 "198.51.100.7:3479"
  obtain ⟨-, -, hiff⟩ := resolveServer_serverUrl (fun _ => []) .v4 "stun:198.51.100.7"
  have hiff := hiff (fun _ _ => rfl) (.v4 ⟨198, 51, 100, 7⟩ 3478) (by decide +kernel)
  exact ⟨(hsame hbare).trans (by decide +kernel), fun hurl => hiff.mp hurl hschemed⟩

/-- The scheme put in front of a text is not taken away with the one that the text has. -/
theorem not_forall_serverUrl :
    ¬∀ (names : Names) (server : String) (family : Family) (e : Endpoint),
      resolveServer names server family = .ok e →
        resolveServer names (serverUrl server) family = .ok e := by
  intro h
  have hserver : resolveServer (fun _ => []) "stun:1.2.3.4" .v4 = .ok (.v4 ⟨1, 2, 3, 4⟩ 3478) := by
    decide +kernel
  have hurl : resolveServer (fun _ => []) (serverUrl "stun:1.2.3.4") .v4 = .error .invalidPort := by
    decide +kernel
  have hsame := h _ _ _ _ hserver
  rw [hurl] at hsame
  injection hsame

end NatDiscovery
