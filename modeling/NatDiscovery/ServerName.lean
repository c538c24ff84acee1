import NatDiscovery.NetworkError

/-!
# `NatDiscovery.ServerName` — from a server text to an endpoint

A server is configured as `host` or `host:port`, with an optional `stun:` in front. The text is tried
as a socket address, then as an IP address, then as a name behind which a port may follow the last
colon. Of the addresses found, the first of the wanted family is taken.

## Contents
- `stripScheme`, `splitLast`: the parts of a server text
- `lookup`: the addresses of a host
- `resolveServer`: the endpoint to ask
- `serverUrl`: the text with its scheme, as peers are told it
-/

namespace NatDiscovery

/-- The addresses of each known name. -/
abbrev Names := String → List IpAddr

/-- The port asked when a server text names none. -/
def defaultPort : Port := 3478

/-- The scheme of server texts. -/
def scheme : String := "stun:"

/-- The server text without its scheme. One scheme is taken away. -/
def stripScheme : List Char → List Char
  | 's' :: 't' :: 'u' :: 'n' :: ':' :: rest => rest
  | text => text

/-- The server text with its scheme. -/
def serverUrl (server : String) : String :=
  scheme ++ server

theorem stripScheme_serverUrl (server : String) :
    stripScheme (serverUrl server).toList = server.toList := by
  simp [serverUrl, scheme, stripScheme]

/-- What stands before and after the last `x` of a text. -/
def splitLast (x : Char) : List Char → Option (List Char × List Char)
  | [] => none
  | c :: cs =>
    match splitLast x cs with
    -- A later occurrence wins over this one.
    | some (before, after) => some (c :: before, after)
    | none => if c = x then some ([], cs) else none

theorem splitLast_eq_some {x : Char} {cs before after : List Char}
    (h : splitLast x cs = some (before, after)) : cs = before ++ x :: after ∧ x ∉ after := by
  induction cs generalizing before after with
  | nil => simp [splitLast] at h
  | cons c cs ih =>
    simp only [splitLast] at h
    split at h
    · rename_i b a hs
      simp only [Option.some.injEq, Prod.mk.injEq] at h
      obtain ⟨rfl, rfl⟩ := h
      obtain ⟨rfl, hn⟩ := ih hs
      exact ⟨rfl, hn⟩
    · rename_i hs
      simp only [Option.ite_none_right_eq_some, Option.some.injEq, Prod.mk.injEq] at h
      obtain ⟨rfl, rfl, rfl⟩ := h
      refine ⟨rfl, ?_⟩
      clear ih
      induction cs with
      | nil => simp
      | cons d ds ihd =>
        simp only [splitLast] at hs
        split at hs
        · simp at hs
        · rename_i hd
          simp only [ite_eq_right_iff, reduceCtorEq, imp_false] at hs
          simp only [List.mem_cons, not_or]
          exact ⟨fun e => hs e.symm, ihd hd⟩

/-- A text splits at a character exactly when it holds it. -/
theorem splitLast_eq_none {x : Char} {cs : List Char} : splitLast x cs = none ↔ x ∉ cs := by
  induction cs with
  | nil => simp [splitLast]
  | cons c cs ih =>
    simp only [splitLast]
    split
    · rename_i hs
      have hmem := (splitLast_eq_some hs).1
      simp [hmem]
    · rename_i hs
      have hn := ih.1 hs
      by_cases hc : c = x
      · simp [hc]
      · simp [hc, hn, Ne.symm hc]

/-- The addresses of a host: an address stands for itself, and a name has those that are known. -/
def lookup (names : Names) (host : List Char) : Except NetworkError (List IpAddr) :=
  if '\x00' ∈ host then .error .nulInName
  else
    match IpAddr.ofText? host with
    | some ip => .ok [ip]
    | none =>
      match names (String.ofList host) with
      | [] => .error .unknownName
      | ips => .ok ips

/-- The endpoints that a server text without scheme stands for. -/
def serverEndpoints (names : Names) (server : List Char) : Except NetworkError (List Endpoint) :=
  match Endpoint.ofText? server with
  | some e => .ok [e]
  | none =>
    match IpAddr.ofText? server with
    | some ip => .ok [Endpoint.of ip defaultPort]
    | none =>
      match splitLast ':' server with
      -- A name without a port.
      | none => (lookup names server).map fun ips => ips.map (Endpoint.of · defaultPort)
      -- The port is read before the name is looked up, so its fault comes first.
      | some (host, portText) =>
        match Numeral.readWhole 65536 portText with
        | .error _ => .error .invalidPort
        | .ok port =>
          (lookup names host).map fun ips => ips.map (Endpoint.of · (UInt16.ofNat port))

/-- The endpoint to ask: the first of the wanted family that a server text stands for. -/
def resolveServer (names : Names) (server : String) (family : Family) :
    Except NetworkError Endpoint :=
  let text := stripScheme server.toList
  match serverEndpoints names text with
  | .error e => .error e
  | .ok endpoints =>
    match endpoints.find? (·.family = family) with
    | some e => .ok e
    | none => .error (.noAddressOfFamily (String.ofList text) family)

end NatDiscovery
