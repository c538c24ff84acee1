import NatDiscovery.Network
import NatDiscovery.ProbeTask
import NatDiscovery.Timeouts

/-!
# `NatDiscovery.Reflector` — asking servers for the mapped address

A probe binds one socket and asks the servers in turn over it, until one tells it its mapped
address. A query sends one request and waits for a datagram from exactly the server it was sent to;
datagrams from elsewhere are dropped, also those that an earlier query has left behind. The first
datagram from the server decides.

## Contents
- `receive`: the first datagram from a server in the inbox
- `Socket`, `query`: one server
- `ask`, `probe`: all servers
- `prober`: a network as the behaviour of probes
- `requestsUpTo`: the requests that probes sent
-/

namespace NatDiscovery

open Stun (Bytes TransactionId)

namespace Reflector

/-- The octets of a datagram that are looked at. -/
def maxDatagram : Nat := 1500

/-- The first datagram from the server that arrives before an instant, and the inbox behind it. All
that comes before it, or all that arrives in time if there is none, is dropped. -/
def receive (server : Endpoint) (cutoff : Nat) : List Datagram → Option Datagram × List Datagram
  | [] => (none, [])
  | d :: inbox =>
    -- What arrives too late stays for the queries to come.
    if d.arrival < cutoff then
      if d.source = server then (some d, inbox) else receive server cutoff inbox
    else (none, d :: inbox)

/-- A bound socket: the time, the datagrams that wait to be read or are on their way, and the
requests sent from it. -/
structure Socket where
  endpoint : Endpoint
  now : Nat := 0
  inbox : List Datagram := []
  requests : List (Nat × Endpoint) := []

/-- Waits for the answer of a server to which a request has been sent, for so many milliseconds. -/
def await (timeout : Nat) (server : Endpoint) (s : Socket) :
    Except NetworkError Endpoint × Socket :=
  match receive server (s.now + timeout) s.inbox with
  | (none, inbox) => (.error (.noAnswer server), { s with now := s.now + timeout, inbox })
  | (some d, inbox) =>
    let s := { s with now := max s.now d.arrival, inbox }
    match Stun.readResponse (d.payload.take maxDatagram) with
    | some mapped => (.ok mapped, s)
    | none => (.error (.malformedResponse server), s)

/-- Sends a request to a server. -/
def send (net : Network) (id : TransactionId) (server : Endpoint) (s : Socket) : Socket :=
  { s with
    inbox := s.inbox ++ net.answers s.endpoint server (Stun.request id) s.now
    requests := s.requests ++ [(s.now, server)] }

/-- Asks one server for the mapped address of a socket. -/
def query (net : Network) (timeout : Nat) (id : TransactionId) (server : String) (s : Socket) :
    Except NetworkError Endpoint × Socket :=
  match resolveServer net.names server s.endpoint.family with
  | .error e => (.error e, s)
  | .ok target =>
    if net.connected then await timeout target (send net id target s)
    else (.error .networkUnreachable, s)

/-- Asks the servers in turn until one tells the mapped address. The failure of the last one is the
failure of all. -/
def ask (net : Network) (timeout : Nat) (ids : Nat → TransactionId) :
    (servers : List String) → (asked : Nat) → (failure : NetworkError) → Socket →
      Except NetworkError IpAddr × Socket
  | [], _, failure, s => (.error failure, s)
  | server :: servers, asked, _, s =>
    match query net timeout (ids asked) server s with
    | (.ok mapped, s) => (.ok mapped.ip, s)
    | (.error e, s) => ask net timeout ids servers (asked + 1) e s

/-- Binds a socket and asks the servers over it. -/
def probe (net : Network) (timeout : Nat) (ids : Nat → TransactionId) (endpoint : Endpoint)
    (servers : List String) : Except NetworkError IpAddr × Socket :=
  match net.bindError? endpoint with
  | some e => (.error e, { endpoint })
  | none => ask net timeout ids servers 0 .noServer { endpoint }

/-- The behaviour of probes on a network. -/
def prober (net : Network) (timeout : Nat) (ids : Nat → TransactionId) (servers : List String) :
    Prober := fun endpoint _ =>
  match probe net timeout ids endpoint servers with
  | (.ok ip, s) => ⟨s.now, .found ip⟩
  | (.error e, s) => ⟨s.now, .failed e⟩

/-- The requests that probes, started at the instants given, have sent up to an instant: to which
server, and from which address. -/
def requestsUpTo (net : Network) (timeout : Nat) (ids : Nat → TransactionId)
    (servers : List String) (cutoff : Nat) (probes : List (Nat × Endpoint)) :
    List (Endpoint × IpAddr) :=
  probes.flatMap fun (start, endpoint) =>
    let sent := (probe net timeout ids endpoint servers).2.requests
    (sent.filter fun r => start + r.1 ≤ cutoff).map fun r => (r.2, endpoint.ip)

end Reflector

end NatDiscovery
