import SessionStream.Bytes
import SessionStream.Failure

/-!
# Peers

A peer is the far side of a connection together with the system in between: what it will deliver,
how much it will accept, and which calls will fail. A connection is made from a peer and uses it
up call by call, so a peer is also the state of a connection.

## Main definitions

- `Segment` — one piece of what a peer delivers
- `Acceptance` — the outcome of one send
- `Peer` — everything that is still to come on a connection
- `Peer.deliver` — one receive
- `Peer.accept` — one send
-/

namespace SessionStream

/-- One piece of what a peer delivers. A receive never crosses the end of a segment. -/
inductive Segment where
  /-- Bytes. An empty segment looks like the end of the data, once. -/
  | bytes (bytes : Bytes)
  /-- A failing receive. -/
  | fault (fault : Fault)
  deriving DecidableEq, Repr

/-- The outcome of one send. -/
inductive Acceptance where
  /-- At most this many bytes are accepted. -/
  | upTo (count : Nat)
  /-- The send fails. -/
  | fault (fault : Fault)
  deriving DecidableEq, Repr

/-- Everything that is still to come on a connection. -/
structure Peer where
  /-- What will be delivered; nothing after that. -/
  incoming : List Segment := []
  /-- The outcomes of the next sends; after these every send is accepted whole. -/
  acceptances : List Acceptance := []
  /-- The outcome of every change to blocking mode, if it fails. -/
  blockingFault : Option Fault := none
  /-- The outcome of every close, if it fails. -/
  closeFault : Option Fault := none
  /-- The outcome of connecting, if it fails. -/
  connectFault : Option Fault := none
  /-- The outcome of making a socket, if it fails. -/
  socketFault : Option Fault := none
  deriving DecidableEq, Repr

namespace Peer

/-- One receive of at most `limit` bytes, and the peer after it. Asking for nothing delivers
nothing and touches nothing. -/
def deliver (limit : Nat) (peer : Peer) : Except Fault Bytes × Peer :=
  if limit = 0 then (.ok [], peer)
  else
    match peer.incoming with
    | [] => (.ok [], peer)
    | .fault f :: later => (.error f, { peer with incoming := later })
    | .bytes bs :: later =>
      let kept := bs.drop limit
      (.ok (bs.take limit),
        { peer with incoming := if kept.isEmpty then later else .bytes kept :: later })

/-- One send of `length` bytes: how many of them are accepted, and the peer after it. -/
def accept (length : Nat) (peer : Peer) : Except Fault Nat × Peer :=
  match peer.acceptances with
  | [] => (.ok length, peer)
  | .upTo count :: later => (.ok (min count length), { peer with acceptances := later })
  | .fault f :: later => (.error f, { peer with acceptances := later })

/-- A call that changes nothing, and fails if there is a fault for it. -/
def comply (fault? : Peer → Option Fault) (peer : Peer) : Except Fault Unit × Peer :=
  match fault? peer with
  | none => (.ok (), peer)
  | some f => (.error f, peer)

/-- How many bytes the peer has still to deliver. -/
def undelivered (peer : Peer) : Nat :=
  (peer.incoming.flatMap fun
    | .bytes bs => bs
    | .fault _ => []).length

/-- No receive delivers more than was asked for. -/
theorem length_le_of_deliver {limit : Nat} {peer later : Peer} {bs : Bytes}
    (h : peer.deliver limit = (.ok bs, later)) : bs.length ≤ limit := by
  unfold deliver at h
  split at h
  · simp only [Prod.mk.injEq, Except.ok.injEq] at h
    simp [← h.1]
  · split at h <;> simp only [Prod.mk.injEq, Except.ok.injEq, reduceCtorEq, false_and] at h
    · simp [← h.1]
    · rw [← h.1]
      exact List.length_take_le limit _

/-- No send accepts more than was offered. -/
theorem le_of_accept {length count : Nat} {peer later : Peer}
    (h : peer.accept length = (.ok count, later)) : count ≤ length := by
  unfold accept at h
  split at h <;> simp only [Prod.mk.injEq, Except.ok.injEq, reduceCtorEq, false_and] at h
  · omega
  · omega

end Peer

end SessionStream
