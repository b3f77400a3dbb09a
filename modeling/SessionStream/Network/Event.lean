import SessionStream.Address

/-!
# Events

Every call on the network leaves an event, with what was passed and what came back. A call that
failed has no result.

## Main definitions

- `ConnectionId` — the name of a connection
- `ConnectionId.descriptor` — the number the system knows it by
- `Event` — one call on the network
-/

namespace SessionStream

/-- A connection, by its place in the order in which connections were made. -/
structure ConnectionId where
  index : Nat
  deriving DecidableEq, Repr

/-- The number by which the system knows a connection. -/
def ConnectionId.descriptor (c : ConnectionId) : Nat :=
  100 + c.index

/-- One call on the network. -/
inductive Event where
  /-- A connection was asked for in one call. -/
  | connect (target : String) (timeout : Int) (result : Option ConnectionId)
  /-- A socket was asked for. -/
  | socket (result : Option ConnectionId)
  /-- The connect timeout of a socket was set, in milliseconds. -/
  | setTimeout (c : ConnectionId) (timeout : Int) (result : Option Unit)
  /-- A socket was asked to connect. -/
  | connectSocket (c : ConnectionId) (name : SocketName) (result : Option Unit)
  /-- A connection was put into blocking mode. -/
  | setBlocking (c : ConnectionId) (result : Option Unit)
  /-- Bytes were offered, and a number of them accepted. -/
  | send (c : ConnectionId) (offered : Bytes) (result : Option Nat)
  /-- At most `limit` bytes were asked for. -/
  | receive (c : ConnectionId) (limit : Nat) (result : Option Bytes)
  /-- At most `limit` bytes were asked for, into a buffer of the caller. -/
  | receiveInto (c : ConnectionId) (limit : Nat) (result : Option Bytes)
  /-- A connection was given up. -/
  | close (c : ConnectionId) (result : Option Unit)
  deriving DecidableEq, Repr

end SessionStream
