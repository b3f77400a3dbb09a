import SessionStream.Network.Event
import SessionStream.Network.Peer
import SessionStream.Action
import SessionStream.Timeout

/-!
# The network

Connections, and the peers that wait for a connect. Each attempt to connect takes the first waiting
peer; when none is left, the peer is one that accepts everything and delivers nothing. All calls
are recorded.

## Main definitions

- `Network` — waiting peers, connections, and the record of all calls
- `Network.connect` — a connection in one call
- `Network.openSocket`, `Network.setTimeout`, `Network.connectSocket` — a connection by way of a
  socket
- `Network.setBlocking`, `Network.send`, `Network.receive`, `Network.receiveInto`,
  `Network.close` — the calls on a connection
-/

namespace SessionStream

/-- The network as one client sees it. -/
structure Network where
  /-- The peers of the next attempts to connect. -/
  waiting : List Peer := []
  /-- What is still to come on each connection made so far. -/
  connections : List Peer := []
  /-- All calls so far, the earliest first. -/
  trace : List Event := []
  deriving DecidableEq, Repr

namespace Network

-- ════════════════════════════════════════════════════════════════════════
-- Parts of the state
-- ════════════════════════════════════════════════════════════════════════

/-- The network with one more call on record. -/
def record (event : Event) (net : Network) : Network :=
  { net with trace := net.trace ++ [event] }

/-- The peer of a connection. -/
def peer (net : Network) (c : ConnectionId) : Peer :=
  net.connections.getD c.index {}

/-- The network with another peer on a connection. -/
def setPeer (c : ConnectionId) (peer : Peer) (net : Network) : Network :=
  { net with connections := net.connections.set c.index peer }

/-- The peer of the next attempt to connect. -/
def nextPeer (net : Network) : Peer :=
  net.waiting.headD {}

/-- The network after its next peer has been taken. -/
def dropPeer (net : Network) : Network :=
  { net with waiting := net.waiting.tail }

/-- The name of the next connection. -/
def nextId (net : Network) : ConnectionId :=
  ⟨net.connections.length⟩

/-- The network with one more connection. -/
def addConnection (peer : Peer) (net : Network) : Network :=
  { net with connections := net.connections ++ [peer] }

/-- The network with more peers waiting. -/
def enqueue (peers : List Peer) (net : Network) : Network :=
  { net with waiting := net.waiting ++ peers }

/-- The network with more to come on a connection. -/
def feed (c : ConnectionId) (segments : List Segment) (net : Network) : Network :=
  let peer := net.peer c
  net.setPeer c { peer with incoming := peer.incoming ++ segments }

/-- How many bytes the network has still to deliver, on all connections together. -/
def undelivered (net : Network) : Nat :=
  ((net.connections ++ net.waiting).map Peer.undelivered).foldr (· + ·) 0

/-- How many sends have an outcome laid down for them, on all connections together. -/
def pendingSends (net : Network) : Nat :=
  ((net.connections ++ net.waiting).flatMap Peer.acceptances).length

-- ════════════════════════════════════════════════════════════════════════
-- Making connections
-- ════════════════════════════════════════════════════════════════════════

/-- Asks for a connection in one call. Without success there is no connection. -/
def connect (address : Address) (timeout : Int) : Act Network ConnectionId := fun net =>
  let peer := net.nextPeer
  let taken := net.dropPeer
  match peer.connectFault with
  | some f => .error (.fault f) (taken.record (.connect address.target timeout none))
  | none =>
    .ok net.nextId
      ((taken.addConnection peer).record (.connect address.target timeout (some net.nextId)))

/-- Asks for a socket. The socket is a connection, though it cannot be used before it has been
connected. -/
def openSocket : Act Network ConnectionId := fun net =>
  let peer := net.nextPeer
  let taken := net.dropPeer
  match peer.socketFault with
  | some f => .error (.fault f) (taken.record (.socket none))
  | none => .ok net.nextId ((taken.addConnection peer).record (.socket (some net.nextId)))

/-- Sets the connect timeout of a socket, which takes the timeouts of a range. A socket that refuses
its timeout stays as it is. -/
def setTimeout (range : Timeout.Range) (c : ConnectionId) (timeout : Int) : Act Network Unit :=
  fun net =>
    match range.refusal? timeout with
    | none => .ok () (net.record (.setTimeout c timeout (some ())))
    | some e => .error e (net.record (.setTimeout c timeout none))

-- ════════════════════════════════════════════════════════════════════════
-- Calls on a connection
-- ════════════════════════════════════════════════════════════════════════

/-- A call on a connection: what the peer makes of it, recorded as the event of the result. -/
def call {α : Type} (c : ConnectionId) (event : Option α → Event)
    (answer : Peer → Except Fault α × Peer) : Act Network α := fun net =>
  match answer (net.peer c) with
  | (.ok a, peer) => .ok a ((net.setPeer c peer).record (event (some a)))
  | (.error f, peer) => .error (.fault f) ((net.setPeer c peer).record (event none))

/-- Connects a socket. -/
def connectSocket (c : ConnectionId) (name : SocketName) : Act Network Unit :=
  call c (.connectSocket c name) (Peer.comply Peer.connectFault)

/-- Puts a connection into blocking mode. -/
def setBlocking (c : ConnectionId) : Act Network Unit :=
  call c (.setBlocking c) (Peer.comply Peer.blockingFault)

/-- Offers bytes once; the value is how many of them were accepted. -/
def send (c : ConnectionId) (data : Bytes) : Act Network Nat :=
  call c (.send c data) (Peer.accept data.length)

/-- Asks once for at most `limit` bytes. -/
def receive (c : ConnectionId) (limit : Nat) : Act Network Bytes :=
  call c (.receive c limit) (Peer.deliver limit)

/-- Asks once for at most `limit` bytes, for a buffer of the caller. -/
def receiveInto (c : ConnectionId) (limit : Nat) : Act Network Bytes :=
  call c (.receiveInto c limit) (Peer.deliver limit)

/-- Gives a connection up. A failing close has no other effect. -/
def close (c : ConnectionId) : Act Network Unit :=
  call c (.close c) (Peer.comply Peer.closeFault)

end Network

end SessionStream
