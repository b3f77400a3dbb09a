import SessionStream.Dialer
import SessionStream.Command
import SessionStream.Wire

/-!
# Joining a session

Every connection of a stream, for commands or for payload, comes about in the same way: connect,
put it into blocking mode, and offer the line that binds it to the session. The first connection
that gets as far as the line creates the session and thereby gives it its id; later ones resume it.
The server answers neither line.

## Main definitions

- `locate` — reads a target
- `Route` — how the connections of a stream are made
- `reach` — a connection to an address
- `Session.introduction` — the line for the next connection of a session
- `Session.join` — a connection bound to the session

## Design notes

A connection that fails after it was made is closed before the failure is passed on, unless the
failure is the wrong use of a value. If that close fails too, its failure takes the place of the
first one. An id that was handed out stays with the session even if the line is not accepted.
-/

namespace SessionStream

/-- How the connections of a stream are made. -/
structure Route where
  /-- How a connection comes about. -/
  dialer : Dialer
  /-- Where the session takes its id from. -/
  ids : IdSource
  deriving DecidableEq, Repr

/-- Reads a target, and reports what it names. -/
def locate (target : Word) : Act Host Address := do
  let address ← Act.ofExcept target.address
  Host.write .debug .address ("Open file name " ++ address.target)
  if address.isAbstract then
    Host.write .debug .address ("Detect abstract domain socket " ++ address.abstractName)
  pure address

/-- A connection to an address. Every system failure on the way there says that the address cannot
be connected to. -/
def reach (dialer : Dialer) (address : Address) (timeout : Int) : Act Host ConnectionId :=
  (dialer.dial address timeout).rescue fun e =>
    throw (if e.isUnreachable then e else .cannotConnect address.target e)

/-- Runs a step in the making of a connection. If it ends with a system failure, the connection is
closed. -/
def orGiveUp (c : ConnectionId) (step : String) (act : Act Host Unit) : Act Host Unit :=
  act.rescue fun e => do
    Host.write .error .joining s!"Close {c.descriptor} because {step} failed"
    Network.close c
    throw e

namespace Session

/-- The command that binds the next connection to the session, which gets its id here if it has
none yet. An id that is too long to be written down stays with the session all the same. -/
def introduction (source : IdSource) : Act (Held Session) Command := do
  let session := (← get).own
  match session.id with
  | some id =>
    Act.ofExcept (Command.requireWritable (.runSession id))
    Host.write .info .joining s!"Run session {id}"
    pure (.runSession id)
  | none =>
    let id ← Host.nextSessionId source
    modify fun held => { held with own := { session with id := some id } }
    Act.ofExcept (Command.requireWritable (.newSession session.direction id))
    Host.write .info .joining s!"Create session {session.direction.word} {id}"
    pure (.newSession session.direction id)

/-- A connection bound to the session. -/
def join (route : Route) (address : Address) (timeout : Int) :
    Act (Held Session) ConnectionId := do
  Host.write .debug .joining "Opening new connection"
  let c ← reach route.dialer address timeout
  orGiveUp c "setblocking" (Network.setBlocking c)
  let command ← introduction route.ids
  orGiveUp c command.word (Wire.transmit c command.line)
  Host.write .debug .joining s!"Opened connection {c.descriptor}"
  pure c

end Session

end SessionStream
