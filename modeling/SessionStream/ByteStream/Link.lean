import SessionStream.Session.Join
import SessionStream.Timeout
import SessionStream.Buffer
import SessionStream.Origin

/-!
# Open streams

An open stream holds a control connection for its whole life. Payload moves on a data connection
that is made when the first byte is wanted, at the position of that moment, and given up when a
seek moves the position.

## Main definitions

- `Settings` — what a stream was asked to be, and what it finds on its machine
- `Link` — what a stream holds while it is open
- `Link.dataConnection` — the data connection at the position, made if there is none
- `Link.receive`, `Link.read` — reading
- `Link.write` — writing
- `Link.stat`, `Link.seek` — the size, and moves

## Design notes

A reply that is too long, or that refuses a transfer, leaves the control connection at a place in
the conversation that is not known. `Link.outOfStep` keeps the first such failure, and every later
operation is refused on account of it.

All operations run on the link together with the host, and keep what they have done when they
fail. `Link.receive` gives a list that is not empty, so a caller that gathers bytes in a loop gets
closer to its end with every turn.
-/

namespace SessionStream

/-- What a stream was asked to be, and what it finds on its machine. -/
structure Settings where
  /-- The target, as the caller wrote it. -/
  target : Word
  /-- The timeout of every connect. -/
  timeout : Timeout := {}
  /-- How the connections are made. -/
  route : Route
  /-- The most bytes that the machine has room for at once. -/
  memory : Nat := Buffer.indexBound
  deriving DecidableEq, Repr

/-- What a stream holds while it is open. -/
structure Link where
  /-- What the stream was asked to be. -/
  settings : Settings
  /-- The session of all its connections. -/
  session : Session
  /-- Where its connections go. -/
  address : Address
  /-- The connection for commands and replies. -/
  control : ConnectionId
  /-- The connection for payload, if there is one. -/
  data : Option ConnectionId := none
  /-- Where the next byte of payload belongs. -/
  position : Nat := 0
  /-- The failure that left the control connection at an unknown place. -/
  outOfStep : Option Failure := none
  deriving DecidableEq, Repr

/-- Bytes, at least one. -/
abbrev Chunk := { bs : Bytes // bs ≠ [] }

namespace Link

/-- How many bytes are asked for at once if the caller does not say. -/
def defaultReadSize : Nat := 65536

-- ════════════════════════════════════════════════════════════════════════
-- Checks
-- ════════════════════════════════════════════════════════════════════════

/-- Writes a record of this part of the library. -/
def note (level : Log.Level) (message : String) : Act (Held Link) Unit :=
  Host.write level .stream message

/-- Replaces the link. -/
def update (f : Link → Link) : Act (Held Link) Unit :=
  modify fun held => { held with own := f held.own }

/-- Refuses a link whose control connection is at an unknown place. -/
def requireUsable : Act (Held Link) Unit := do
  match (← get).own.outOfStep with
  | none => pure ()
  | some cause => throw (.unusable cause)

/-- Refuses a link of the other direction, with a complaint in the log. -/
def requireDirection (wanted : Direction) (complaint : String) : Act (Held Link) Unit := do
  let direction := (← get).own.session.direction
  if direction ≠ wanted then
    note .critical complaint
    throw (.openedFor direction)

/-- Ends an exchange that leaves the control connection at an unknown place. -/
def fallOutOfStep {α : Type} (cause : Failure) : Act (Held Link) α := do
  note .error s!"Stream {(← get).own.settings.target.shown} unusable: {cause.message}"
  update fun link => { link with outOfStep := some cause }
  throw cause

-- ════════════════════════════════════════════════════════════════════════
-- Exchanges on the control connection
-- ════════════════════════════════════════════════════════════════════════

/-- Sends a command. -/
def say (command : Command) : Act (Held Link) Unit := do
  Wire.transmit (← get).own.control command.line

/-- Reads the reply to a command. -/
def hear : Act (Held Link) String := do
  let control := (← get).own.control
  tryCatch (Wire.receiveReply control Reply.limit : Act Network String) fun
    | .replyTooLong limit => fallOutOfStep (.replyTooLong limit)
    | e => throw e

/-- Announces a transfer at the position, and waits for its admission. -/
def announce : Act (Held Link) Unit := do
  let link := (← get).own
  Act.ofExcept (Command.requireWritable (.transfer link.session.direction link.position))
  note .info s!"cmd: {link.session.direction.word} {link.position}"
  say (.transfer link.session.direction link.position)
  let reply ← hear
  match Reply.requireAdmission reply with
  | .ok () => pure ()
  | .error refusal =>
    note .critical ("Not ok " ++ reply)
    fallOutOfStep refusal

/-- One more connection of the session. -/
def newConnection : Act (Held Link) ConnectionId := do
  let link := (← get).own
  Held.zoom session (fun session link => { link with session })
    (Session.join link.settings.route link.address link.settings.timeout.effective)

/-- The data connection at the position, made if there is none. -/
def dataConnection : Act (Held Link) ConnectionId := do
  match (← get).own.data with
  | some c => pure c
  | none =>
    announce
    let c ← newConnection
    update fun link => { link with data := some c }
    pure c

-- ════════════════════════════════════════════════════════════════════════
-- Payload
-- ════════════════════════════════════════════════════════════════════════

/-- The end of the stream as a failure. It names the position. -/
def endOfStream (position : Nat) : Failure :=
  .quoting position (.streamEnded position)

/-- Receives once, at most `limit` bytes. To receive nothing is the end of the stream. -/
def receive (limit : Nat) : Act (Held Link) Chunk := do
  requireUsable
  requireDirection .read "Invalid state: not in reading mode"
  let c ← dataConnection
  let bytes ← Network.receiveInto c limit
  if some : bytes ≠ [] then
    update fun link => { link with position := link.position + bytes.length }
    pure ⟨bytes, some⟩
  else
    throw (endOfStream (← get).own.position)

/-- Receives once, at most `wanted` bytes; no bytes at the end of the stream, and if none are
wanted. -/
def read (wanted : Nat) : Act (Held Link) Bytes := do
  if wanted = 0 then
    requireUsable
    pure []
  else
    tryCatch (Subtype.val <$> receive wanted) fun
      | .streamEnded _ => pure []
      | e => throw e

/-- Sends once; the value is how many bytes were accepted. -/
def write (data : Bytes) : Act (Held Link) Nat := do
  requireUsable
  requireDirection .write "Invalid state: in reading mode"
  let c ← dataConnection
  let count ← Network.send c data
  update fun link => { link with position := link.position + count }
  pure count

-- ════════════════════════════════════════════════════════════════════════
-- Size and moves
-- ════════════════════════════════════════════════════════════════════════

/-- The size, as the server reports it now. -/
def stat : Act (Held Link) Int := do
  requireUsable
  note .info "cmd: stat"
  say .stat
  note .info "reading stat reply"
  let reply ← hear
  note .info ("rep: stat " ++ reply)
  Act.ofExcept (Reply.size reply)

/-- Gives the data connection up. It is gone even if its close fails. -/
def releaseData : Act (Held Link) Unit := do
  match (← get).own.data with
  | none => pure ()
  | some c =>
    update fun link => { link with data := none }
    note .debug s!"Close {c.descriptor}"
    Network.close c

/-- Moves to a position. The data connection survives a move that goes nowhere. -/
def moveTo (target : Int) : Act (Held Link) Nat := do
  if target < 0 then throw (.quoting target (.negativePosition target))
  let position := target.toNat
  if position ≠ (← get).own.position then releaseData
  update fun link => { link with position }
  pure position

/-- Moves by an offset from an origin, which is named by its number, and gives the new position;
or gives the size and moves nothing. -/
def seek (offset : Int) (code : Int) : Act (Held Link) Int := do
  requireUsable
  let position := (← get).own.position
  match Origin.ofCode? code with
  | none =>
    note .critical s!"Invalid whence {code}"
    throw (.quoting code (.unknownOrigin code))
  | some .size => stat
  | some .start =>
    note .info s!"SEEK_SET {position} {offset}"
    Int.ofNat <$> moveTo offset
  | some .current =>
    note .info s!"SEEK_CUR {position} {offset}"
    Int.ofNat <$> moveTo (position + offset)
  | some .finish =>
    let size ← stat
    note .info s!"SEEK_END {position} {offset} {size}"
    if size < 0 then throw (.negativeSize size)
    Int.ofNat <$> moveTo (size + offset)

/-- Gives both connections up. A system failure in the close of the data connection is only
reported. -/
def release (link : Link) : Act Host Unit := do
  if let some c := link.data then
    Host.write .debug .stream s!"Close {c.descriptor}"
    Act.rescue (Network.close c : Act Network Unit) fun e =>
      Host.write .warning .stream ("Failed to close data connection: " ++ e.message)
  Host.write .debug .stream s!"Close {link.control.descriptor}"
  Network.close link.control

end Link

end SessionStream
