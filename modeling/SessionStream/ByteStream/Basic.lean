import SessionStream.ByteStream.Link

/-!
# Byte streams

A readable or writable stream of bytes behind a local socket. A stream is made unopened, is opened
at most once and is closed at most once; what it holds depends on where it is in this life, and the
type says so.

## Main definitions

- `ByteStream` — a stream in one of its three states
- `ByteStream.ofMode` — an unopened stream
- `ByteStream.connect` — opens the stream
- `ByteStream.whileOpen` — an operation that only an open stream has
- `ByteStream.reserve` — makes room for bytes
- `ByteStream.read`, `ByteStream.receive`, `ByteStream.write`, `ByteStream.seek`,
  `ByteStream.stat`, `ByteStream.descriptor` — the operations of an open stream
- `ByteStream.close` — closes the stream
- `ByteStream.description` — one line about the stream
-/

namespace SessionStream

/-- A stream, with what it holds in its present state. -/
inductive ByteStream where
  /-- The stream has never been open. Its session may have an id from a failed attempt. -/
  | unopened (settings : Settings) (session : Session)
  /-- The stream is open. -/
  | opened (link : Link)
  /-- The stream has been closed; it still knows where it was. -/
  | closed (settings : Settings) (session : Session) (address : Address) (position : Nat)
  deriving DecidableEq, Repr

namespace ByteStream

/-- An unopened stream of the direction that the mode asks for. -/
def ofMode (settings : Settings) (mode : String) : Except Failure ByteStream :=
  (Direction.ofMode mode).map fun direction => unopened settings { direction }

-- ════════════════════════════════════════════════════════════════════════
-- What can be asked in every state
-- ════════════════════════════════════════════════════════════════════════

/-- The phase of a stream. -/
def phase : ByteStream → StreamPhase
  | unopened .. => .unopened
  | opened _ => .opened
  | closed .. => .closed

/-- What the stream was asked to be. -/
def settings : ByteStream → Settings
  | unopened settings _ => settings
  | opened link => link.settings
  | closed settings .. => settings

/-- The session of the stream. -/
def session : ByteStream → Session
  | unopened _ session => session
  | opened link => link.session
  | closed _ session .. => session

/-- The direction of the stream. -/
def direction (stream : ByteStream) : Direction :=
  stream.session.direction

/-- The address of the stream, which it has from the moment it is open. -/
def address : ByteStream → Option Address
  | unopened .. => none
  | opened link => some link.address
  | closed _ _ address _ => some address

/-- Where the next byte of payload belongs. -/
def position : ByteStream → Nat
  | unopened .. => 0
  | opened link => link.position
  | closed _ _ _ position => position

/-- The data connection, if the stream holds one. -/
def data : ByteStream → Option ConnectionId
  | opened link => link.data
  | _ => none

/-- The control connection, if the stream holds one. -/
def control : ByteStream → Option ConnectionId
  | opened link => some link.control
  | _ => none

/-- The failure that makes an open stream unusable, if there is one. -/
def outOfStep : ByteStream → Option Failure
  | opened link => link.outOfStep
  | _ => none

/-- Whether the stream is not open. -/
def isClosed (stream : ByteStream) : Bool :=
  stream.phase ≠ .opened

/-- One line about the stream, with its id and its position. A number in it may be too long to be
written down. -/
def description (stream : ByteStream) : Except Failure String :=
  if (∀ id ∈ stream.session.id, Text.Writable id) ∧ Text.Writable stream.position then
    .ok ("<UnixYStream target=" ++ stream.settings.target.quoted ++
      s!" mode={stream.direction.word} session=" ++
      (stream.session.id.map toString).getD "None" ++
      s!" pos={stream.position} state={stream.phase.word}>")
  else .error .numberTooLong

-- ════════════════════════════════════════════════════════════════════════
-- Opening and closing
-- ════════════════════════════════════════════════════════════════════════

/-- The link of a stream that is being opened: its address, and a control connection that has
created the session. -/
def establish (settings : Settings) : Act (Held Session) Link := do
  let address ← locate settings.target
  let control ← Session.join settings.route address settings.timeout.effective
  pure { settings, session := (← get).own, address, control }

/-- Opens the stream. A stream that cannot be opened stays unopened and may be opened again. -/
def connect : Act (Held ByteStream) Unit := fun held =>
  match held.own with
  | unopened settings session =>
    match establish settings ⟨session, held.host⟩ with
    | .ok link after => .ok () ⟨opened link, after.host⟩
    | .error e after => .error e ⟨unopened settings after.own, after.host⟩
  | stream => .error (.alreadyOpened stream.phase) held

/-- Closes the stream, if it is open. It is closed even if giving its connections up fails. -/
def close : Act (Held ByteStream) Unit := fun held =>
  match held.own with
  | opened link =>
    let stream := closed link.settings link.session link.address link.position
    (link.release : Act (Held ByteStream) Unit) ⟨stream, held.host⟩
  | _ => .ok () held

-- ════════════════════════════════════════════════════════════════════════
-- The operations of an open stream
-- ════════════════════════════════════════════════════════════════════════

/-- An operation that only an open stream has. -/
def whileOpen {α : Type} (act : Act (Held Link) α) : Act (Held ByteStream) α := fun held =>
  match held.own with
  | opened link =>
    match act ⟨link, held.host⟩ with
    | .ok a after => .ok a ⟨opened after.own, after.host⟩
    | .error e after => .error e ⟨opened after.own, after.host⟩
  | stream => .error (.notOpen stream.phase) held

/-- Receives once, at most `limit` bytes and at least one. -/
def receive (limit : Nat) : Act (Held ByteStream) Chunk :=
  whileOpen (Link.receive limit)

/-- Makes room for `size` bytes, whatever the state of the stream. -/
def reserve (size : Nat) : Act (Held ByteStream) Unit := do
  Act.ofExcept (Buffer.reserve (← get).own.settings.memory size)

/-- How many bytes a read wants: a missing or negative size stands for the default. -/
def wantedSize : Option Int → Nat
  | some n => if n < 0 then Link.defaultReadSize else n.toNat
  | none => Link.defaultReadSize

/-- Receives once; no bytes at the end of the stream. Room for the bytes is made first. -/
def read (size : Option Int) : Act (Held ByteStream) Bytes := do
  reserve (wantedSize size)
  whileOpen (Link.read (wantedSize size))

/-- Sends once; the value is how many bytes were accepted. -/
def write (data : Bytes) : Act (Held ByteStream) Nat :=
  whileOpen (Link.write data)

/-- The size, as the server reports it now. -/
def stat : Act (Held ByteStream) Int :=
  whileOpen Link.stat

/-- Moves by an offset from the origin with the number `code`, or asks for the size. -/
def seek (offset : Int) (code : Int) : Act (Held ByteStream) Int :=
  whileOpen (Link.seek offset code)

/-- The number by which the system knows the control connection. -/
def descriptor : Act (Held ByteStream) Nat :=
  whileOpen do pure (← get).own.control.descriptor

end ByteStream

end SessionStream
