import SessionStream.ByteStream.Basic
import SessionStream.CommandLine.Files

/-!
# The work of a command

A command works with one stream and remembers what it has done: the bytes it has copied, or how
many it has written.

## Main definitions

- `Working` — a stream, and the work of a command on it
- `Working.during` — opens, works, closes
- `Working.permit` — a step that the system may refuse
- `Working.copyOut` — reads a range of a stream
- `Working.upload` — writes a source into a stream

## Design notes

The loops take as many turns as the network lets them. Each turn of `copyOut` but the last takes a
byte from what the peers have still to deliver, and each turn of `push` takes either a byte from the
data or an outcome from those laid down for sends, so the counts that they start from are enough.
-/

namespace SessionStream

/-- A stream, and the work of a command on it. -/
structure Working (τ : Type) where
  stream : ByteStream
  /-- What the command has done so far. -/
  work : τ
  deriving DecidableEq, Repr

namespace Working

variable {τ α : Type}

/-- An operation of the stream. -/
def onStream (act : Act (Held ByteStream) α) : Act (Held (Working τ)) α :=
  Held.zoom stream (fun stream working => { working with stream }) act

/-- Changes the work. -/
def advance (f : τ → τ) : Act (Held (Working τ)) Unit :=
  modify fun held => { held with own := { held.own with work := f held.own.work } }

/-- Opens the stream, runs `body`, and closes the stream, also after a failure of `body`. A failing
close takes the place of how `body` ended. -/
def during (body : Act (Held (Working τ)) α) : Act (Held (Working τ)) α := do
  onStream ByteStream.connect
  let outcome : Except Failure α ← tryCatch (Except.ok <$> body) fun e => pure (.error e)
  onStream ByteStream.close
  Act.ofExcept outcome

/-- Moves the stream to an offset, unless that is the start. -/
def startAt (offset : Nat) : Act (Held (Working τ)) Unit := do
  if offset ≠ 0 then discard <| onStream (ByteStream.seek offset Origin.start.code)

/-- Goes on, unless the system refuses to. -/
def permit (refusal : Option Refusal) : Act (Held (Working τ)) Unit :=
  Act.ofExcept (permitted refusal)

-- ════════════════════════════════════════════════════════════════════════
-- Copying out
-- ════════════════════════════════════════════════════════════════════════

/-- Reads until `remaining` bytes are there or the stream ends, in at most `turns` turns. What comes
of handing the bytes on is laid down in `writes`; the work is what was taken. -/
def copyTurns : Nat → Option Nat → List (Option Refusal) → Act (Held (Working Bytes)) Unit
  | 0, _, _ => pure ()
  | turns + 1, remaining, writes =>
    if remaining = some 0 then pure ()
    else do
      let size := (remaining.map (min · Link.defaultReadSize)).getD Link.defaultReadSize
      let chunk ← onStream (ByteStream.read (some size))
      if chunk.isEmpty then pure ()
      else do
        permit (writes.headD none)
        advance (· ++ chunk)
        copyTurns turns (remaining.map (· - chunk.length)) writes.tail

/-- Copies `length` bytes, or all there are. -/
def copyOut (length : Option Nat) (writes : List (Option Refusal)) :
    Act (Held (Working Bytes)) Unit := do
  copyTurns ((← get).host.network.undelivered + 1) length writes

-- ════════════════════════════════════════════════════════════════════════
-- Uploading
-- ════════════════════════════════════════════════════════════════════════

/-- Writes all of `data`, in at most `turns` turns; the work counts the bytes written. -/
def pushTurns : Nat → Bytes → Act (Held (Working Nat)) Unit
  | 0, _ => pure ()
  | turns + 1, data =>
    if data.isEmpty then pure ()
    else do
      let count ← onStream (ByteStream.write data)
      advance (· + count)
      pushTurns turns (data.drop count)

/-- Writes all of `data`. -/
def push (data : Bytes) : Act (Held (Working Nat)) Unit := do
  pushTurns (data.length + (← get).host.network.pendingSends + 1) data

/-- How many bytes of a source are taken up at once. -/
def pieceSize : Nat := 65536

/-- Writes all of a source, piece by piece. Behind its last byte the source ends, or cannot be read
on. -/
def upload (source : Bytes) (fault : Option Refusal) : Act (Held (Working Nat)) Unit :=
  match source with
  | [] => permit fault
  | b :: later => do
    push ((b :: later).take pieceSize)
    upload ((b :: later).drop pieceSize) fault
termination_by source.length
decreasing_by
  simp only [List.length_drop, List.length_cons, pieceSize]
  omega

end Working

end SessionStream
