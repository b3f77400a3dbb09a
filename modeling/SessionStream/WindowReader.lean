import SessionStream.ByteStream.Basic

/-!
# Readers of windows

A reader serves exact windows of the data behind a stream that reads. Windows that follow one
another use the same data connection; any other start makes the stream connect anew.

## Main definitions

- `Tally` — what a reader has done so far
- `WindowReader` — a stream and the tally of the reader on it
- `WindowReader.fetch` — one window
- `WindowReader.size` — the size of the data
-/

namespace SessionStream

/-- What a reader has done so far. -/
structure Tally where
  /-- The bytes of all windows that were served. -/
  bytesFetched : Nat := 0
  /-- All windows that were asked for, also those that were not served. -/
  requestsMade : Nat := 0
  deriving DecidableEq, Repr

/-- A stream that reads, and the tally of the reader on it. -/
structure WindowReader where
  stream : ByteStream
  tally : Tally := {}
  deriving DecidableEq, Repr

namespace WindowReader

/-- A reader on a stream. The stream has to read. -/
def onStream (stream : ByteStream) : Except Failure WindowReader :=
  if stream.direction = .read then .ok { stream } else .error .readerNeedsReading

/-- An operation of the stream under the reader. -/
def onOwnStream {α : Type} (act : Act (Held ByteStream) α) : Act (Held WindowReader) α :=
  Held.zoom stream (fun stream reader => { reader with stream }) act

/-- Changes the tally. -/
def count (f : Tally → Tally) : Act (Held WindowReader) Unit :=
  modify fun held => { held with own := { held.own with tally := f held.own.tally } }

/-- Receives until `missing` bytes are there; `got` is what came before them. The end of the
stream inside the window, which starts at `start`, is a failure. -/
def gather (start missing : Nat) (got : Bytes) : Act (Held ByteStream) Bytes :=
  if missing = 0 then pure got
  else do
    let chunk ← tryCatch (ByteStream.receive missing) fun
      | .streamEnded _ => throw (.notEnoughData (got.length + missing) start got.length)
      | e => throw e
    gather start (missing - chunk.val.length) (got ++ chunk.val)
termination_by missing
decreasing_by
  have := List.length_pos_iff.2 chunk.property
  omega

/-- The `length` bytes that start at `start`. Room for them is made when the stream has moved. -/
def fetch (start length : Int) : Act (Held WindowReader) Bytes := do
  count fun tally => { tally with requestsMade := tally.requestsMade + 1 }
  if start < 0 then throw .negativeStart
  if length ≤ 0 then throw .nonPositiveLength
  let window ← onOwnStream do
    discard <| ByteStream.seek start Origin.start.code
    ByteStream.reserve length.toNat
    gather start.toNat length.toNat []
  count fun tally => { tally with bytesFetched := tally.bytesFetched + window.length }
  pure window

/-- The size of the data, as the server reports it now. -/
def size : Act (Held WindowReader) Int :=
  onOwnStream (ByteStream.seek 0 Origin.size.code)

/-- Closes the stream. -/
def close : Act (Held WindowReader) Unit :=
  onOwnStream ByteStream.close

end WindowReader

end SessionStream
