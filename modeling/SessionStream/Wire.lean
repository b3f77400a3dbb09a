import SessionStream.Network.Basic
import SessionStream.Reply

/-!
# Lines on the wire

A line goes out with as many sends as it takes. A reply comes in one byte at a time, so that
nothing behind the end of its line is taken from the connection.

## Main definitions

- `Wire.transmit` — sends every byte, or fails
- `Wire.receiveReply` — reads one line within a limit
-/

namespace SessionStream.Wire

/-- Sends all of `data`, offering after each send what has not been accepted yet. A send that
accepts nothing means that the peer is gone. -/
def transmit (c : ConnectionId) : Bytes → Act Network Unit
  | [] => pure ()
  | b :: later => do
    match ← Network.send c (b :: later) with
    | 0 => throw .peerClosed
    | count + 1 => transmit c (later.drop count)
termination_by data => data.length
decreasing_by
  simp only [List.length_drop, List.length_cons]
  omega

/-- Reads bytes up to the end of a line, at most `room` of them with that end; `line` is what has
been read of the line. -/
def receiveLine (c : ConnectionId) (limit : Int) : Nat → Bytes → Act Network Bytes
  | 0, _ => throw (.quoting limit (.replyTooLong limit))
  | room + 1, line => do
    match ← Network.receive c 1 with
    | [] => throw .replyCut
    | b :: _ => if b = Reply.lineEnd then pure line else receiveLine c limit room (line ++ [b])

/-- Reads one reply of at most `limit` bytes with the end of its line, and gives its text without
that end. -/
def receiveReply (c : ConnectionId) (limit : Int) : Act Network String := do
  let line ← receiveLine c limit limit.toNat []
  pure (asciiText line)

end SessionStream.Wire
