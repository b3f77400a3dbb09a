/-!
# Direction of a stream

A stream either reads or writes, for its whole life.

## Main definitions

- `Direction` — reading or writing
- `Direction.word` — the direction as a word of the line protocol
- `Direction.ofMode?` — the direction that an opening mode asks for
-/

namespace SessionStream

/-- Which way the payload of a stream flows, seen from the client. -/
inductive Direction where
  | read
  | write
  deriving DecidableEq, Repr

namespace Direction

/-- The word for a direction in commands and descriptions. -/
def word : Direction → String
  | read => "read"
  | write => "write"

/-- The direction of an opening mode: a short mode with or without the mark for binary data, or
the direction's own word. -/
def ofMode? (mode : String) : Option Direction :=
  if mode ∈ ["r", "rb", "read"] then some read
  else if mode ∈ ["w", "wb", "write"] then some write
  else none

end Direction

end SessionStream
