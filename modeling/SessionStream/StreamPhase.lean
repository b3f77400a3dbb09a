/-!
# Phases of a stream

A stream is made unopened, is opened at most once and is closed at most once.

## Main definitions

- `StreamPhase` — the three phases
- `StreamPhase.word` — the name of a phase in messages
-/

namespace SessionStream

/-- Where a stream is in its life. -/
inductive StreamPhase where
  | unopened
  | opened
  | closed
  deriving DecidableEq, Repr

namespace StreamPhase

/-- The name of a phase in messages and descriptions. -/
def word : StreamPhase → String
  | unopened => "unopened"
  | opened => "open"
  | closed => "closed"

end StreamPhase

end SessionStream
