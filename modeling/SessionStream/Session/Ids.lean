import SessionStream.Failure

/-!
# Session ids

Ids are handed out in increasing order from a counter that remembers the last one.

## Main definitions

- `SessionIds` — the counter
- `SessionIds.startingAt` — a counter whose first id is given
- `SessionIds.next` — the next id, and the counter after it
-/

namespace SessionStream

/-- A counter of session ids. -/
structure SessionIds where
  /-- The id handed out last, or the number before the first id. -/
  last : Nat := 0
  deriving DecidableEq, Repr

namespace SessionIds

/-- A counter whose first id is `start`. Ids are positive. -/
def startingAt (start : Int) : Except Failure SessionIds :=
  if start < 1 then .error .nonPositiveIds else .ok { last := (start - 1).toNat }

/-- The next id. -/
def next (ids : SessionIds) : Nat :=
  ids.last + 1

/-- The counter after its next id has been handed out. -/
def advance (ids : SessionIds) : SessionIds :=
  { last := ids.next }

end SessionIds

end SessionStream
