import SessionStream.Failure

/-!
# Sessions

All connections of one stream belong to one session on the server. The session gets its id with
the first connection that is ready to shake hands, and keeps it.

## Main definitions

- `Session` — a direction, and an id once there is one
- `Direction.ofMode` — the direction of an opening mode, or the refusal of the mode
-/

namespace SessionStream

/-- A session of the server, as the client knows it. -/
structure Session where
  /-- The direction of all transfers in the session. -/
  direction : Direction
  /-- The id of the session, once it has one. -/
  id : Option Int := none
  deriving DecidableEq, Repr

/-- Whether the session has its id. -/
def Session.assigned (session : Session) : Bool :=
  session.id.isSome

/-- The direction of an opening mode, or the refusal of the mode. -/
def Direction.ofMode (mode : String) : Except Failure Direction :=
  match Direction.ofMode? mode with
  | some direction => .ok direction
  | none => .error (.unsupportedMode mode)

end SessionStream
