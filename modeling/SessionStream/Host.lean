import SessionStream.Network.Basic
import SessionStream.Session.Ids
import SessionStream.Log

/-!
# The host

What all streams of a program share: the network, the counters of session ids, and the log.

## Main definitions

- `IdSource` — which of the two counters a stream takes its session id from
- `Host` — the shared state
- `Held` — something a caller owns, together with the host
- `Host.log` — writes a record
-/

namespace SessionStream

/-- Which counter a session takes its id from. -/
inductive IdSource where
  /-- A counter that the caller hands over. -/
  | given
  /-- The counter of the program, used where none is handed over. -/
  | shared
  deriving DecidableEq, Repr

/-- What all streams of a program share. -/
structure Host where
  /-- The network. -/
  network : Network := {}
  /-- The counter that callers hand over. -/
  givenIds : SessionIds := {}
  /-- The counter of the program. -/
  sharedIds : SessionIds := {}
  /-- All records so far, the earliest first. -/
  log : List Log.Entry := []
  deriving DecidableEq, Repr

/-- Something a caller owns, together with the host it uses. -/
structure Held (σ : Type) where
  /-- What the caller owns. -/
  own : σ
  /-- The host. -/
  host : Host
  deriving DecidableEq, Repr

namespace Host

/-- The counter behind a source of ids. -/
def ids (host : Host) : IdSource → SessionIds
  | .given => host.givenIds
  | .shared => host.sharedIds

/-- The host with another counter behind a source of ids. -/
def setIds (source : IdSource) (ids : SessionIds) (host : Host) : Host :=
  match source with
  | .given => { host with givenIds := ids }
  | .shared => { host with sharedIds := ids }

/-- Hands out the next id of a source. -/
def nextSessionId (source : IdSource) : Act Host Nat := do
  let ids := (← get).ids source
  modify (setIds source ids.advance)
  pure ids.next

/-- Writes a record. -/
def write (level : Log.Level) (source : Log.Source) (message : String) : Act Host Unit :=
  modify fun host => { host with log := host.log ++ [⟨level, source, message⟩] }

end Host

instance : MonadLift (Act Network) (Act Host) where
  monadLift act := act.zoom Host.network fun network host => { host with network }

instance {σ : Type} : MonadLift (Act Host) (Act (Held σ)) where
  monadLift act := act.zoom Held.host fun host held => { held with host }

/-- An action on a part of what a caller owns, as an action on all of it. -/
def Held.zoom {σ τ α : Type} (part : σ → τ) (put : τ → σ → σ) (act : Act (Held τ) α) :
    Act (Held σ) α :=
  Act.zoom (fun held => ⟨part held.own, held.host⟩)
    (fun inner held => ⟨put inner.own held.own, inner.host⟩) act

end SessionStream
