import SessionStream.Host
import SessionStream.Timeout

/-!
# Dialers

How a connection comes about: in one call, or by way of a socket that is made first and connected
then.

## Main definitions

- `Dialer` — the two ways
- `Dialer.refusal?`, `Dialer.Takes` — whether it can make a connection with a timeout
- `Dialer.dial` — a connection to an address
-/

namespace SessionStream

/-- How a connection comes about. -/
inductive Dialer where
  /-- One call makes the connection, or fails and leaves nothing behind. -/
  | direct
  /-- A socket is made, gets its connect timeout, which has to be in a range, and is connected. -/
  | socket (range : Timeout.Range)
  deriving DecidableEq, Repr

namespace Dialer

/-- A connection can be made with this timeout. A connect in one call takes any. -/
def Takes (timeout : Int) : Dialer → Prop
  | direct => True
  | socket range => Timeout.Settable range timeout

instance (timeout : Int) (dialer : Dialer) : Decidable (dialer.Takes timeout) :=
  match dialer with
  | direct => inferInstanceAs (Decidable True)
  | socket range => inferInstanceAs (Decidable (Timeout.Settable range timeout))

/-- Why a connection cannot be made with this timeout, if it cannot. -/
def refusal? (timeout : Int) : Dialer → Option Failure
  | direct => none
  | socket range => Timeout.refusal? range timeout

/-- A timeout is refused for its own sake, and not by the outside world. -/
theorem isSystem_of_refusal? {timeout : Int} {dialer : Dialer} {e : Failure}
    (h : dialer.refusal? timeout = some e) : e.isSystem = false := by
  cases dialer with
  | direct => cases h
  | socket range =>
    obtain refused | rfl := Timeout.refusal?_cases h
    · rcases Timeout.Range.refusal?_cases refused with rfl | rfl <;> rfl
    · rfl

/-- A connection by way of a socket. A socket that cannot be connected is closed; if that close
fails, its failure takes the place of the first one. A socket that cannot get its timeout is neither
connected nor closed. -/
def dialSocket (range : Timeout.Range) (address : Address) (timeout : Int) :
    Act Host ConnectionId := do
  let c ← Act.rescue (Network.openSocket : Act Network ConnectionId)
    fun cause => throw (.noSocket cause)
  if ¬Timeout.Representable timeout then throw .timeoutTooLarge
  Network.setTimeout range c timeout
  Act.rescue (Network.connectSocket c address.socketName : Act Network Unit) fun cause => do
    Host.write .debug .dialer s!"Close {c.descriptor}"
    Network.close c
    throw (.cannotConnect address.target cause)
  pure c

/-- A connection to an address, with a timeout in milliseconds. -/
def dial (dialer : Dialer) (address : Address) (timeout : Int) : Act Host ConnectionId :=
  match dialer with
  | direct => Network.connect address timeout
  | socket range => dialSocket range address timeout

end Dialer

end SessionStream
