import SessionStream.Binary64
import SessionStream.Failure

/-!
# Connect timeouts

How long a connect may take, in milliseconds. A negative request stands for the default. A socket
gets its timeout in seconds, as a number in binary floating point, and may refuse that.

## Main definitions

- `Timeout` — a requested timeout
- `Timeout.effective` — the timeout that is passed on
- `Timeout.Representable`, `Timeout.seconds` — a timeout in seconds
- `Timeout.Range` — the timeouts that a socket takes
- `Timeout.refusal?`, `Timeout.Settable` — whether a socket can get a timeout
-/

namespace SessionStream

/-- A requested connect timeout, in milliseconds. -/
structure Timeout where
  /-- The requested number; a negative one stands for the default. -/
  requested : Int := -1
  deriving DecidableEq, Repr

namespace Timeout

/-- The timeout of a stream that asks for none. -/
def default : Int := 3000

/-- The timeout that is passed on. -/
def effective (timeout : Timeout) : Int :=
  if timeout.requested < 0 then default else timeout.requested

/-- A number of milliseconds that binary floating point can hold, exactly or rounded. -/
def Representable (milliseconds : Int) : Prop :=
  Binary64.roundNat milliseconds.natAbs < Binary64.bound

instance (milliseconds : Int) : Decidable (Representable milliseconds) :=
  inferInstanceAs (Decidable (_ < _))

/-- Milliseconds as seconds in binary floating point: the number of milliseconds is rounded first,
its thousandth after that. The number has to be representable. -/
def seconds (milliseconds : Int) : Binary64 :=
  (Binary64.ofRatio (Binary64.roundNat milliseconds.natAbs) 1000).withSign (milliseconds < 0)

/-- The timeouts that a socket takes. -/
inductive Range where
  /-- Every number that binary floating point can hold. -/
  | unlimited
  /-- What a clock with a sign and 63 binary digits counts in nanoseconds, from zero on. -/
  | clock
  deriving DecidableEq, Repr

/-- The first number that a clock cannot count to. -/
def clockBound : Nat := Nat.pow 2 63

/-- Nanoseconds in a millisecond. -/
def nanoseconds : Nat := 1000000

/-- Why a socket does not take a timeout, if it does not. That the clock cannot count so far, in
either direction, is found out first. -/
def Range.refusal? (milliseconds : Int) : Range → Option Failure
  | unlimited => none
  | clock =>
    if clockBound ≤ milliseconds.natAbs * nanoseconds then some .timeoutBeyondClock
    else if milliseconds < 0 then some .negativeTimeout
    else none

/-- A socket can get this timeout. -/
def Settable (range : Range) (milliseconds : Int) : Prop :=
  Representable milliseconds ∧ range.refusal? milliseconds = none

instance (range : Range) (milliseconds : Int) : Decidable (Settable range milliseconds) :=
  inferInstanceAs (Decidable (_ ∧ _))

/-- Why a socket cannot get a timeout, if it cannot. -/
def refusal? (range : Range) (milliseconds : Int) : Option Failure :=
  if Representable milliseconds then range.refusal? milliseconds else some .timeoutTooLarge

theorem refusal?_of_large {milliseconds : Int} (range : Range)
    (large : ¬Representable milliseconds) :
    refusal? range milliseconds = some .timeoutTooLarge := by
  unfold refusal?
  rw [if_neg large]

theorem refusal?_of_representable {milliseconds : Int} (range : Range)
    (representable : Representable milliseconds) :
    refusal? range milliseconds = range.refusal? milliseconds := by
  unfold refusal?
  rw [if_pos representable]

theorem refusal?_cases {range : Range} {milliseconds : Int} {e : Failure}
    (h : refusal? range milliseconds = some e) :
    range.refusal? milliseconds = some e ∨ e = .timeoutTooLarge := by
  unfold refusal? at h
  split at h
  · exact .inl h
  · exact .inr (Option.some.inj h).symm

theorem Range.refusal?_cases {range : Range} {milliseconds : Int} {e : Failure}
    (h : range.refusal? milliseconds = some e) :
    e = .timeoutBeyondClock ∨ e = .negativeTimeout := by
  unfold refusal? at h
  split at h
  · cases h
  · split at h
    · exact .inl (Option.some.inj h).symm
    · split at h
      · exact .inr (Option.some.inj h).symm
      · cases h

end Timeout

end SessionStream
