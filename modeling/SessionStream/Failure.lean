import SessionStream.Text.Word
import SessionStream.Text.Decimal
import SessionStream.Direction
import SessionStream.StreamPhase

/-!
# Failures

Every cause that an operation can end with. A cause carries the data of what went wrong; its
wording is one function, `Failure.message`. A failure that was brought about by another one holds
that one as its cause.

## Main definitions

- `Fault` — what a call on the network raises by itself
- `FileFault` — why a file cannot be opened
- `Failure` — every cause an operation ends with
- `Failure.message` — the wording of a failure
- `Failure.isSystem` — failures of the outside world and of the protocol
- `Failure.quoting` — a failure whose wording quotes an integer

## Design notes

The distinction that the clean-up rules depend on is `Failure.isSystem`: a connection whose call
ends with a system failure is closed and the failure may be wrapped, while any other failure, an
error in the use of a value or a want of memory, passes through untouched.
-/

namespace SessionStream

/-- What a call on the network raises by itself. -/
inductive Fault where
  /-- The operating system refused the call, with its error number and text. -/
  | system (number : Int) (text : String)
  /-- The call took too long. -/
  | timeout (text : String)
  /-- The peer cannot be reached. -/
  | unreachable (text : String)
  /-- A value in the call is not acceptable; the outside world is not to blame. -/
  | badValue (text : String)
  deriving DecidableEq, Repr

/-- Why a file cannot be opened. -/
inductive FileFault where
  | missing
  | notDirectory
  | isDirectory
  | nameTooLong
  deriving DecidableEq, Repr

namespace FileFault

/-- The system's number for a file fault. -/
def number : FileFault → Nat
  | missing => 2
  | notDirectory => 20
  | isDirectory => 21
  | nameTooLong => 36

/-- The system's text for a file fault. -/
def text : FileFault → String
  | missing => "No such file or directory"
  | notDirectory => "Not a directory"
  | isDirectory => "Is a directory"
  | nameTooLong => "File name too long"

end FileFault

/-- Every cause that an operation can end with. -/
inductive Failure where
  /-- A call on the network failed by itself. -/
  | fault (fault : Fault)
  /-- No socket could be made. -/
  | noSocket (cause : Failure)
  /-- The address could not be connected to. -/
  | cannotConnect (target : String) (cause : Failure)
  /-- The peer accepted no byte of a line. -/
  | peerClosed
  /-- The control connection ended before the end of a reply. -/
  | replyCut
  /-- A reply has no end within its limit. -/
  | replyTooLong (limit : Int)
  /-- The server answered the announcement of a transfer with something else than `ok`. -/
  | rejected (reply : String)
  /-- A target names nothing. -/
  | emptyTarget
  /-- A target has surrogates in it that belong to no pair, from this position on: a first one, and
  so many more right behind it. -/
  | unencodable (position : Nat) (stray : Surrogate) (more : Nat)
  /-- No direction has this mode. -/
  | unsupportedMode (mode : String)
  /-- The stream has been opened before. -/
  | alreadyOpened (phase : StreamPhase)
  /-- No origin of a seek has this number. -/
  | unknownOrigin (code : Int)
  /-- A seek would land before the start. -/
  | negativePosition (position : Int)
  /-- The server reported a size below zero to a seek from the end. -/
  | negativeSize (size : Int)
  /-- The answer to a size query is no decimal integer. -/
  | unparseableSize (reply : String)
  /-- The answer to a size query does not fit in 64 signed bits. -/
  | sizeOutOfRange (reply : String)
  /-- The stream's direction is this one, and the operation needs the other. -/
  | openedFor (direction : Direction)
  /-- A reader of windows was put on a stream that writes. -/
  | readerNeedsReading
  /-- The data connection delivered nothing, at this position. -/
  | streamEnded (position : Nat)
  /-- The stream is not open. -/
  | notOpen (phase : StreamPhase)
  /-- An earlier failure left the control connection out of step. -/
  | unusable (cause : Failure)
  /-- A window starts before the start. -/
  | negativeStart
  /-- A window is empty. -/
  | nonPositiveLength
  /-- The data ended inside a window. -/
  | notEnoughData (length start got : Nat)
  /-- Session ids start at one. -/
  | nonPositiveIds
  /-- A timeout is beyond the range of binary floating point. -/
  | timeoutTooLarge
  /-- A timeout is beyond the range of the system's clock. -/
  | timeoutBeyondClock
  /-- A timeout is below zero. -/
  | negativeTimeout
  /-- A size has more binary digits than an index. -/
  | sizeNotIndex
  /-- There is no room for a buffer. -/
  | outOfMemory
  /-- An integer has too many digits to be written down. -/
  | numberTooLong
  /-- A file cannot be opened. -/
  | file (fault : FileFault) (name : Word)
  /-- A file name holds the character that ends names. -/
  | nulInName
  /-- There is no entry with this number. -/
  | noSuchEntry
  deriving DecidableEq, Repr

namespace Fault

/-- The wording of a fault. -/
def message : Fault → String
  | system number text => s!"[Errno {number}] {text}"
  | timeout text => text
  | unreachable text => text
  | badValue text => text

/-- Whether a fault comes from the outside world. -/
def isSystem : Fault → Bool
  | badValue _ => false
  | _ => true

end Fault

namespace Failure

/-- The wording of a failure. -/
def message : Failure → String
  | fault f => f.message
  | noSocket cause => s!"Cannot create socket: {cause.message}"
  | cannotConnect target cause => s!"Cannot connect to {target}: {cause.message}"
  | peerClosed => "Stream closed by peer during send"
  | replyCut => "Control connection closed while reading reply"
  | replyTooLong limit => s!"Reply exceeded {limit} bytes without a line terminator"
  | rejected reply => "Expected 'ok' from server, got " ++ Text.quoted reply
  | emptyTarget => "Empty socket target"
  | unencodable position stray more =>
    "'utf-8' codec can't encode character" ++
      (if more = 0 then " '" ++ String.ofList stray.escape ++ s!"' in position {position}"
        else s!"s in position {position}-{position + more}") ++ ": surrogates not allowed"
  | unsupportedMode mode => "Unsupported mode " ++ Text.quoted mode
  | alreadyOpened phase => s!"Stream is already {phase.word}"
  | unknownOrigin code => s!"Invalid whence {code}"
  | negativePosition position => s!"Negative seek position {position}"
  | negativeSize size => s!"Server reported negative size {size}"
  | unparseableSize reply => "Unparseable stat reply " ++ Text.quoted reply
  | sizeOutOfRange reply => "Stat reply out of range " ++ Text.quoted reply
  | openedFor .read => "Stream was opened for reading"
  | openedFor .write => "Stream was opened for writing"
  | readerNeedsReading => "StreamByteReader needs a read-mode stream"
  | streamEnded position => s!"End of stream at offset {position}"
  | notOpen phase => s!"I/O operation on {phase.word} stream"
  | unusable cause => s!"Stream unusable after protocol error: {cause.message}"
  | negativeStart => "Start offset cannot be negative"
  | nonPositiveLength => "Length must be positive"
  | notEnoughData length start got =>
    s!"Not enough data: requested {length} bytes at offset {start}, " ++
      s!"but stream ended after {got} bytes"
  | nonPositiveIds => "Session ids must be positive"
  | timeoutTooLarge => "int too large to convert to float"
  | timeoutBeyondClock => "timestamp out of range for platform time_t"
  | negativeTimeout => "Timeout value out of range"
  | sizeNotIndex => "cannot fit 'int' into an index-sized integer"
  | outOfMemory => ""
  | numberTooLong =>
    s!"Exceeds the limit ({Text.maxDigits} digits) for integer string conversion; " ++
      "use sys.set_int_max_str_digits() to increase the limit"
  | file f name => s!"[Errno {f.number}] {f.text}: " ++ name.quoted
  | nulInName => "embedded null byte"
  | noSuchEntry => "list index out of range"

/-- The failure that brought this one about. -/
def cause? : Failure → Option Failure
  | noSocket cause => some cause
  | cannotConnect _ cause => some cause
  | unusable cause => some cause
  | _ => none

/-- Failures of the outside world and of the protocol, as opposed to the wrong use of a value and to
a want of memory. -/
def isSystem : Failure → Bool
  | fault f => f.isSystem
  | unencodable .. => false
  | nonPositiveIds => false
  | timeoutTooLarge => false
  | timeoutBeyondClock => false
  | negativeTimeout => false
  | sizeNotIndex => false
  | outOfMemory => false
  | numberTooLong => false
  | nulInName => false
  | noSuchEntry => false
  | _ => true

/-- Failures that already say that a peer cannot be reached. -/
def isUnreachable : Failure → Bool
  | fault (.unreachable _) => true
  | noSocket _ => true
  | cannotConnect _ _ => true
  | _ => false

/-- A failure whose wording quotes the integer `n`. With too many digits in `n` there is no such
wording, and that is the failure. -/
@[irreducible]
def quoting (n : Int) (e : Failure) : Failure :=
  if Text.Writable n then e else .numberTooLong

theorem quoting_of_writable {n : Int} (e : Failure) (short : Text.Writable n) :
    quoting n e = e := by
  unfold quoting
  exact if_pos short

theorem quoting_of_long {n : Int} (e : Failure) (long : ¬Text.Writable n) :
    quoting n e = .numberTooLong := by
  unfold quoting
  exact if_neg long

theorem quoting_eq (n : Int) (e : Failure) : quoting n e = e ∨ quoting n e = .numberTooLong := by
  unfold quoting
  split
  · exact .inl rfl
  · exact .inr rfl

end Failure

-- Results of two runs can be compared.
instance decidableEqExcept {ε α : Type} [DecidableEq ε] [DecidableEq α] :
    DecidableEq (Except ε α)
  | .ok _, .ok _ => decidable_of_iff _ ⟨congrArg Except.ok, Except.ok.inj⟩
  | .error _, .error _ => decidable_of_iff _ ⟨congrArg Except.error, Except.error.inj⟩
  | .ok _, .error _ => isFalse (by simp)
  | .error _, .ok _ => isFalse (by simp)

end SessionStream
