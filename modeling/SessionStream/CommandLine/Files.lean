import SessionStream.Bytes
import SessionStream.Failure

/-!
# Files

What a command finds behind the names that it is given. A file that was opened takes bytes, or gives
them, until the system refuses to go on; even letting go of a file may be refused, since bytes that
were held back are written then.

## Main definitions

- `Refusal` — why the system does not go on
- `Sink`, `Source` — a file that was opened, to write into it and to read from it
- `Files` — what comes of opening files
-/

namespace SessionStream

/-- Why the system does not go on. -/
structure Refusal where
  number : Int
  text : String
  deriving DecidableEq, Repr

/-- The failure that a refusal is. -/
def Refusal.failure (refusal : Refusal) : Failure :=
  .fault (.system refusal.number refusal.text)

theorem Refusal.isSystem_failure (refusal : Refusal) : refusal.failure.isSystem = true :=
  rfl

/-- What comes of a step that the system may refuse. -/
def permitted : Option Refusal → Except Failure Unit
  | none => .ok ()
  | some refusal => .error refusal.failure

/-- A file to write into. -/
structure Sink where
  /-- What comes of the first writes. All others succeed. -/
  writes : List (Option Refusal) := []
  /-- Why it cannot be let go of, if it cannot. -/
  release : Option Refusal := none
  deriving DecidableEq, Repr

/-- A file to read from. -/
structure Source where
  /-- The bytes that can be read. -/
  bytes : Bytes := []
  /-- Why nothing can be read behind them; if there is no reason, the file ends there. -/
  fault : Option Refusal := none
  /-- Why it cannot be let go of, if it cannot. -/
  release : Option Refusal := none
  deriving DecidableEq, Repr

/-- What comes of opening files. -/
structure Files where
  /-- A file of this name, which is made if there is none and emptied if there is one. -/
  toWrite : Word → Except Failure Sink
  /-- The file of this name. -/
  toRead : Word → Except Failure Source

/-- There are no files, and none can be made. -/
def Files.absent : Files where
  toWrite name := .error (.file .missing name)
  toRead name := .error (.file .missing name)

end SessionStream
