/-!
# Log

What the library reports about its work, beside the results of the operations.

## Main definitions

- `Log.Level` — how serious a record is
- `Log.Source` — the part of the library that wrote it
- `Log.Entry` — one record
-/

namespace SessionStream.Log

/-- How serious a record is. -/
inductive Level where
  | debug
  | info
  | warning
  | error
  | critical
  deriving DecidableEq, Repr

namespace Level

/-- All levels, from the least serious to the most serious one. -/
def all : List Level := [debug, info, warning, error, critical]

/-- The name of a level. -/
def word : Level → String
  | debug => "DEBUG"
  | info => "INFO"
  | warning => "WARNING"
  | error => "ERROR"
  | critical => "CRITICAL"

/-- The place of a level in the order of seriousness. -/
def rank : Level → Nat
  | debug => 0
  | info => 1
  | warning => 2
  | error => 3
  | critical => 4

end Level

/-- The part of the library that a record comes from. -/
inductive Source where
  /-- The reading of targets. -/
  | address
  /-- The making of sockets. -/
  | dialer
  /-- Connecting and shaking hands. -/
  | joining
  /-- The operations of a stream. -/
  | stream
  deriving DecidableEq, Repr

/-- One record of the log. -/
structure Entry where
  level : Level
  source : Source
  message : String
  deriving DecidableEq, Repr

end SessionStream.Log
