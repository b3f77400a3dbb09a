import SessionStream.WindowReader

/-!
# Operations as data

Every operation of a stream and of a reader as a value, so that a run is a list of them.

## Main definitions

- `Answer` — what an operation gives
- `ByteStream.Operation`, `ByteStream.perform` — the operations of a stream
- `WindowReader.Operation`, `WindowReader.perform` — the operations of a reader
-/

namespace SessionStream

/-- What an operation gives. -/
inductive Answer where
  /-- Nothing but its success. -/
  | done
  /-- A count, a position, a size or the number of an entry. -/
  | number (n : Int)
  /-- Bytes. -/
  | bytes (bytes : Bytes)
  /-- The stream itself. -/
  | stream (stream : ByteStream)
  deriving DecidableEq, Repr

namespace ByteStream

/-- The operations of a stream. -/
inductive Operation where
  | connect
  | read (size : Option Int)
  | receive (limit : Nat)
  | write (data : Bytes)
  | seek (offset : Int) (code : Int)
  | stat
  | position
  | descriptor
  | inspect
  | close
  deriving DecidableEq, Repr

/-- Performs an operation on a stream. -/
def perform : Operation → Act (Held ByteStream) Answer
  | .connect => do connect; pure .done
  | .read size => do pure (.bytes (← read size))
  | .receive limit => do pure (.bytes (← receive limit).val)
  | .write data => do pure (.number (← write data))
  | .seek offset code => do pure (.number (← seek offset code))
  | .stat => do pure (.number (← stat))
  | .position => do pure (.number (← get).own.position)
  | .descriptor => do pure (.number (← descriptor))
  | .inspect => do pure (.stream (← get).own)
  | .close => do close; pure .done

end ByteStream

namespace WindowReader

/-- The operations of a reader. -/
inductive Operation where
  | fetch (start length : Int)
  | size
  | close
  deriving DecidableEq, Repr

/-- Performs an operation on a reader. -/
def perform : Operation → Act (Held WindowReader) Answer
  | .fetch start length => do pure (.bytes (← fetch start length))
  | .size => do pure (.number (← size))
  | .close => do close; pure .done

end WindowReader

end SessionStream
