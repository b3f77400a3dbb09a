import SessionStream.Bytes
import SessionStream.Failure
import SessionStream.Session

/-!
# Commands of the line protocol

Every command is one ASCII line: a word, its arguments after single blanks, and a line feed. The
two session commands are the handshake of a connection; the other two are sent on the control
connection.

## Main definitions

- `Command` — what a client can say
- `Command.line` — the line that says it
- `Command.word` — the first word of that line
- `Command.requireWritable` — refuses a command with a number that is too long
- `Command.write` — the line of a command, unless it is refused
-/

namespace SessionStream

/-- What a client can say. -/
inductive Command where
  /-- Create a session; this is its first connection. -/
  | newSession (direction : Direction) (id : Int)
  /-- Bind one more connection to a session. -/
  | runSession (id : Int)
  /-- The next data connection starts at this offset. -/
  | transfer (direction : Direction) (offset : Int)
  /-- Report the size. -/
  | stat
  deriving DecidableEq, Repr

namespace Command

/-- The first word of a command. -/
def word : Command → String
  | newSession _ _ => "new_session"
  | runSession _ => "run_session"
  | transfer direction _ => direction.word
  | stat => "stat"

/-- The text of a command, without the end of its line. -/
def text : Command → String
  | newSession direction id => s!"new_session {direction.word} {id}"
  | runSession id => s!"run_session {id}"
  | transfer direction offset => s!"{direction.word} {offset}"
  | stat => "stat"

/-- The line of a command, as it is sent. -/
def line (command : Command) : Bytes :=
  utf8 command.text ++ [10]

/-- The commands whose number, if they have one, can be written down. -/
def Writable : Command → Prop
  | newSession _ id => Text.Writable id
  | runSession id => Text.Writable id
  | transfer _ offset => Text.Writable offset
  | stat => True

instance : DecidablePred Writable
  | newSession _ id => inferInstanceAs (Decidable (Text.Writable id))
  | runSession id => inferInstanceAs (Decidable (Text.Writable id))
  | transfer _ offset => inferInstanceAs (Decidable (Text.Writable offset))
  | stat => inferInstanceAs (Decidable True)

/-- Refuses a command that cannot be written down. -/
def requireWritable (command : Command) : Except Failure Unit :=
  if command.Writable then .ok () else .error .numberTooLong

/-- The line of a command that can be written down. -/
def write (command : Command) : Except Failure Bytes :=
  command.requireWritable.map fun _ => command.line

end Command

end SessionStream
