import SessionStream.CommandLine.Working
import SessionStream.Text.Json

/-!
# The commands

Each command opens a stream, works with it and closes it, whatever happened in between. A system
failure is told and ends the command with exit code 1; any other failure escapes from it, with the
same code. Then the command lets go of its file. If all that went well, it tells what it has found
or done, where there is anything to tell.

## Main definitions

- `Invocation` — a command with everything it needs
- `Surroundings` — what a command finds
- `Conclusion`, `Report` — how a command ends, and what it leaves behind
- `CommandLine.conclude` — from the end of the work to the end of the command
- `CommandLine.cat`, `CommandLine.put`, `CommandLine.stat` — the commands

## Design notes

What a command tells is the text that it hands over; the terminal, or what stands in for it, ends
the line and may leave out what it cannot show. Of a failure that escapes nothing is told here: its
trace is not the command's but the interpreter's.
-/

namespace SessionStream

/-- A command with everything it needs. -/
inductive Invocation where
  /-- Copy the data of a stream to the output or into a file. -/
  | cat (target : Word) (offset : Nat) (length : Option Nat) (output : Option Word) (timeout : Int)
  /-- Write a file or the input into a stream. -/
  | put (target source : Word) (offset : Nat) (timeout : Int)
  /-- Tell the size of a stream. -/
  | stat (target : Word) (timeout : Int)
  deriving DecidableEq, Repr

/-- What a command finds. -/
structure Surroundings where
  files : Files := .absent
  /-- The standard input. -/
  input : Source := {}
  /-- The standard output, as far as bytes are copied there. -/
  output : Sink := {}
  /-- Why nothing can be told, if that is so. -/
  mute : Option Refusal := none
  network : Network := {}
  /-- The timeouts that the sockets of the system take. -/
  timeouts : Timeout.Range := .clock

/-- The name that stands for the standard input. -/
def Invocation.inputName : Word :=
  .text "-"

namespace Surroundings

/-- Where a copy goes. -/
def sink (around : Surroundings) : Option Word → Except Failure Sink
  | none => .ok around.output
  | some path => around.files.toWrite path

/-- Where an upload comes from. The standard input is not let go of. -/
def source (around : Surroundings) (name : Word) : Except Failure Source :=
  if name = Invocation.inputName then .ok { around.input with release := none }
  else around.files.toRead name

end Surroundings

/-- How a command ends. -/
inductive Ending where
  /-- All went well. -/
  | success
  /-- A failure was told. -/
  | reported (failure : Failure)
  /-- A failure escaped. -/
  | escaped (failure : Failure)
  deriving DecidableEq, Repr

/-- The exit code of an ending. -/
def Ending.exitCode : Ending → Nat
  | success => 0
  | reported _ => 1
  | escaped _ => 1

/-- What a command tells. -/
inductive Utterance where
  /-- A text for the standard error stream. -/
  | said (text : String)
  /-- A text for the standard output. -/
  | printed (text : String)
  deriving DecidableEq, Repr

/-- How a command ends, and what it has told by then. -/
structure Conclusion where
  ending : Ending
  told : Option Utterance := none
  deriving DecidableEq, Repr

/-- What a command leaves behind. -/
structure Report extends Conclusion where
  /-- The bytes that were copied to the output or into the file. -/
  copied : Bytes := []
  /-- The network after the command. -/
  network : Network
  /-- The records of the log that are shown. -/
  log : List Log.Entry := []
  deriving DecidableEq, Repr

namespace CommandLine

/-- The stream of a command: on a socket, with an id from the counter of the program. -/
def newStream (target : Word) (direction : Direction) (timeout : Int) (range : Timeout.Range) :
    ByteStream :=
  .unopened { target, timeout := ⟨timeout⟩, route := ⟨.socket range, .shared⟩ } { direction }

/-- Runs the work of a command on a stream: how it ended, what was done, and the host after it. -/
def execute {τ α : Type} (stream : ByteStream) (work : τ) (network : Network)
    (act : Act (Held (Working τ)) α) : Except Failure α × τ × Host :=
  match Working.during act ⟨⟨stream, work⟩, { network }⟩ with
  | .ok a after => (.ok a, after.own.work, after.host)
  | .error e after => (.error e, after.own.work, after.host)

/-- The records that are at least as serious as the level. -/
def shown (level : Log.Level) (log : List Log.Entry) : List Log.Entry :=
  log.filter fun entry => level.rank ≤ entry.level.rank

-- ════════════════════════════════════════════════════════════════════════
-- How commands end
-- ════════════════════════════════════════════════════════════════════════

section Conclusions

variable (around : Surroundings)

/-- Tells something and ends so; if it cannot be told, that escapes. -/
def tell (utterance : Utterance) (ending : Ending) : Conclusion :=
  match around.mute with
  | none => { ending, told := some utterance }
  | some refusal => { ending := .escaped refusal.failure }

/-- What is told of a failure. -/
def complaint (e : Failure) : Utterance :=
  .said s!"error: {e.message}"

/-- What comes of the end of the work: a system failure is told. -/
def settle {α : Type} : Except Failure α → Conclusion
  | .ok _ => { ending := .success }
  | .error e =>
    if e.isSystem then tell around (complaint e) (.reported e) else { ending := .escaped e }

/-- How a command ends whose work ended with this result. The file is let go of in any case, and if
it cannot be, that takes the place of how the work ended. -/
def conclude {α : Type} (release : Option Refusal) (success : α → Option Utterance)
    (result : Except Failure α) : Conclusion :=
  match release, result with
  | some refusal, result => { settle around result with ending := .escaped refusal.failure }
  | none, .error e => settle around (.error e : Except Failure α)
  | none, .ok a =>
    match success a with
    | none => { ending := .success }
    | some utterance => tell around utterance .success

end Conclusions

/-- A report on a command that could not even open its file. -/
def refused (e : Failure) (around : Surroundings) : Report :=
  { ending := .escaped e, network := around.network }

-- ════════════════════════════════════════════════════════════════════════
-- The commands
-- ════════════════════════════════════════════════════════════════════════

/-- Copies the data of a stream to the output, or into the file `output`. What was copied before a
failure is there. -/
def cat (target : Word) (offset : Nat) (length : Option Nat) (output : Option Word) (timeout : Int)
    (level : Log.Level) (around : Surroundings) : Report :=
  match around.sink output with
  | .error e => refused e around
  | .ok sink =>
    let (result, copied, host) :=
      execute (newStream target .read timeout around.timeouts) [] around.network do
        Working.startAt offset
        Working.copyOut length sink.writes
    { conclude around sink.release (fun _ => none) result with
      copied, network := host.network, log := shown level host.log }

/-- What is told of an upload. -/
def countText (written : Nat) : String :=
  s!"{written} bytes written"

/-- Writes a source into a stream. -/
def put (target name : Word) (offset : Nat) (timeout : Int) (level : Log.Level)
    (around : Surroundings) : Report :=
  match around.source name with
  | .error e => refused e around
  | .ok source =>
    let (result, written, host) :=
      execute (newStream target .write timeout around.timeouts) 0 around.network do
        Working.startAt offset
        Working.upload source.bytes source.fault
    { conclude around source.release (fun _ => some (.said (countText written))) result with
      network := host.network, log := shown level host.log }

/-- The size of a stream and its session, as a JSON text. -/
def sizeText (target : Word) (size : Int) (id : Option Int) : String :=
  let idText :=
    match id with
    | some id => toString id
    | none => "null"
  "\x7b\n  \"target\": " ++ target.json ++ s!",\n  \"size\": {size}" ++
    s!",\n  \"session_id\": {idText}\n\x7d"

/-- Tells the size of a stream. -/
def stat (target : Word) (timeout : Int) (level : Log.Level) (around : Surroundings) : Report :=
  let (result, _, host) :=
    execute (newStream target .read timeout around.timeouts) () around.network do
      let size ← Working.onStream (ByteStream.seek 0 Origin.size.code)
      pure (size, (← get).own.stream.session.id)
  { conclude around none (fun (size, id) => some (.printed (sizeText target size id))) result with
    network := host.network, log := shown level host.log }

/-- Runs a command. -/
def invoke (level : Log.Level) (invocation : Invocation) (around : Surroundings) : Report :=
  match invocation with
  | .cat target offset length output timeout => cat target offset length output timeout level around
  | .put target name offset timeout => put target name offset timeout level around
  | .stat target timeout => stat target timeout level around

end CommandLine

end SessionStream
