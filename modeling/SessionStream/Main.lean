import SessionStream.CommandLine.Shell

/-!
# The program

Runs a command line and passes on what it leaves behind: the bytes that were copied, what was told,
the records of the log, and the exit code. The file that the command needs is opened before it is
run.

The standard library has no local sockets, so the answer to the first request for one is the
system's refusal of the address family.
-/

namespace SessionStream.Main

/-- A network without local sockets. -/
def noSockets : Network :=
  { waiting := [{ socketFault := some (.system 97 "Address family not supported by protocol") }] }

/-- The failure to open a file. -/
def fileFailure (name : Word) : IO.Error → Failure
  | .noFileOrDirectory .. => .file .missing name
  | .inappropriateType .. => .file .isDirectory name
  | error => .fault (.system 5 (toString error))

/-- What comes of opening a file, by these means. -/
def opening {α : Type} (name : Word) (act : IO α) : IO (Except Failure α) := do
  match ← act.toBaseIO with
  | .ok a => return .ok a
  | .error error => return .error (fileFailure name error)

/-- What a command finds of its file, which is opened. -/
def look : Invocation → IO Surroundings
  | .cat _ _ _ (some (.text path)) _ => do
    let sink ← opening path do
      IO.FS.writeBinFile path ⟨#[]⟩
      return {}
    return { files := { Files.absent with toWrite := fun _ => sink } }
  | .put _ (.text name) _ _ => do
    if .text name = Invocation.inputName then
      return { input := { bytes := (← (← IO.getStdin).readBinToEnd).toList } }
    let source ← opening name do
      return { bytes := (← IO.FS.readBinFile name).toList }
    return { files := { Files.absent with toRead := fun _ => source } }
  | _ => return {}

/-- Passes on what a command has copied. -/
def deliver (invocation : Invocation) (copied : Bytes) : IO Unit := do
  match invocation with
  | .cat _ _ _ (some (.text path)) _ => IO.FS.writeBinFile path ⟨copied.toArray⟩
  | _ => (← IO.getStdout).write ⟨copied.toArray⟩

/-- Shows a text in one of the streams of the program. -/
def utter (stream : IO.FS.Stream) (text : String) : IO Unit := do
  stream.putStr (Shell.wording (← stream.isTty) text)

end SessionStream.Main

open SessionStream in
/-- Runs a command line. -/
def main (words : List String) : IO UInt32 := do
  let around ←
    match Arguments.read words with
    | .ok (.run _ invocation) => Main.look invocation
    | _ => pure {}
  let outcome := Shell.run words { around with network := Main.noSockets }
  if let .ran invocation report := outcome then
    let (output, errors) := (← IO.getStdout, ← IO.getStderr)
    for entry in report.log do
      errors.putStrLn s!"[{entry.level.word}] {entry.message}"
    if report.copied ≠ [] then Main.deliver invocation report.copied
    match report.told with
    | some (.said text) => Main.utter errors text
    | some (.printed text) => Main.utter output text
    | none => pure ()
  return UInt32.ofNat outcome.exitCode
