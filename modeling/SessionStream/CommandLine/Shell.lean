import SessionStream.CommandLine.Arguments
import SessionStream.Text.ControlSequence

/-!
# Command lines

A command line is read, and the command that it asks for is run. What the command tells gets the end
of its line, and where it does not go to a terminal it loses the control sequences of one.

## Main definitions

- `Outcome` — what a command line comes to
- `Shell.run` — runs a command line
- `Shell.wording` — a text as it is shown
-/

namespace SessionStream

/-- What a command line comes to. -/
inductive Outcome where
  /-- The command line makes no sense. -/
  | misused (usage : UsageError)
  /-- An explanation was asked for. -/
  | explained
  /-- A command was run. -/
  | ran (invocation : Invocation) (report : Report)

/-- The exit code of a command line. -/
def Outcome.exitCode : Outcome → Nat
  | misused _ => 2
  | explained => 0
  | ran _ report => report.ending.exitCode

namespace Shell

/-- Runs a command line. -/
def run (words : List String) (around : Surroundings) : Outcome :=
  match Arguments.read words with
  | .error usage => .misused usage
  | .ok (.help _) => .explained
  | .ok (.run level invocation) =>
    .ran invocation (CommandLine.invoke level invocation around)

/-- A text as it is shown, on a terminal or elsewhere. -/
def wording (terminal : Bool) (text : String) : String :=
  let cs := text.toList
  String.ofList (if terminal then cs else Text.withoutSequences cs) ++ "\n"

end Shell

end SessionStream
