import SessionStream.CommandLine.Programs
import SessionStream.Text.Numeral

/-!
# Arguments of the command line

The words of a command line are read in two rounds. The first one tells options from other words;
the second one gives them their meaning. In front of the command only options of the program may
stand; behind it, options and other words may come in any order.

## Main definitions

- `Request` — what a command line asks for
- `UsageError` — why a command line makes no sense
- `Arguments.scan` — tells options from other words
- `Arguments.read` — the request of a command line
-/

namespace SessionStream

/-- What a command line asks for. -/
inductive Request where
  /-- An explanation of the program or of one command. -/
  | help (command : Option String)
  /-- A command, with the least serious records of the log that are shown. -/
  | run (level : Log.Level) (invocation : Invocation)
  deriving DecidableEq, Repr

/-- Why a command line makes no sense. -/
inductive UsageError where
  | unknownOption (name : String)
  | missingValue (option : String)
  | unexpectedValue (option : String)
  | badValue (option value : String)
  | missingCommand
  | unknownCommand (name : String)
  | missingArgument (name : String)
  | extraArgument (value : String)
  deriving DecidableEq, Repr

namespace Log.Level

/-- A letter in capitals, as far as the names of levels go. The dotless i has a capital without a
dot, too. -/
def capital (c : Char) : Char :=
  if c = '\u0131' then 'I' else c.toUpper

/-- The level with a given name, in small letters or capitals. -/
def ofName? (name : String) : Option Level :=
  all.find? fun level => level.word == String.ofList (name.toList.map capital)

end Log.Level

namespace Arguments

/-- An option of a command: its long name, and the letter of its short one. -/
structure Spec where
  name : String
  letter : Option Char := none
  deriving DecidableEq, Repr

/-- What the first round makes of the words of a command line. -/
structure Scanned where
  /-- The options with their values, in order. -/
  options : List (String × String) := []
  /-- Whether an explanation was asked for. -/
  help : Bool := false
  /-- The words that are no options. -/
  words : List String := []
  deriving DecidableEq, Repr

/-- The value of an option, in its last occurrence. -/
def Scanned.value? (scanned : Scanned) (name : String) : Option String :=
  (scanned.options.reverse.find? fun option => option.1 == name).map (·.2)

/-- The words that are read as options: a dash and something behind it. -/
def looksLikeOption (word : String) : Bool :=
  word.length > 1 && word.startsWith "-"

/-- What one word that looks like an option says: which option it is, and the value if it is in the
same word. A long name may be followed by an equals sign and a value, the letter of a short name by
a value. `none` for the option is the request for an explanation. -/
def readOption (specs : List Spec) (word : String) :
    Except UsageError (Option String × Option String) :=
  let cs := word.toList
  let long := String.ofList (cs.takeWhile (· ≠ '='))
  let value? :=
    if cs.contains '=' then some (String.ofList ((cs.dropWhile (· ≠ '=')).drop 1)) else none
  if long = "--help" then
    if value?.isSome then .error (.unexpectedValue long) else .ok (none, none)
  else
    match specs.find? (·.name == long) with
    | some spec => .ok (some spec.name, value?)
    | none =>
      if word.startsWith "--" then .error (.unknownOption long)
      else
        match specs.find? fun spec => spec.letter.isSome && spec.letter == cs[1]? with
        | some spec =>
          let joined := cs.drop 2
          .ok (some spec.name, if joined.isEmpty then none else some (String.ofList joined))
        | none => .error (.unknownOption (String.ofList (cs.take 2)))

/-- Tells options from other words. The value of an option that has none in its own word is the
next word, whatever it looks like. Two dashes end the options; unless `mixed`, so does the first
word that is no option. -/
def scan (specs : List Spec) (mixed : Bool) : List String → Except UsageError Scanned
  | [] => .ok {}
  | word :: later =>
    if word = "--" then .ok { words := later }
    else if looksLikeOption word then do
      match ← readOption specs word with
      | (none, _) => return { ← scan specs mixed later with help := true }
      | (some name, some value) =>
        let scanned ← scan specs mixed later
        return { scanned with options := (name, value) :: scanned.options }
      | (some name, none) =>
        match later with
        | [] => .error (.missingValue name)
        | value :: later =>
          let scanned ← scan specs mixed later
          return { scanned with options := (name, value) :: scanned.options }
    else if mixed then do
      let scanned ← scan specs mixed later
      return { scanned with words := word :: scanned.words }
    else .ok { words := word :: later }

/-- The integer of an option. -/
def integer (scanned : Scanned) (name : String) : Except UsageError (Option Int) :=
  match scanned.value? name with
  | none => .ok none
  | some text =>
    match Text.readNumeral? text with
    | some n => .ok (some n)
    | none => .error (.badValue name text)

/-- The number of an option, which must not be negative. -/
def natural (scanned : Scanned) (name : String) : Except UsageError (Option Nat) := do
  match ← integer scanned name with
  | none => .ok none
  | some n => if n < 0 then .error (.badValue name (toString n)) else .ok (some n.toNat)

/-- A path without its empty parts. -/
def normalPath (path : String) : String :=
  let parts := (path.splitOn "/").filter fun part => part ≠ "" && part ≠ "."
  let root :=
    if path.startsWith "/" then
      if path.startsWith "//" && !path.startsWith "///" then "//" else "/"
    else ""
  let normal := root ++ "/".intercalate parts
  if normal = "" then "." else normal

/-- The path of an option. No path holds the character that ends names. -/
def path (scanned : Scanned) (name : String) : Except UsageError (Option Word) :=
  match scanned.value? name with
  | none => .ok none
  | some text =>
    if text.contains '\x00' then .error (.badValue name text)
    else .ok (some (.text (normalPath text)))

/-- The connect timeout of a command; a negative one stands for the default. -/
def timeout (scanned : Scanned) : Except UsageError Int := do
  return (← integer scanned "--timeout").getD (-1)

/-- The options of the program. -/
def programOptions : List Spec :=
  [{ name := "--log-level" }]

/-- The options of each command, by the name of the command. -/
def commandOptions : List (String × List Spec) :=
  [("cat", [{ name := "--offset" }, { name := "--length" },
      { name := "--output", letter := some 'o' }, { name := "--timeout" }]),
    ("put", [{ name := "--offset" }, { name := "--timeout" }]),
    ("stat", [{ name := "--timeout" }])]

/-- The target and the words behind it. -/
def target : List String → Except UsageError (String × List String)
  | [] => .error (.missingArgument "TARGET")
  | word :: later => .ok (word, later)

/-- Refuses words that are left over. -/
def nothingMore : List String → Except UsageError Unit
  | [] => .ok ()
  | word :: _ => .error (.extraArgument word)

/-- The invocation of the command `name` with the scanned words behind it. -/
def invocation (name : String) (scanned : Scanned) : Except UsageError Invocation := do
  let timeout ← timeout scanned
  let (target, later) ← target scanned.words
  if name = "cat" then
    let offset := (← natural scanned "--offset").getD 0
    let length ← natural scanned "--length"
    let output ← path scanned "--output"
    nothingMore later
    return .cat target offset length output timeout
  else if name = "put" then
    let offset := (← natural scanned "--offset").getD 0
    nothingMore (later.drop 1)
    let source := (later.head?.map Word.text).getD Invocation.inputName
    return .put target source offset timeout
  else if name = "stat" then
    nothingMore later
    return .stat target timeout
  else .error (.unknownCommand name)

/-- The level that the options of the program ask for. -/
def level (scanned : Scanned) : Except UsageError Log.Level :=
  match scanned.value? "--log-level" with
  | none => .ok .warning
  | some name =>
    match Log.Level.ofName? name with
    | some level => .ok level
    | none => .error (.badValue "--log-level" name)

/-- The request of a command line. -/
def read (words : List String) : Except UsageError Request := do
  let program ← scan programOptions false words
  if program.help then return .help none
  match program.words with
  | [] => .error .missingCommand
  | name :: later =>
    match commandOptions.lookup name with
    | none => .error (.unknownCommand name)
    | some specs =>
      let level ← level program
      let scanned ← scan specs true later
      if scanned.help then return .help (some name)
      return .run level (← invocation name scanned)

end Arguments

end SessionStream
