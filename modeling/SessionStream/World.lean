import SessionStream.ByteStream.Operation

/-!
# Worlds

Any number of streams, readers and bare sessions on one host, and the steps that a program can take
with them. Entries are numbered in the order in which they were made.

## Main definitions

- `World` — a host, and what lives on it
- `Step` — everything a program can do next
- `World.perform` — one step
- `World.run` — a list of steps
-/

namespace SessionStream

/-- A reader on one of the streams of a world. -/
structure Attached where
  /-- The number of the stream. -/
  stream : Nat
  /-- What the reader has done so far. -/
  tally : Tally := {}
  deriving DecidableEq, Repr

/-- A host, and what lives on it. -/
structure World where
  host : Host := {}
  streams : List ByteStream := []
  readers : List Attached := []
  sessions : List Session := []
  deriving DecidableEq, Repr

/-- Everything a program can do next. -/
inductive Step where
  /-- Make a stream, and leave it unopened. -/
  | create (settings : Settings) (mode : String)
  /-- Make a stream and open it. -/
  | start (settings : Settings) (mode : String)
  /-- Make a stream that reads, open it, and put a reader on it. -/
  | startReader (settings : Settings)
  /-- An operation of a stream. -/
  | onStream (stream : Nat) (operation : ByteStream.Operation)
  /-- Put a reader on a stream. -/
  | attach (stream : Nat)
  /-- An operation of a reader. -/
  | onReader (reader : Nat) (operation : WindowReader.Operation)
  /-- Make a bare session. -/
  | newSession (session : Session)
  /-- Make a connection for a bare session. -/
  | join (session : Nat) (route : Route) (target : Word) (timeout : Int)
  /-- Hand out an id. -/
  | nextId (source : IdSource)
  /-- Tell the id handed out last. -/
  | lastId (source : IdSource)
  /-- More peers will wait for a connect. -/
  | enqueue (peers : List Peer)
  /-- A peer has more to deliver. -/
  | feed (c : ConnectionId) (segments : List Segment)
  deriving DecidableEq, Repr

namespace World

/-- A world in which nothing has happened yet: the first id that callers hand over, and the peers
that wait. -/
def begin (firstId : Int) (waiting : List Peer) : Except Failure World :=
  (SessionIds.startingAt firstId).map fun givenIds =>
    { host := { network := { waiting }, givenIds } }

/-- The entry with a number. -/
def entry {α : Type} (entries : List α) (number : Nat) : Act World α :=
  match entries[number]? with
  | some a => pure a
  | none => throw .noSuchEntry

/-- An action on the host of a world. -/
def onHost {α : Type} (act : Act Host α) : Act World α :=
  act.zoom host fun host world => { world with host }

/-- An action on something that is not yet an entry of the world. -/
def onNew {σ α : Type} (own : σ) (act : Act (Held σ) α) : Act World α :=
  Act.zoom (fun world => ⟨own, world.host⟩) (fun held world => { world with host := held.host }) act

/-- An action on a stream of a world. -/
def onStream {α : Type} (number : Nat) (act : Act (Held ByteStream) α) : Act World α := do
  let stream ← entry (← get).streams number
  Act.zoom (fun world => ⟨stream, world.host⟩)
    (fun held world =>
      { world with streams := world.streams.set number held.own, host := held.host })
    act

/-- An action on a session of a world. -/
def onSession {α : Type} (number : Nat) (act : Act (Held Session) α) : Act World α := do
  let session ← entry (← get).sessions number
  Act.zoom (fun world => ⟨session, world.host⟩)
    (fun held world =>
      { world with sessions := world.sessions.set number held.own, host := held.host })
    act

/-- An action on a reader of a world. -/
def onReader {α : Type} (number : Nat) (act : Act (Held WindowReader) α) : Act World α := do
  let reader ← entry (← get).readers number
  let stream ← entry (← get).streams reader.stream
  Act.zoom (fun world => ⟨⟨stream, reader.tally⟩, world.host⟩)
    (fun held world =>
      { world with
        streams := world.streams.set reader.stream held.own.stream
        readers := world.readers.set number { reader with tally := held.own.tally }
        host := held.host })
    act

/-- Adds a stream; the value is its number. -/
def addStream (stream : ByteStream) : Act World Nat := do
  let number := (← get).streams.length
  modify fun world => { world with streams := world.streams ++ [stream] }
  pure number

/-- Adds a reader on a stream; the value is its number. -/
def addReader (stream : Nat) : Act World Nat := do
  let number := (← get).readers.length
  modify fun world => { world with readers := world.readers ++ [{ stream }] }
  pure number

/-- A new stream, opened. -/
def openNew (settings : Settings) (mode : String) : Act World ByteStream := do
  let stream ← Act.ofExcept (ByteStream.ofMode settings mode)
  onNew stream do
    ByteStream.connect
    pure (← get).own

/-- One step. -/
def perform : Step → Act World Answer
  | .create settings mode => do
    let stream ← Act.ofExcept (ByteStream.ofMode settings mode)
    pure (.number (← addStream stream))
  | .start settings mode => do
    let stream ← openNew settings mode
    pure (.number (← addStream stream))
  | .startReader settings => do
    let stream ← openNew settings Direction.read.word
    let number ← addStream stream
    pure (.number (← addReader number))
  | .onStream number operation => onStream number (ByteStream.perform operation)
  | .attach number => do
    let stream ← entry (← get).streams number
    discard <| Act.ofExcept (WindowReader.onStream stream)
    pure (.number (← addReader number))
  | .onReader number operation => onReader number (WindowReader.perform operation)
  | .newSession session => do
    let number := (← get).sessions.length
    modify fun world => { world with sessions := world.sessions ++ [session] }
    pure (.number number)
  | .join number route target timeout => do
    let c ← onSession number do
      let address ← locate target
      Session.join route address timeout
    pure (.number c.descriptor)
  | .nextId source => do pure (.number (← onHost (Host.nextSessionId source)))
  | .lastId source => do pure (.number ((← get).host.ids source).last)
  | .enqueue peers => do
    onHost (modifyThe Network (Network.enqueue peers) : Act Network Unit)
    pure (.number (← get).host.network.waiting.length)
  | .feed c segments => do
    discard <| entry (← get).host.network.connections c.index
    onHost (modifyThe Network (Network.feed c segments) : Act Network Unit)
    pure .done

/-- One step, with its answer or failure and the world after it. -/
def step (step : Step) (world : World) : Except Failure Answer × World :=
  match perform step world with
  | .ok answer after => (.ok answer, after)
  | .error e after => (.error e, after)

/-- A list of steps, with the answer or failure of each and the world after all of them. A step
that fails does not end the run. -/
def run : List Step → World → List (Except Failure Answer) × World
  | [], world => ([], world)
  | s :: later, world =>
    let (answer, next) := step s world
    let (answers, last) := run later next
    (answer :: answers, last)

end World

end SessionStream
