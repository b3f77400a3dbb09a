import SessionStream.Proofs.Seeks
import SessionStream.Proofs.Segments
import SessionStream.Proofs.Tallies

/-!
# Windows

A reader that serves a window moves its stream to the start of it, and receives until all of it is
there. What comes of that depends on two things that the data connection has to deliver: the bytes
that come first, and what they are followed by. How the bytes are cut into segments makes no
difference, and no byte behind the window is touched.

## Main definitions

- `WindowReader.served` — how a window ends of which these bytes come
- `WindowReader.approach` — the way to a data connection at the start of a window
- `WindowReader.serve` — what the stream under a reader does for a window
- `World.Serves` — how a window is served

## Main results

- `WindowReader.outcome_gather` — the loop that receives a window
- `WindowReader.outcome_serve` — a whole window
- `World.serves_of_approaches` — the same as a step of a world
- `World.fetch_exact` — windows are exact, and every one is counted
- `World.fetch_exact_exceptions` — what is in the way of a window whose data is there, or of its
  failure
-/

namespace SessionStream

variable {c : ConnectionId}

/-- The host after calls on a connection that asked it for `n` bytes in all. -/
def Host.drained (c : ConnectionId) (n : Nat) (es : List Event) (host : Host) : Host :=
  let peer := host.network.peer c
  { host with
    network := host.network.called c { peer with incoming := left n peer.incoming } es }

theorem Host.drained_eq (c : ConnectionId) (n : Nat) (es : List Event) (host : Host) :
    host.drained c n es = { host with network := host.network.drained c n es } := rfl

/-- Nothing has been asked for. -/
theorem Host.drained_zero (c : ConnectionId) (host : Host) : host.drained c 0 [] = host := by
  rw [drained_eq, Network.drained_zero]

/-- What a connection has to deliver when bytes that were there have been asked for. -/
theorem Host.incoming_drained (host : Host) (n : Nat) (es : List Event) :
    ((host.drained c n es).network.peer c).incoming = left n (host.network.peer c).incoming := by
  rw [drained_eq, Network.peer_drained]

/-- Asking for more bytes, when the first ones were there. -/
theorem Host.drained_drained {host : Host} {m : Nat} (n : Nat) (es fs : List Event)
    (there : m ≤ (leading (host.network.peer c).incoming).length) :
    (host.drained c m es).drained c n fs = host.drained c (m + n) (es ++ fs) := by
  simp only [drained_eq, Network.drained_drained n es fs there]

namespace WindowReader

variable {link after : Link} {host host' : Host} {es : List Event}

/-- How a window of `length` bytes ends of which these bytes come, followed by a receive that fails
or is empty. -/
def served (start length : Nat) (coming : Bytes) (stop : Option Fault) : Except Failure Bytes :=
  if length ≤ coming.length then .ok (coming.take length)
  else match stop with
    | some f => .error (.fault f)
    | none => .error (cutShort length start coming.length
        (Link.endOfStream (start + coming.length)))

theorem served_of_le {start length : Nat} {coming : Bytes} (enough : length ≤ coming.length)
    (stop : Option Fault) : served start length coming stop = .ok (coming.take length) :=
  if_pos enough

theorem served_of_lt {start length : Nat} {coming : Bytes} (short : coming.length < length)
    (stop : Option Fault) : served start length coming stop = match stop with
      | some f => .error (.fault f)
      | none => .error (cutShort length start coming.length
          (Link.endOfStream (start + coming.length))) :=
  if_neg (Nat.not_le_of_lt short)

/-- A window is counted, and its bytes if it was served. -/
theorem after_served (tally : Tally) (start length : Nat) (coming : Bytes) (stop : Option Fault) :
    Tally.after tally (served start length coming stop) =
      { bytesFetched := tally.bytesFetched + if length ≤ coming.length then length else 0
        requestsMade := tally.requestsMade + 1 } := by
  unfold Tally.after
  by_cases enough : length ≤ coming.length
  · rw [served_of_le enough, if_pos enough]
    change (⟨tally.bytesFetched + (coming.take length).length, _⟩ : Tally) = _
    rw [List.length_take_of_le enough]
  · rw [served_of_lt (Nat.lt_of_not_le enough), if_neg enough]
    cases stop <;> rfl

/-- The turn of the loop that receives a part of a window. -/
theorem outcome_gather_turn {start missing : Nat} {got : Bytes} (more : missing ≠ 0)
    (usable : link.outOfStep = none) (reads : link.session.direction = .read)
    (connected : Act.outcome Link.dataConnection ⟨link, host⟩ = (.ok c, ⟨after, host'⟩)) :
    Act.outcome (gather start missing got) ⟨.opened link, host⟩ =
      match (host'.network.peer c).deliver missing with
      | (.error f, later) =>
        (.error (.fault f), ⟨.opened after, host'.received c missing none later⟩)
      | (.ok bytes, later) =>
        if bytes ≠ [] then
          Act.outcome (gather start (missing - bytes.length) (got ++ bytes))
            ⟨.opened { after with position := after.position + bytes.length },
              host'.received c missing (some bytes) later⟩
        else (.error (cutShort (got.length + missing) start got.length
            (Link.endOfStream after.position)),
          ⟨.opened after, host'.received c missing (some bytes) later⟩) := by
  rw [gather, if_neg more, Act.outcome_bind, Act.outcome_tryCatch]
  unfold ByteStream.receive
  rw [ByteStream.outcome_whileOpen_opened, Link.outcome_receive missing usable reads connected]
  rcases (host'.network.peer c).deliver missing with ⟨f | bytes, later⟩
  · rfl
  · dsimp only
    by_cases nonempty : bytes ≠ []
    · rw [dif_pos nonempty, if_pos nonempty]
    · rw [dif_neg nonempty, if_neg nonempty]
      unfold Link.endOfStream
      by_cases short : Text.Writable after.position
      · rw [Failure.quoting_of_writable _ short]
        rfl
      · rw [Failure.quoting_of_long _ short]
        rfl

/-- A window is received on the data connection, if that has to be made first. -/
theorem outcome_gather_of_connected {start missing : Nat} {got : Bytes} (more : missing ≠ 0)
    (usable : link.outOfStep = none) (reads : link.session.direction = .read)
    (connected : Act.outcome Link.dataConnection ⟨link, host⟩ = (.ok c, ⟨after, host'⟩))
    (connecting : Link.Connecting link es (.ok c) after) :
    Act.outcome (gather start missing got) ⟨.opened link, host⟩ =
      Act.outcome (gather start missing got) ⟨.opened after, host'⟩ := by
  rw [outcome_gather_turn more usable reads connected,
    outcome_gather_turn more (connecting.usable_of_ok usable)
      (connecting.direction_eq.trans reads)
      (Link.outcome_dataConnection_of_data connecting.data_eq)]

/-- Bytes that have come are part of the window. -/
theorem served_append {start missing : Nat} {got bytes : Bytes} (fits : bytes.length ≤ missing)
    (coming : Bytes) (stop : Option Fault) :
    served start ((got ++ bytes).length + (missing - bytes.length)) (got ++ bytes ++ coming) stop =
      served start (got.length + missing) (got ++ (bytes ++ coming)) stop := by
  have whole : (got ++ bytes).length + (missing - bytes.length) = got.length + missing := by
    rw [List.length_append]
    omega
  rw [whole, List.append_assoc]

/-- **The loop that receives a window.** It takes from the data connection what is missing, or all
that comes first and what follows it. -/
theorem outcome_gather (start missing : Nat) (got : Bytes) (link : Link) (host : Host)
    (has : link.data = some c) (usable : link.outOfStep = none)
    (reads : link.session.direction = .read) (place : link.position = start + got.length) :
    let coming := leading (host.network.peer c).incoming
    ∃ es, Act.outcome (gather start missing got) ⟨.opened link, host⟩ =
        (served start (got.length + missing) (got ++ coming)
            (stop (host.network.peer c).incoming),
          ⟨.opened { link with position := link.position + min missing coming.length },
            host.drained c missing es⟩) ∧
      Receives c es ∧ received c es = coming.take missing := by
  induction missing using Nat.strongRecOn generalizing got link host with
  | ind missing ih =>
    intro coming
    have connected : Act.outcome Link.dataConnection ⟨link, host⟩ = (.ok c, ⟨link, host⟩) :=
      Link.outcome_dataConnection_of_data has
    by_cases zero : missing = 0
    · subst zero
      refine ⟨[], ?_, fun _ he => absurd he List.not_mem_nil, rfl⟩
      have whole : got.length ≤ (got ++ coming).length := by simp
      rw [gather, if_pos rfl, Host.drained_zero, Nat.zero_min, Nat.add_zero, Nat.add_zero,
        served_of_le whole, List.take_left]
      rfl
    · rw [outcome_gather_turn zero usable reads connected]
      by_cases nothing : coming = []
      · -- The receive is the one that ends the window.
        have short : (got ++ coming).length < got.length + missing := by
          rw [nothing, List.append_nil]
          omega
        have stays : link.position + min missing coming.length = link.position := by
          rw [nothing, List.length_nil, Nat.min_zero, Nat.add_zero]
        rw [Peer.deliver_of_leading_eq_nil zero nothing, served_of_lt short, stays, nothing,
          List.append_nil, List.take_nil]
        cases follows : stop (host.network.peer c).incoming with
        | some f => exact ⟨_, rfl, .one c missing _, by simp⟩
        | none =>
          refine ⟨[.receiveInto c missing (some [])], ?_, .one c missing _,
            by simp⟩
          rw [← place]
          rfl
      · obtain ⟨bytes, nonempty, fits, first, delivers⟩ :=
          Peer.deliver_of_leading_ne_nil zero nothing
        have positive : 0 < bytes.length := List.length_pos_iff.2 nonempty
        have there : bytes.length ≤ coming.length := by
          rw [show coming = bytes ++ _ from first, List.length_append]
          exact Nat.le_add_right _ _
        rw [delivers]
        dsimp only
        rw [if_pos nonempty]
        let mid : Host := host.drained c bytes.length [.receiveInto c missing (some bytes)]
        obtain ⟨es, ended, receives, gave⟩ := ih (missing - bytes.length) (by omega) (got ++ bytes)
          { link with position := link.position + bytes.length } mid has usable reads
          (by rw [place, List.length_append, Nat.add_assoc])
        have here : (mid.network.peer c).incoming =
            left bytes.length (host.network.peer c).incoming := Host.incoming_drained _ _ _
        obtain ⟨-, follows⟩ := leading_left there
        rw [here] at ended gave
        refine ⟨.receiveInto c missing (some bytes) :: es, ?_,
          (Receives.one c missing _).append receives, ?_⟩
        · refine Eq.trans ended ?_
          rw [served_append fits, follows, ← first, Host.drained_drained _ _ _ there]
          have moved : link.position + bytes.length + min (missing - bytes.length)
              (leading (left bytes.length (host.network.peer c).incoming)).length =
              link.position + min missing coming.length := by
            rw [show coming = bytes ++ _ from first, List.length_append]
            omega
          rw [moved, Nat.add_sub_cancel' fits]
          rfl
        · rw [show coming = bytes ++ _ from first, List.take_append, List.take_of_length_le fits,
            ← gave]
          simp

-- ════════════════════════════════════════════════════════════════════════
-- A whole window
-- ════════════════════════════════════════════════════════════════════════

/-- The way to a data connection at the start of a window. -/
def approach (start : Nat) : Act (Held ByteStream) ConnectionId := do
  discard <| ByteStream.seek start Origin.start.code
  ByteStream.whileOpen Link.dataConnection

/-- What the stream under a reader does for a window. -/
def serve (start length : Nat) : Act (Held ByteStream) Bytes := do
  discard <| ByteStream.seek start Origin.start.code
  ByteStream.reserve length
  gather start length []

/-- A window is served by the stream under the reader, and is counted. -/
theorem outcome_fetch (start : Nat) {length : Nat} (positive : 0 < length) (reader : WindowReader)
    (host : Host) :
    Act.outcome (fetch start length) ⟨reader, host⟩ =
      let outcome := Act.outcome (serve start length) ⟨reader.stream, host⟩
      (outcome.1, ⟨⟨outcome.2.own, Tally.after reader.tally outcome.1⟩, outcome.2.host⟩) := by
  have nonneg : ¬(start : Int) < 0 := Int.not_lt.2 (Int.natCast_nonneg start)
  have positive : ¬(length : Int) ≤ 0 := by omega
  unfold fetch
  rw [if_neg nonneg, if_neg positive]
  change Act.outcome (onOwnStream (serve start length) >>= fun window => do
    count fun tally => { tally with bytesFetched := tally.bytesFetched + window.length }
    pure window) ⟨{ reader with
      tally := { reader.tally with requestsMade := reader.tally.requestsMade + 1 } }, host⟩ = _
  unfold onOwnStream Held.zoom
  rw [Act.outcome_bind, Act.outcome_zoom]
  rcases Act.outcome (serve start length) ⟨reader.stream, host⟩ with ⟨e | window, held⟩ <;> rfl

/-- How a stream gets to a data connection at the start of a window: it is moved first, and then the
connection is made if there is none. -/
structure Approached (start : Nat) (c : ConnectionId) (link mid after : Link)
    (host host' host'' : Host) (es fs : List Event) : Prop where
  sought : Act.outcome (ByteStream.seek start Origin.start.code) ⟨.opened link, host⟩ =
    (.ok start, ⟨.opened mid, host'⟩)
  seeking : Link.Seeking start Origin.start.code link es (.ok start) mid
  connected : Act.outcome Link.dataConnection ⟨mid, host'⟩ = (.ok c, ⟨after, host''⟩)
  connecting : Link.Connecting mid fs (.ok c) after
  grows : host.network.Extends (es ++ fs) host''.network
  usable : mid.outOfStep = none
  place : mid.position = start

/-- **The way to the data connection.** -/
theorem approached_of_ok {start : Nat} {stream : ByteStream} {ready : Held ByteStream}
    (approaches : Act.outcome (approach start) ⟨stream, host⟩ = (.ok c, ready)) :
    ∃ link mid after host' host'' es fs,
      stream = .opened link ∧ ready = ⟨.opened after, host''⟩ ∧
      Approached start c link mid after host host' host'' es fs := by
  unfold approach at approaches
  rw [Act.outcome_discard_bind] at approaches
  obtain ⟨es, further, seeks⟩ := ByteStream.seek_does ⟨stream, host⟩ start Origin.start.code
  rcases sought : Act.outcome (ByteStream.seek start Origin.start.code) ⟨stream, host⟩ with
    ⟨e | position, mid, host'⟩
  · rw [sought] at approaches
    cases approaches
  rw [sought] at approaches seeks further
  generalize hr : (Except.ok position : Except Failure Int) = r at seeks
  cases seeks with
  | refused => cases hr
  | @done link mid _ _ seeking =>
    subst hr
    obtain ⟨cause, failed, -⟩ | ⟨usable, r, move, same⟩ := seeking.moving_of_start
    · cases failed
    cases r with
    | error => cases same
    | ok place =>
      obtain rfl : position = place := Except.ok.inj same
      obtain ⟨there, arrived, -⟩ := move.of_ok
      obtain rfl : start = place := Int.ofNat.inj there
      have usable' : mid.outOfStep = none := by cases move <;> exact usable
      dsimp only at approaches
      rw [ByteStream.outcome_whileOpen_opened] at approaches
      obtain ⟨fs, last, connecting⟩ := Link.dataConnection_does ⟨mid, host'⟩
      rcases connected : Act.outcome Link.dataConnection ⟨mid, host'⟩ with ⟨r, after, host''⟩
      rw [connected] at approaches connecting last
      cases approaches
      exact ⟨link, mid, after, host', host'', es, fs, rfl, rfl, sought, seeking, connected,
        connecting, further.trans last, usable', arrived⟩

/-- The way to the data connection is free between willing peers, from any start that can be written
down. -/
theorem exists_approach {start : Nat} {id : Int} {rest : List Acceptance}
    (usable : link.outOfStep = none) (without : link.data = none)
    (known : link.session.id = some id) (writable : Text.Writable start)
    (made : link.control.index < host.network.connections.length)
    (willing : (host.network.peer link.control).Admits
      (Command.transfer link.session.direction start).line.length)
    (ready : host.network.nextPeer.Ready link.settings id)
    (takes : TakesLine (Command.runSession id).line.length host.network.nextPeer.acceptances rest) :
    ∃ held, Act.outcome (approach start) ⟨.opened link, host⟩ = (.ok host.network.nextId, held) ∧
      (held.host.network.peer host.network.nextId).incoming = host.network.nextPeer.incoming := by
  obtain ⟨log, sought⟩ := Link.outcome_seek_start start host usable without
  obtain ⟨host', connected, there⟩ := Link.outcome_dataConnection { link with position := start }
    { host with log } without known writable made willing ready takes
  have incoming := congrArg Peer.incoming there
  refine ⟨⟨.opened { link with position := start, data := some host.network.nextId }, host'⟩, ?_,
    incoming⟩
  unfold approach ByteStream.seek
  rw [Act.outcome_discard_bind, ByteStream.outcome_whileOpen_opened, sought]
  dsimp only
  rw [ByteStream.outcome_whileOpen_opened, connected]

/-- The way to the data connection leaves the settings as they are. -/
theorem Approached.settings_eq {start : Nat} {mid : Link} {host'' : Host} {fs : List Event}
    (h : Approached start c link mid after host host' host'' es fs) :
    mid.settings = link.settings ∧ after.settings = link.settings := by
  have sought := h.seeking.moves.settled.1
  exact ⟨sought, ((Link.Move.connecting h.usable h.connecting).moves.settled.1).trans sought⟩

/-- The stream that the way to the data connection leaves behind. -/
theorem ready_of_approach {start : Nat} {stream : ByteStream} {ready : Held ByteStream}
    (reads : stream.direction = .read)
    (approaches : Act.outcome (approach start) ⟨stream, host⟩ = (.ok c, ready)) :
    ∃ after, ready.own = .opened after ∧ after.data = some c ∧ after.position = start ∧
      after.outOfStep = none ∧ after.session.direction = .read ∧
      after.settings = stream.settings := by
  obtain ⟨link, mid, after, host', host'', es, fs, rfl, rfl, approached⟩ :=
    approached_of_ok approaches
  have connecting := approached.connecting
  have session := approached.seeking.session_eq
  exact ⟨after, rfl, connecting.data_eq, connecting.position_eq.trans approached.place,
    connecting.usable_of_ok approached.usable,
    connecting.direction_eq.trans ((congrArg Session.direction session).trans reads),
    approached.settings_eq.2⟩

/-- **A window, worked out.** Once there is a data connection at its start, a window is served from
what that has to deliver first. -/
theorem outcome_serve {start length : Nat} {stream : ByteStream} (reads : stream.direction = .read)
    (positive : 0 < length) (room : Buffer.Fits stream.settings.memory length)
    (approaches : Act.outcome (approach start) ⟨stream, host⟩ = (.ok c, ⟨.opened after, host'⟩)) :
    let incoming := (host'.network.peer c).incoming
    let coming := leading incoming
    ∃ es, Act.outcome (serve start length) ⟨stream, host⟩ =
        (served start length coming (stop incoming),
          ⟨.opened { after with position := start + min length coming.length },
            host'.drained c length es⟩) ∧
      Receives c es ∧ received c es = coming.take length := by
  intro incoming coming
  obtain ⟨after, own, has, place, usable, direction, -⟩ := ready_of_approach reads approaches
  cases own
  obtain ⟨link, mid, after, host'', host', fs, gs, rfl, ready, approached⟩ :=
    approached_of_ok approaches
  cases ready
  have reads' : mid.session.direction = .read :=
    (congrArg Session.direction approached.seeking.session_eq).trans reads
  have room' : Buffer.Fits (ByteStream.opened mid).settings.memory length := by
    change Buffer.Fits mid.settings.memory length
    rw [approached.settings_eq.1]
    exact room
  obtain ⟨es, gathers, receives, gave⟩ :=
    outcome_gather start length [] after host' has usable direction place
  refine ⟨es, ?_, receives, gave⟩
  unfold serve
  rw [Act.outcome_discard_bind, approached.sought]
  dsimp only
  rw [ByteStream.outcome_reserve_bind room',
    outcome_gather_of_connected (Nat.ne_of_gt positive) approached.usable reads'
      approached.connected approached.connecting,
    gathers, place, List.length_nil, Nat.zero_add, List.nil_append]

end WindowReader

namespace World

variable {world : World} {number start length : Nat} {reader : Attached} {stream : ByteStream}

/-- A window of a reader, as a step. -/
theorem step_fetch (reads : world.readers[number]? = some reader)
    (has : world.streams[reader.stream]? = some stream) (start : Nat) (positive : 0 < length) :
    step (.onReader number (.fetch start length)) world =
      let outcome := Act.outcome (WindowReader.serve start length) ⟨stream, world.host⟩
      (outcome.1.map .bytes, { world with
        streams := world.streams.set reader.stream outcome.2.own
        readers := world.readers.set number
          { reader with tally := WindowReader.Tally.after reader.tally outcome.1 }
        host := outcome.2.host }) := by
  have ended : Act.outcome (WindowReader.perform (.fetch start length))
      ⟨⟨stream, reader.tally⟩, world.host⟩ =
        let outcome := Act.outcome (WindowReader.serve start length) ⟨stream, world.host⟩
        (outcome.1.map .bytes,
          ⟨⟨outcome.2.own, WindowReader.Tally.after reader.tally outcome.1⟩, outcome.2.host⟩) := by
    change Act.outcome (do pure (Answer.bytes (← WindowReader.fetch start length))) _ = _
    rw [Act.outcome_answer, WindowReader.outcome_fetch start positive]
  exact step_onReader reads has ended

/-- A reader gets to a data connection at the start of a window. -/
def Approaches (world : World) (number start : Nat) (c : ConnectionId) (ready : Held ByteStream) :
    Prop :=
  ∃ reader stream, world.readers[number]? = some reader ∧
    world.streams[reader.stream]? = some stream ∧ stream.direction = .read ∧
    Act.outcome (WindowReader.approach start) ⟨stream, world.host⟩ = (.ok c, ready)

/-- How a window is served when its data connection has these bytes to deliver first, followed by a
receive that fails or is empty. -/
structure Serves (world : World) (number start length : Nat) (c : ConnectionId)
    (ready : Held ByteStream) (coming : Bytes) (follows : Option Fault) : Prop where
  /-- The bytes are there. -/
  whole : length ≤ coming.length →
    (step (.onReader number (.fetch start length)) world).1 = .ok (.bytes (coming.take length))
  /-- The bytes end before. -/
  ended : coming.length < length → follows = none → Text.Writable (start + coming.length) →
    (step (.onReader number (.fetch start length)) world).1 =
      .error (.notEnoughData length start coming.length)
  /-- They end where the position cannot be written down. -/
  endedFar : coming.length < length → follows = none → ¬Text.Writable (start + coming.length) →
    (step (.onReader number (.fetch start length)) world).1 = .error .numberTooLong
  /-- A receive fails before. -/
  failed (f : Fault) : coming.length < length → follows = some f →
    (step (.onReader number (.fetch start length)) world).1 = .error (.fault f)
  /-- Only the window is received, or what comes first of it and what follows. -/
  calls : ∃ es, (step (.onReader number (.fetch start length)) world).2.host =
    ready.host.drained c length es ∧ Receives c es ∧ received c es = coming.take length
  /-- What comes behind the window is still to come. -/
  unread : length ≤ coming.length → leading
    ((step (.onReader number (.fetch start length)) world).2.host.network.peer c).incoming =
      coming.drop length
  /-- The stream is behind the last byte that was received. -/
  place : ∃ reader after, world.readers[number]? = some reader ∧
    (step (.onReader number (.fetch start length)) world).2.streams[reader.stream]? = some after ∧
    after.position = start + min length coming.length ∧ after.data = some c
  /-- The window is counted, and its bytes if it was served. -/
  tally : ∃ reader, world.readers[number]? = some reader ∧
    (step (.onReader number (.fetch start length)) world).2.readers[number]? = some { reader with
      tally := {
        bytesFetched := reader.tally.bytesFetched + if length ≤ coming.length then length else 0
        requestsMade := reader.tally.requestsMade + 1 } }

/-- The answer to a window, from what the data connection has to deliver. -/
theorem answer_of_approaches {c : ConnectionId} {ready : Held ByteStream}
    (approaches : world.Approaches number start c ready) (positive : 0 < length)
    (room : Buffer.Fits ready.own.settings.memory length) :
    (step (.onReader number (.fetch start length)) world).1 =
      (WindowReader.served start length (leading (ready.host.network.peer c).incoming)
        (stop (ready.host.network.peer c).incoming)).map .bytes := by
  obtain ⟨reader, stream, reads, has, direction, approaches⟩ := approaches
  obtain ⟨after, own, -, -, -, -, kept⟩ := WindowReader.ready_of_approach direction approaches
  obtain ⟨_, host⟩ := ready
  obtain rfl : _ = ByteStream.opened after := own
  have room : Buffer.Fits stream.settings.memory length := kept ▸ room
  obtain ⟨es, outcome, -⟩ := WindowReader.outcome_serve direction positive room approaches
  rw [step_fetch reads has start positive, outcome]

/-- A window of a reader that gets to a data connection at the start of it. -/
theorem serves_of_approaches {c : ConnectionId} {ready : Held ByteStream}
    (approaches : world.Approaches number start c ready) (positive : 0 < length)
    (room : Buffer.Fits ready.own.settings.memory length) :
    world.Serves number start length c ready (leading (ready.host.network.peer c).incoming)
      (stop (ready.host.network.peer c).incoming) := by
  have answer := answer_of_approaches approaches positive room
  obtain ⟨reader, stream, reads, has, direction, approaches⟩ := approaches
  obtain ⟨after, own, holds, place, -, -, kept⟩ :=
    WindowReader.ready_of_approach direction approaches
  obtain ⟨_, host⟩ := ready
  obtain rfl : _ = ByteStream.opened after := own
  have room : Buffer.Fits stream.settings.memory length := kept ▸ room
  obtain ⟨es, outcome, receives, gave⟩ :=
    WindowReader.outcome_serve direction positive room approaches
  dsimp only at answer
  have step := step_fetch reads has start positive
  rw [outcome] at step
  have unread : length ≤ (leading (host.network.peer c).incoming).length →
      leading ((host.drained c length es).network.peer c).incoming =
        (leading (host.network.peer c).incoming).drop length := by
    intro enough
    rw [Host.incoming_drained]
    exact (leading_left enough).1
  generalize leading (host.network.peer c).incoming = coming at *
  generalize stop (host.network.peer c).incoming = follows at *
  obtain ⟨inside, -⟩ := List.getElem?_eq_some_iff.1 has
  obtain ⟨inside', -⟩ := List.getElem?_eq_some_iff.1 reads
  constructor
  case whole =>
    intro enough
    rw [answer, WindowReader.served_of_le enough]
    rfl
  case ended =>
    rintro short rfl writable
    have ends : Link.endOfStream (start + coming.length) = .streamEnded (start + coming.length) :=
      Failure.quoting_of_writable _ writable
    rw [answer, WindowReader.served_of_lt short, ends]
    rfl
  case endedFar =>
    rintro short rfl long
    have ends : Link.endOfStream (start + coming.length) = .numberTooLong :=
      Failure.quoting_of_long _ long
    rw [answer, WindowReader.served_of_lt short, ends]
    rfl
  case failed =>
    rintro f short rfl
    rw [answer, WindowReader.served_of_lt short]
    rfl
  case calls => exact ⟨es, by rw [step], receives, gave⟩
  case unread =>
    intro enough
    rw [step]
    exact unread enough
  case place =>
    refine ⟨reader, .opened { after with position := start + min length coming.length }, reads, ?_,
      rfl, holds⟩
    rw [step]
    exact List.getElem?_set_self inside
  case tally =>
    refine ⟨reader, reads, ?_⟩
    rw [step, ← WindowReader.after_served]
    exact List.getElem?_set_self inside'

/-- **Windows are exact.** Once a reader has got to a data connection at the start of a window of
which there is a byte, and for whose bytes there is room, the window is served from what the
connection has to deliver before its next empty receive or failure: it is the first bytes of that if
there are enough, and no more are received; otherwise the window fails with what follows them, and
only a position that cannot be written down is in the way of saying how few there were. How the
bytes are cut into segments makes no difference. In any run the tally of the reader counts every
window that it was asked for, also those that were refused, and the bytes of those that it
served. -/
theorem fetch_exact (reads : world.readers[number]? = some reader)
    (has : world.streams[reader.stream]? = some stream) :
    (∀ start length c ready, world.Approaches number start c ready → 0 < length →
      Buffer.Fits ready.own.settings.memory length →
      let incoming := (ready.host.network.peer c).incoming
      world.Serves number start length c ready (leading incoming) (stop incoming) ∧
        ∀ world' number' c' ready', Approaches world' number' start c' ready' →
          Buffer.Fits ready'.own.settings.memory length →
          let incoming' := (ready'.host.network.peer c').incoming
          leading incoming' = leading incoming → stop incoming' = stop incoming →
          (step (.onReader number' (.fetch start length)) world').1 =
            (step (.onReader number (.fetch start length)) world).1) ∧
    ∀ steps, (World.after steps world).readers[number]? =
      some { reader with tally := reader.tally.afterAll (asked number steps world) } := by
  refine ⟨fun start length c ready approaches positive room => ⟨?_, ?_⟩, fun steps => ?_⟩
  · exact serves_of_approaches approaches positive room
  · intro world' number' c' ready' approaches' room' incoming' same follows
    rw [answer_of_approaches approaches' positive room',
      answer_of_approaches approaches positive room]
    exact congrArg (Except.map Answer.bytes)
      (congrArg₂ (WindowReader.served start length) same follows)
  · exact tally_after steps reads has

/-- A window behind the end of the letters, by way of one in front of it. -/
theorem fetch_exact_letters :
    let settings : Settings := { target := "/run/letters", route := ⟨.direct, .given⟩ }
    let waiting : List Peer := [{ incoming := [.bytes (utf8 "ok\n")] },
      { incoming := [.bytes (utf8 "ab"), .bytes (utf8 "c")] }]
    let here := World.after [.startReader settings] { host := { network := { waiting } } }
    let windows : List Step := [.onReader 0 (.fetch 0 3), .onReader 0 (.fetch 3 1)]
    ∃ stream ready, here.readers[0]? = some { stream := 0 } ∧ here.streams[0]? = some stream ∧
      here.Approaches 0 0 ⟨1⟩ ready ∧ here.Serves 0 0 3 ⟨1⟩ ready (utf8 "abc") none ∧
      (World.after windows here).readers[0]? = some { stream := 0, tally := ⟨3, 2⟩ } := by
  intro settings waiting here windows
  have reads : here.readers[0]? = some { stream := 0 } := by decide +kernel
  have there : here.streams[0]?.isSome = true := by decide +kernel
  obtain ⟨stream, has⟩ := Option.isSome_iff_exists.1 there
  have way : ∀ stream ∈ here.streams, stream.direction = .read ∧
      let outcome := Act.outcome (WindowReader.approach 0) ⟨stream, here.host⟩
      outcome.1 = .ok ⟨1⟩ ∧
        leading (outcome.2.host.network.peer ⟨1⟩).incoming = utf8 "abc" ∧
        stop (outcome.2.host.network.peer ⟨1⟩).incoming = none ∧
        Buffer.Fits outcome.2.own.settings.memory 3 := by decide +kernel
  obtain ⟨direction, connects, coming, follows, room⟩ := way stream (List.mem_of_getElem? has)
  have asked : asked 0 windows here =
      [.ok (.bytes (utf8 "abc")), .error (.notEnoughData 1 3 0)] := by decide +kernel
  have approaches : here.Approaches 0 0 ⟨1⟩ _ :=
    ⟨_, stream, reads, has, direction, Prod.ext connects rfl⟩
  obtain ⟨exact, tally⟩ := fetch_exact reads has
  refine ⟨stream, _, reads, has, approaches, ?_, ?_⟩
  · rw [← coming, ← follows]
    exact (exact 0 3 _ _ approaches (by decide) room).1
  · rw [tally windows, asked]
    rfl

/-- There is no room for a window although its first byte is there, and a window that is cut short
at a position that cannot be written down fails for that. -/
theorem fetch_exact_exceptions :
    let settings : Settings :=
      { target := "/run/letters", route := ⟨.direct, .given⟩, memory := 2 ^ 47 }
    let waiting : List Peer := [{ incoming := [.bytes (utf8 "ok\n")] },
      { incoming := [.bytes (utf8 "ab")] }]
    let here := World.after [.startReader settings] { host := { network := { waiting } } }
    (run [.onReader 0 (.fetch 0 1), .onReader 0 (.fetch 1 (2 ^ 62))] here).1 =
        [.ok (.bytes (utf8 "a")), .error .outOfMemory] ∧
      (step (.onReader 0 (.fetch (Text.textBound - 1 : Nat) 3)) here).1 =
        .error .numberTooLong := by
  intro settings waiting here
  refine ⟨by decide +kernel, ?_⟩
  have reads : here.readers[0]? = some { stream := 0 } := by decide +kernel
  have there : here.streams[0]?.isSome = true := by decide +kernel
  obtain ⟨stream, has⟩ := Option.isSome_iff_exists.1 there
  have fresh : ∀ stream ∈ here.streams, stream.phase = .opened ∧ stream.direction = .read ∧
      stream.outOfStep = none ∧ stream.data = none ∧ stream.session.id = some 1 ∧
      stream.control = some ⟨0⟩ ∧ stream.settings = settings := by decide +kernel
  have willing : here.host.network.nextPeer = { incoming := [.bytes (utf8 "ab")] } ∧
      here.host.network.peer ⟨0⟩ = { incoming := [.bytes (utf8 "ok\n")] } ∧
      0 < here.host.network.connections.length := by decide +kernel
  obtain ⟨isOpen, direction, usable, without, known, control, own⟩ :=
    fresh stream (List.mem_of_getElem? has)
  obtain ⟨waits, speaks, made⟩ := willing
  obtain ⟨link, rfl⟩ := stream.opened_or.resolve_right (not_not_intro isOpen)
  have control : link.control = ⟨0⟩ := Option.some.inj control
  have bound : 2 < Text.textBound := by decide +kernel
  generalize start_eq : Text.textBound - 1 = start
  have writable : Text.Writable start := by
    unfold Text.Writable
    omega
  have long : ¬Text.Writable (start + (utf8 "ab").length) := by
    rw [show (utf8 "ab").length = 2 by decide +kernel]
    unfold Text.Writable
    omega
  have all : AllTake [] := nofun
  have admits : (here.host.network.peer link.control).Admits
      (Command.transfer link.session.direction start).line.length := by
    obtain ⟨rest, takes, -⟩ := all.takesLine _
    rw [control, speaks]
    exact ⟨⟨rest, takes⟩, [], [], by decide +kernel⟩
  have meets : here.host.network.nextPeer.Ready link.settings 1 := by
    rw [waits, show link.settings = settings from own]
    exact ⟨⟨rfl, nofun⟩, rfl, Text.writable_of_natAbs_lt (by decide)⟩
  obtain ⟨rest, takes, -⟩ := all.takesLine (Command.runSession 1).line.length
  obtain ⟨ready, approach, incoming⟩ := WindowReader.exists_approach usable without known writable
    (by rw [control]; exact made) admits meets (by rw [waits]; exact takes)
  have approaches : here.Approaches 0 start _ ready := ⟨_, _, reads, has, direction, approach⟩
  obtain ⟨after, opened, -, -, -, -, kept⟩ := WindowReader.ready_of_approach direction approach
  have room : Buffer.Fits ready.own.settings.memory 3 := by
    rw [opened]
    change Buffer.Fits after.settings.memory 3
    rw [kept, own]
    decide
  have serves := serves_of_approaches approaches (by decide : 0 < 3) room
  rw [incoming, waits] at serves
  exact serves.endedFar (by decide +kernel) rfl long

end World

end SessionStream
