import SessionStream.CommandLine.Programs
import SessionStream.Proofs.Errands

/-!
# The streams of commands

The stream of a command is made by the program itself, so more is known of it than of any stream:
its session gets the first id, and it has room for what is read at once. The bodies of the commands
are loops over operations of that stream and over the file of the command. Each is described by the
errands that it runs and by what comes of it, whatever the network and the file answer.

## Main definitions

- `Invocation.stream`, `Invocation.offset` — the stream of a command, and where it starts
- `Invocation.Calls` — the errands that a command may run with its open stream
- `Link.Serves` — an open stream of a command
- `Link.Uploading` — the writes of a source into a stream

## Main results

- `Invocation.connect_does` — opening the stream of a command
- `Working.asks_startAt`, `Working.asks_copyOut`, `Working.asks_upload` — the bodies of the commands
-/

namespace SessionStream

open HasNetwork (network)

variable {es : List Event} {c : ConnectionId}

-- ════════════════════════════════════════════════════════════════════════
-- Opening
-- ════════════════════════════════════════════════════════════════════════

namespace Invocation

/-- Where in the stream a command starts. -/
def offset : Invocation → Nat
  | .cat _ offset _ _ _ => offset
  | .put _ _ offset _ => offset
  | .stat _ _ => 0

/-- What a command works with. -/
def target : Invocation → Word
  | .cat target _ _ _ _ => target
  | .put target _ _ _ => target
  | .stat target _ => target

/-- The connect timeout that a command asks for. -/
def timeout : Invocation → Int
  | .cat _ _ _ _ timeout => timeout
  | .put _ _ _ timeout => timeout
  | .stat _ timeout => timeout

/-- Which way a command moves payload. -/
def direction : Invocation → Direction
  | .put .. => .write
  | _ => .read

/-- What the stream of a command is asked to be, where sockets take timeouts in this range. -/
def settings (invocation : Invocation) (range : Timeout.Range) : Settings :=
  { target := invocation.target, timeout := ⟨invocation.timeout⟩
    route := ⟨.socket range, .shared⟩ }

/-- The stream of a command, before it is opened. -/
def stream (invocation : Invocation) (range : Timeout.Range) : ByteStream :=
  .unopened (invocation.settings range) { direction := invocation.direction }

/-- The errands that a command may run with its open stream. A copy hands on what it reads, as the
file takes it; an upload reads on in its file up to the end, or up to where that cannot be read. -/
inductive Calls (around : Surroundings) : Invocation → Errand → Prop
  | start {invocation : Invocation} (moves : invocation.offset ≠ 0) (r : Except Failure Answer) :
      Calls around invocation ⟨.ask (.seek invocation.offset Origin.start.code), r⟩
  | read {target : Word} {offset : Nat} {length : Option Nat} {output : Option Word}
      {timeout : Int} {size : Nat} (positive : 0 < size) (few : size ≤ Link.defaultReadSize)
      (r : Except Failure Answer) :
      Calls around (.cat target offset length output timeout) ⟨.ask (.read (some (size : Int))), r⟩
  | hand {target : Word} {offset : Nat} {length : Option Nat} {output : Option Word}
      {timeout : Int} {sink : Sink} (opens : around.sink output = .ok sink)
      {refusal : Option Refusal} (known : refusal = none ∨ refusal ∈ sink.writes) :
      Calls around (.cat target offset length output timeout) (.permission .hand refusal)
  | write {target name : Word} {offset : Nat} {timeout : Int} {data : Bytes}
      (some : data ≠ []) (few : data.length ≤ Working.pieceSize) (r : Except Failure Answer) :
      Calls around (.put target name offset timeout) ⟨.ask (.write data), r⟩
  | take {target name : Word} {offset : Nat} {timeout : Int} {source : Source}
      (opens : around.source name = .ok source) :
      Calls around (.put target name offset timeout) (.permission .take source.fault)
  | size {target : Word} {timeout : Int} (r : Except Failure Answer) :
      Calls around (.stat target timeout) ⟨.ask (.seek 0 Origin.size.code), r⟩

end Invocation

variable {range : Timeout.Range}

/-- An open stream of a command: it is what the command asked for, and its session has the first id
of the program. -/
structure Link.Serves (link : Link) (invocation : Invocation) (range : Timeout.Range) : Prop where
  settings : link.settings = invocation.settings range
  session : link.session = { direction := invocation.direction, id := some 1 }

/-- There is room for what a stream asks for at once if no one says how much. -/
def Link.Roomy (link : Link) : Prop :=
  Buffer.Fits link.settings.memory Link.defaultReadSize

theorem Link.Serves.roomy {link : Link} {invocation : Invocation}
    (serves : link.Serves invocation range) : link.Roomy := by
  unfold Link.Roomy
  rw [serves.settings]
  have room : Link.defaultReadSize < Buffer.indexBound := by decide
  exact ⟨room, Nat.le_of_lt room⟩

theorem Link.Connecting.roomy {link after : Link} (h : link.Connecting es (.ok c) after)
    (usable : link.outOfStep = none) (roomy : link.Roomy) : after.Roomy := by
  unfold Link.Roomy
  rwa [(Link.Move.connecting usable h).moves.settled.1]

theorem Link.Serves.id_writable {link : Link} {invocation : Invocation}
    (serves : link.Serves invocation range) :
    ∀ id, link.session.id = some id → Text.Writable id := by
  rintro id known
  rw [serves.session] at known
  obtain rfl := Option.some.inj known
  exact Text.writable_of_natAbs_lt (by decide)

/-- Whatever an open stream does, it stays one of the command. -/
theorem Link.Serves.of_moves {link after : Link} {invocation : Invocation} {ps : List Placed}
    (serves : link.Serves invocation range) (moves : link.Moves es ps after) :
    after.Serves invocation range := by
  obtain ⟨settings, session⟩ := moves.settled
  refine ⟨settings.trans serves.settings, (session ?_).trans serves.session⟩
  rw [Session.assigned, serves.session]
  rfl

/-- What an attempt to open a stream does to the counter of ids. -/
theorem ByteStream.establish_numbers (settings : Settings) (held : Held Session) :
    Act.Does (establish settings) held fun _ _ after =>
      Session.Numbering settings.route.ids held after := by
  unfold establish
  refine Act.Does.bind (Act.Does.onHeld (((locate_does _ _).keepingIds
    (World.keepsIds_locate _)).mono ?_))
  rintro r es host ⟨⟨rfl, hr⟩, kept⟩
  cases r with
  | error e => exact .kept rfl (kept _)
  | ok address =>
    refine Act.Does.bind ((Session.join_does _ _ _ _).mono ?_)
    rintro r es after ⟨join, numbering⟩
    have numbering : Session.Numbering settings.route.ids held after :=
      .eq_trans (by rfl) kept numbering
    cases r with
    | error e => exact numbering
    | ok control => exact Act.does_get_bind.2 (Act.does_pure.2 numbering)

/-- A session that had no id before its stream was opened can only have the next one. -/
theorem ByteStream.id_of_connect (settings : Settings) (direction : Direction) (host : Host)
    (id : Int) (known : (Act.outcome connect
      ⟨unopened settings { direction }, host⟩).2.own.session.id = some id) :
    id = (host.ids settings.route.ids).next := by
  obtain ⟨es, -, numbering⟩ := establish_numbers settings ⟨{ direction }, host⟩
  obtain ⟨fs, -, shape⟩ := establish_does settings ⟨{ direction }, host⟩
  rw [outcome_connect_unopened] at known
  generalize Act.outcome (establish settings) ⟨{ direction }, host⟩ = o at known numbering shape
  obtain ⟨r, after⟩ := o
  have known : after.own.id = some id := by
    cases r with
    | error e => exact known
    | ok link =>
      cases address : settings.target.address with
      | error e =>
        rw [address] at shape
        cases shape.2.1
      | ok address' =>
        rw [address] at shape
        obtain ⟨r', -, hr⟩ := shape
        cases r' with
        | error e => cases hr
        | ok control =>
          have joined := congrArg (fun link => link.session.id) (Except.ok.inj hr)
          exact joined.symm.trans known
  cases numbering with
  | kept own =>
    rw [own] at known
    cases known
  | taken _ id' =>
    rw [id'] at known
    exact (Option.some.inj known).symm

/-- **Opening** the stream of a command. -/
theorem Invocation.connect_does (invocation : Invocation) (range : Timeout.Range) (net : Network) :
    Act.Does ByteStream.connect ⟨invocation.stream range, { network := net }⟩ fun r es after =>
      ByteStream.Opening (invocation.stream range) es r after.own ∧
      ∀ id, after.own.session.id = some id → id = 1 := by
  obtain ⟨es, grows, opening⟩ :=
    ByteStream.connect_does ⟨invocation.stream range, { network := net }⟩
  exact ⟨es, grows, opening,
    ByteStream.id_of_connect (invocation.settings range) invocation.direction _⟩

/-- A stream that has just been opened. -/
structure Link.Fresh (link : Link) : Prop where
  position : link.position = 0
  data : link.data = none
  outOfStep : link.outOfStep = none

/-- A session that was joined has its id. -/
theorem Session.Joining.assigned {route : Route} {address : Address} {timeout : Int}
    {session after : Session} (h : Joining route address timeout session es (.ok c) after) :
    after.assigned = true := by
  cases h with
  | joined _ introduced => exact introduced.assigned

/-- A command with an open stream. -/
theorem Invocation.opened_of_connect {invocation : Invocation} {net : Network}
    {mid : Held ByteStream}
    (h : Act.outcome ByteStream.connect ⟨invocation.stream range, { network := net }⟩ =
      (.ok (), mid)) :
    ∃ link es, mid.own = .opened link ∧ link.Fresh ∧ link.Serves invocation range ∧
      net.Extends es mid.host.network ∧
      Session.Joining (invocation.settings range).route link.address
        (invocation.settings range).timeout.effective
        { direction := invocation.direction } es (.ok link.control) link.session := by
  obtain ⟨es, grows, opening, numbers⟩ := invocation.connect_does range net
  rw [h] at grows opening numbers
  obtain ⟨own, host⟩ := mid
  generalize hr : (Except.ok () : Except Failure Unit) = r at opening
  cases opening with
  | again => cases hr
  | unlocated => cases hr
  | unjoined => cases hr
  | @joined _ _ session _ _ _ _ join =>
    refine ⟨_, es, rfl, ⟨rfl, rfl, rfl⟩, ⟨rfl, ?_⟩, grows, join⟩
    obtain ⟨id, known⟩ := Option.isSome_iff_exists.1 join.assigned
    obtain rfl := numbers id known
    have direction := join.direction_eq
    obtain ⟨direction', id'⟩ := session
    obtain rfl : direction' = invocation.direction := direction
    obtain rfl : id' = some 1 := known
    rfl

/-- Opening a stream brings no refusal of a value. -/
theorem ByteStream.accepting_of_connect {held mid : Held ByteStream} {r : Except Failure Unit}
    (accepting : held.host.network.Accepting) (h : Act.outcome connect held = (r, mid)) :
    mid.host.network.Accepting := by
  have pays := connect_frugal.pays held accepting
  rw [h] at pays
  exact pays.leaves.within accepting

/-- Why the stream of a command cannot be opened whatever the network does, if there is more to
blame than an empty target. -/
inductive Invocation.Unopenable (invocation : Invocation) (range : Timeout.Range) : Failure → Prop
  /-- The connect timeout is refused. -/
  | timeout {e : Failure} (refused : (invocation.settings range).route.dialer.refusal?
      (invocation.settings range).timeout.effective = some e) : Unopenable invocation range e
  /-- The target is broken. -/
  | target {position more : Nat} {stray : Surrogate}
      (broken : invocation.target.address = .error (.unencodable position stray more)) :
      Unopenable invocation range (.unencodable position stray more)

/-- A command whose stream cannot be opened, where no peer refuses a value. -/
theorem Invocation.unopened_of_connect {invocation : Invocation} {net : Network}
    {mid : Held ByteStream} {e : Failure} (accepting : net.Accepting)
    (h : Act.outcome ByteStream.connect ⟨invocation.stream range, { network := net }⟩ =
      (.error e, mid)) :
    (∃ session, mid.own = .unopened (invocation.settings range) session) ∧
      (∀ id, mid.own.session.id = some id → id = 1) ∧
      (e.isSystem = true ∨ invocation.Unopenable range e) := by
  obtain ⟨es, -, ⟨opening, numbers⟩, proper, -⟩ :=
    (invocation.connect_does range net).accepting ByteStream.connect_frugal accepting
  rw [h] at opening numbers proper
  obtain ⟨own, host⟩ := mid
  generalize hr : (Except.error e : Except Failure Unit) = r at opening
  cases opening with
  | again before => exact absurd rfl before
  | unlocated target =>
    obtain rfl := Except.error.inj hr
    refine ⟨⟨_, rfl⟩, numbers, ?_⟩
    rcases Word.address_cases target with rfl | ⟨position, stray, more, rfl⟩
    · exact .inl rfl
    · exact .inr (.target target)
  | unjoined _ join =>
    obtain rfl := Except.error.inj hr
    have explained := join.explained proper.error fun id known => by
      obtain rfl := numbers id known
      exact Text.writable_of_natAbs_lt (by decide)
    exact ⟨⟨_, rfl⟩, numbers, explained.imp_right .timeout⟩
  | joined => cases hr

-- ════════════════════════════════════════════════════════════════════════
-- The offset
-- ════════════════════════════════════════════════════════════════════════

/-- A seek from the start on a stream without a data connection calls on nobody. -/
theorem Link.Seeking.of_start {link after : Link} {offset : Nat} {r : Except Failure Int}
    (h : Seeking offset Origin.start.code link es r after) (usable : link.outOfStep = none)
    (without : link.data = none) :
    r = .ok offset ∧ es = [] ∧ after = { link with position := offset } := by
  have code : Origin.ofCode? Origin.start.code = some .start := rfl
  cases h with
  | unusable broken =>
    rw [usable] at broken
    cases broken
  | start _ _ move =>
    cases move with
    | negative below => omega
    | stayed same =>
      obtain rfl := Int.ofNat.inj same
      exact ⟨rfl, rfl, rfl⟩
    | moved there =>
      obtain rfl := Int.ofNat.inj there
      exact ⟨rfl, rfl, rfl⟩
    | dropped _ _ has =>
      rw [without] at has
      cases has
    | unclosed _ _ _ has =>
      rw [without] at has
      cases has
  | unknown _ origin | size _ origin | current _ origin | unsized _ origin | negativeSize _ origin
  | finish _ origin =>
    rw [code] at origin
    cases origin

namespace Link

variable {link mid after : Link} {source data : Bytes} {es fs : List Event}

/-- The writes of a source into an open stream: each offers the beginning of what is left, which is
not empty, and the last one may fail. -/
inductive Uploading : Bytes → Link → List Event → Except Failure Unit → Link → Prop
  | done (link : Link) : Uploading [] link [] (.ok ()) link
  | failed {source data : Bytes} {link after : Link} {es : List Event} {e : Failure}
      (some : data ≠ []) (first : data <+: source) (write : Writing data link es (.error e) after) :
      Uploading source link es (.error e) after
  | wrote {source data : Bytes} {link mid after : Link} {es fs : List Event} {count : Nat}
      {r : Except Failure Unit} (some : data ≠ []) (first : data <+: source)
      (write : Writing data link es (.ok count) mid)
      (rest : Uploading (source.drop count) mid fs r after) :
      Uploading source link (es ++ fs) r after

/-- A write that says that it sent some bytes has a data connection. -/
theorem Writing.sent_of_ok {count : Nat} (h : Writing data link es (.ok count) after) :
    count ≤ data.length ∧ after.data ≠ none := by
  cases h with
  | sent _ _ connect fits =>
    refine ⟨fits, ?_⟩
    rw [connect.data_eq]
    exact Option.some_ne_none _

theorem Uploading.moves {r : Except Failure Unit} (h : Uploading source link es r after) :
    ∃ ps, link.Moves es ps after := by
  induction h with
  | done link => exact ⟨[], .refl link⟩
  | failed _ _ write =>
    obtain ⟨ps, moves, -⟩ := write.moves
    exact ⟨ps, moves⟩
  | wrote _ _ write _ ih =>
    obtain ⟨ps, moves, -⟩ := write.moves
    obtain ⟨qs, moves'⟩ := ih
    exact ⟨_, moves.trans moves'⟩

/-- A source is written piece by piece. -/
theorem Uploading.append {later : Bytes} {r : Except Failure Unit}
    (h : Uploading source link es (.ok ()) mid) (h' : Uploading later mid fs r after) :
    Uploading (source ++ later) link (es ++ fs) r after := by
  generalize hr : (Except.ok () : Except Failure Unit) = first at h
  induction h with
  | done => exact h'
  | failed => cases hr
  | wrote some first write rest ih =>
    have fits := Nat.le_trans write.sent_of_ok.1 first.length_le
    rw [List.append_assoc]
    refine .wrote some (first.trans (List.prefix_append ..)) write ?_
    rw [List.drop_append_of_le_length fits]
    exact ih h' hr

/-- A failure in one piece ends it all. -/
theorem Uploading.append_error {e : Failure} (later : Bytes)
    (h : Uploading source link es (.error e) after) :
    Uploading (source ++ later) link es (.error e) after := by
  generalize hr : (Except.error e : Except Failure Unit) = r at h
  induction h with
  | done => cases hr
  | failed some first write => exact .failed some (first.trans (List.prefix_append ..)) write
  | wrote some first write rest ih =>
    have fits := Nat.le_trans write.sent_of_ok.1 first.length_le
    refine .wrote some (first.trans (List.prefix_append ..)) write ?_
    rw [List.drop_append_of_le_length fits]
    exact ih hr

/-- A write that fails, fails in its send, unless it is the first and there is no data connection
yet. -/
theorem Uploading.explained {e : Failure} (h : Uploading source link es (.error e) after)
    (proper : Proper (.error e : Except Failure Unit))
    (short : ∀ id, after.session.id = some id → Text.Writable id) :
    e.isSystem = true ∨ link.data = none ∧ (ByteStream.opened link).Explained e := by
  generalize hr : (Except.error e : Except Failure Unit) = r at h
  induction h with
  | done => cases hr
  | failed _ _ write =>
    obtain rfl := Except.error.inj hr
    exact write.explained proper short
  | wrote _ _ write _ ih =>
    exact .inl ((ih short hr).resolve_right fun h => write.sent_of_ok.2 h.1)

end Link

namespace ByteStream

theorem wantedSize_natCast (size : Nat) : wantedSize (some (size : Int)) = size := by
  have nonneg : ¬(size : Int) < 0 := Int.not_lt.2 (Int.natCast_nonneg size)
  simp only [wantedSize, if_neg nonneg, Int.toNat_natCast]

/-- A command never asks for more than there is room for. -/
theorem reserve_eq_ok {memory size : Nat} (roomy : Buffer.Fits memory Link.defaultReadSize)
    (few : size ≤ Link.defaultReadSize) :
    Buffer.reserve memory (wantedSize (some (size : Int))) = .ok () := by
  rw [wantedSize_natCast, Buffer.reserve_eq_ok_iff]
  exact roomy.of_le few

/-- Only the connect timeout and the position of a stream matter. -/
theorem Explained.congr {stream after : ByteStream} {e : Failure} (h : stream.Explained e)
    (settings : stream.settings = after.settings) (position : stream.position = after.position) :
    after.Explained e := by
  cases h with
  | system system => exact .system system
  | timeout refused => exact .timeout (settings ▸ refused)
  | position long => exact .position (position ▸ long)

end ByteStream

namespace Working

open ByteStream (reserve_eq_ok)

variable {τ α : Type} {calls : Errand → Prop} {s : Held (Working τ)} {link : Link}

theorem discard_eq_bind (act : Act (Held (Working τ)) α) :
    discard act = act >>= fun _ => pure () :=
  rfl

/-- A stream that has just been opened is moved to the offset, and nobody is called on. -/
theorem asks_startAt {offset : Nat} (isOpen : s.own.stream = .opened link)
    (start : link.position = 0) (usable : link.outOfStep = none) (without : link.data = none)
    (accepting : s.host.network.Accepting)
    (allowed : offset ≠ 0 → ∀ r, calls ⟨.ask (.seek offset Origin.start.code), r⟩) :
    Asks calls (startAt offset) s fun r es t => r = .ok () ∧ es = [] ∧
      t.own = ⟨.opened { link with position := offset }, s.own.work⟩ ∧
      t.host.network.Accepting := by
  unfold startAt
  split
  · next moves =>
    rw [discard_eq_bind]
    refine Asks.bind (asks_onStream rfl (allowed moves) (((ByteStream.seek_does _ _ _).accepting
      (ByteStream.seek_frugal _ _) accepting).mono ?_))
    rintro r es t ⟨seeking, -, accepting, -⟩
    rw [show (streamOf s).own = .opened link from isOpen] at seeking
    obtain ⟨t, host⟩ := t
    cases seeking with
    | refused notOpen => exact absurd rfl notOpen
    | done seeking =>
      obtain ⟨rfl, rfl, rfl⟩ := seeking.of_start usable without
      exact asks_pure ⟨rfl, rfl, rfl, accepting⟩
  · next stays =>
    obtain rfl : offset = 0 := by simpa using stays
    refine asks_pure ⟨rfl, rfl, ?_, accepting⟩
    rw [show ({ link with position := 0 } : Link) = link by rw [← start], ← isOpen]

/-- Every body begins at the offset of its command. -/
theorem asks_begin {invocation : Invocation} (around : Surroundings) {work : τ} {host : Host}
    (fresh : link.Fresh) (serves : link.Serves invocation range)
    (accepting : host.network.Accepting) :
    Asks (invocation.Calls around) (startAt invocation.offset) ⟨⟨.opened link, work⟩, host⟩
      fun r es t => r = .ok () ∧ es = [] ∧
        t.own = ⟨.opened { link with position := invocation.offset }, work⟩ ∧
        { link with position := invocation.offset }.Serves invocation range ∧
        t.host.network.Accepting :=
  (asks_startAt rfl fresh.position fresh.outOfStep fresh.data accepting .start).mono
    fun _ _ _ ⟨ended, silent, own, accepting⟩ =>
      ⟨ended, silent, own, ⟨serves.settings, serves.session⟩, accepting⟩

-- ════════════════════════════════════════════════════════════════════════
-- Copying out
-- ════════════════════════════════════════════════════════════════════════

theorem headD_eq_none_or_mem (writes : List (Option Refusal)) :
    writes.headD none = none ∨ writes.headD none ∈ writes := by
  cases writes with
  | nil => exact .inl rfl
  | cons write later => exact .inr (List.mem_cons_self ..)

/-- How many bytes the next turn of a copy asks for. -/
def turnSize (remaining : Option Nat) : Nat :=
  (remaining.map (min · Link.defaultReadSize)).getD Link.defaultReadSize

theorem turnSize_spec {remaining : Option Nat} (more : remaining ≠ some 0) :
    turnSize remaining ≠ 0 ∧ turnSize remaining ≤ Link.defaultReadSize ∧
      ∀ n ∈ remaining, turnSize remaining ≤ n := by
  unfold turnSize
  cases remaining with
  | none => exact ⟨by decide, Nat.le_refl _, fun n asked => by cases asked⟩
  | some m =>
    have positive : m ≠ 0 := fun zero => more (congrArg some zero)
    simp only [Option.map_some, Option.getD_some, Option.mem_some_iff, Link.defaultReadSize]
    refine ⟨by omega, by omega, ?_⟩
    rintro n rfl
    omega

/-- Every read fails with the blame on the outside world, or with a number that is too large. -/
theorem asks_copyTurns {invocation : Invocation} (turns : Nat) (remaining : Option Nat)
    (writes : List (Option Refusal)) {s : Held (Working Bytes)}
    (isOpen : s.own.stream = .opened link) (serves : link.Serves invocation range)
    (accepting : s.host.network.Accepting)
    (reads : ∀ size : Nat, 0 < size → size ≤ Link.defaultReadSize →
      ∀ r, calls ⟨.ask (.read (some size)), r⟩)
    (hands : ∀ refusal, refusal = none ∨ refusal ∈ writes → calls (.permission .hand refusal)) :
    Asks calls (copyTurns turns remaining writes) s fun r _ t => ∃ after,
      t.own.stream = .opened after ∧ after.Serves invocation range ∧ t.host.network.Accepting ∧
      ∀ e, r = .error e → (ByteStream.opened after).Explained e := by
  induction turns generalizing s link remaining writes with
  | zero => exact asks_pure ⟨link, isOpen, serves, accepting, fun e failed => by cases failed⟩
  | succ turns ih =>
    unfold copyTurns
    split
    · exact asks_pure ⟨link, isOpen, serves, accepting, fun e failed => by cases failed⟩
    · next more =>
      obtain ⟨nonzero, few, -⟩ := turnSize_spec more
      change Asks calls (onStream (ByteStream.read (some (turnSize remaining : Int))) >>= _) s _
      refine Asks.bind (asks_onStream rfl (reads _ (Nat.pos_of_ne_zero nonzero) few)
        (((ByteStream.read_does _ _).accepting (ByteStream.read_spends _) accepting).mono ?_))
      rintro r es t ⟨reading, proper, accepting, -⟩
      rw [show (streamOf s).own = .opened link from isOpen] at reading
      obtain ⟨e, room, -⟩ | reading := reading
      · rw [show (ByteStream.opened link).settings = link.settings from rfl,
          reserve_eq_ok serves.roomy few] at room
        cases room
      obtain ⟨t, host⟩ := t
      cases reading with
      | refused notOpen => exact absurd rfl notOpen
      | @done _ after _ _ reading =>
        obtain ⟨ps, moves, -, -⟩ := reading.moves
        have serves' := serves.of_moves moves
        cases r with
        | error e =>
          refine ⟨after, rfl, serves', accepting, fun e failed => ?_⟩
          obtain rfl := Except.error.inj failed
          refine (reading.explained proper.error serves'.id_writable).congr ?_ ?_
          · exact serves.settings.trans serves'.settings.symm
          · exact reading.position_eq_add.symm
        | ok chunk =>
          dsimp only
          split
          · exact asks_pure ⟨after, rfl, serves', accepting, fun e failed => by cases failed⟩
          · refine Asks.bind (asks_permit (hands _ (headD_eq_none_or_mem writes)) nofun ?_)
            cases writes.headD none with
            | none =>
              refine asks_advance_bind (ih _ _ rfl serves' accepting fun refusal known => ?_)
              exact hands refusal (known.imp_right List.mem_of_mem_tail)
            | some refusal =>
              refine ⟨after, rfl, serves', accepting, fun e failed => ?_⟩
              obtain rfl := Except.error.inj failed
              exact .system refusal.isSystem_failure

/-- What comes of copying. -/
theorem asks_copyOut {invocation : Invocation} (length : Option Nat)
    (writes : List (Option Refusal)) {s : Held (Working Bytes)}
    (isOpen : s.own.stream = .opened link) (serves : link.Serves invocation range)
    (accepting : s.host.network.Accepting)
    (reads : ∀ size : Nat, 0 < size → size ≤ Link.defaultReadSize →
      ∀ r, calls ⟨.ask (.read (some size)), r⟩)
    (hands : ∀ refusal, refusal = none ∨ refusal ∈ writes → calls (.permission .hand refusal)) :
    Asks calls (copyOut length writes) s fun r _ t => ∃ after,
      t.own.stream = .opened after ∧ after.Serves invocation range ∧ t.host.network.Accepting ∧
      ∀ e, r = .error e → (ByteStream.opened after).Explained e :=
  asks_get_bind (asks_copyTurns _ length writes isOpen serves accepting reads hands)

-- ════════════════════════════════════════════════════════════════════════
-- Uploading
-- ════════════════════════════════════════════════════════════════════════

/-- Every turn takes a byte from the data or an outcome from those laid down for sends. -/
theorem asks_pushTurns {data : Bytes} {turns : Nat} {s : Held (Working Nat)}
    (enough : data.length + s.host.network.pendingSends < turns)
    (isOpen : s.own.stream = .opened link) (accepting : s.host.network.Accepting)
    (allowed : ∀ offered : Bytes, offered ≠ [] → offered.length ≤ data.length →
      ∀ r, calls ⟨.ask (.write offered), r⟩) :
    Asks calls (pushTurns turns data) s fun r es t => ∃ after,
      t.own.stream = .opened after ∧ Proper r ∧ t.host.network.Accepting ∧
      Link.Uploading data link es r after ∧
      (r = .ok () → t.own.work = s.own.work + data.length) := by
  induction turns generalizing s link data with
  | zero => omega
  | succ turns ih =>
    unfold pushTurns
    split
    · next nothing =>
      obtain rfl : data = [] := List.isEmpty_iff.1 nothing
      exact asks_pure ⟨link, isOpen, .ok _, accepting, .done link, fun _ => rfl⟩
    · next more =>
      have some : data ≠ [] := fun nothing => more (List.isEmpty_iff.2 nothing)
      refine Asks.bind (asks_onStream rfl (allowed data some (Nat.le_refl _))
        (((ByteStream.write_does _ _).accepting (ByteStream.write_spends _) accepting).mono ?_))
      rintro r es t ⟨writing, proper, accepting, pays⟩
      rw [show (streamOf s).own = .opened link from isOpen] at writing
      obtain ⟨t, host⟩ := t
      cases writing with
      | refused notOpen => exact absurd rfl notOpen
      | @done _ mid _ _ write =>
        cases r with
        | error e =>
          refine ⟨mid, rfl, proper.error, accepting, .failed some (List.prefix_refl _) write, ?_⟩
          intro fine
          cases fine
        | ok count =>
          have fits := write.sent_of_ok.1
          have spent : host.network.pendingSends + (if count < data.length then 1 else 0) ≤
              s.host.network.pendingSends := pays.pendingSends
          have positive : 0 < data.length := List.length_pos_iff.2 some
          have less : (data.drop count).length + host.network.pendingSends < turns := by
            rw [List.length_drop]
            split at spent <;> omega
          refine asks_advance_bind ((ih less rfl accepting fun offered some few => ?_).mono ?_)
          · refine allowed offered some (Nat.le_trans few ?_)
            rw [List.length_drop]
            omega
          · rintro r fs u ⟨after, isOpen, proper, accepting, uploading, counted⟩
            refine ⟨after, isOpen, proper, accepting,
              .wrote some (List.prefix_refl _) write uploading, fun fine => ?_⟩
            rw [counted fine, List.length_drop]
            change s.own.work + count + (data.length - count) = _
            omega

/-- What comes of uploading: all of the source is written, unless a write fails, and only then the
source may fail. -/
theorem asks_upload {source : Bytes} {fault : Option Refusal} {s : Held (Working Nat)}
    (isOpen : s.own.stream = .opened link) (accepting : s.host.network.Accepting)
    (writes : ∀ offered : Bytes, offered ≠ [] → offered.length ≤ pieceSize →
      ∀ r, calls ⟨.ask (.write offered), r⟩)
    (takes : calls (.permission .take fault)) :
    Asks calls (upload source fault) s fun r es t => ∃ after written,
      t.own.stream = .opened after ∧ Proper written ∧ t.host.network.Accepting ∧
      Link.Uploading source link es written after ∧
      (written = .ok () → t.own.work = s.own.work + source.length) ∧
      r = written >>= fun _ => permitted fault := by
  induction source using upload.induct generalizing s link with
  | case1 =>
    rw [upload]
    exact asks_permit takes nofun
      ⟨link, .ok (), isOpen, .ok _, accepting, .done link, fun _ => rfl, rfl⟩
  | case2 b later ih =>
    rw [upload]
    generalize b :: later = source at ih ⊢
    have pushes : Asks calls (push (source.take pieceSize)) s fun r es t => ∃ after,
        t.own.stream = .opened after ∧ Proper r ∧ t.host.network.Accepting ∧
        Link.Uploading (source.take pieceSize) link es r after ∧
        (r = .ok () → t.own.work = s.own.work + (source.take pieceSize).length) := by
      refine asks_get_bind (asks_pushTurns (Nat.lt_succ_self _) isOpen accepting ?_)
      intro offered some few
      exact writes offered some (Nat.le_trans few (List.length_take_le ..))
    refine Asks.bind (pushes.mono ?_)
    rintro r es t ⟨mid, isOpen, proper, accepting, uploading, counted⟩
    cases r with
    | error e =>
      refine ⟨mid, .error e, isOpen, proper, accepting, ?_, fun fine => (by cases fine), rfl⟩
      rw [← List.take_append_drop pieceSize source]
      exact uploading.append_error _
    | ok u =>
      refine (ih isOpen accepting).mono ?_
      rintro r fs u ⟨after, written, isOpen, proper, accepting, rest, counted', ended⟩
      refine ⟨after, written, isOpen, proper, accepting, ?_, fun fine => ?_, ended⟩
      · rw [← List.take_append_drop pieceSize source]
        exact uploading.append rest
      · rw [counted' fine, counted rfl, Nat.add_assoc, ← List.length_append,
          List.take_append_drop]

/-- The body of an upload: from its offset on, all of the source is written, unless a write
fails. -/
theorem asks_startAt_upload {target name : Word} {offset : Nat} {timeout : Int} {host : Host}
    {around : Surroundings} {source : Source} (opens : around.source name = .ok source)
    (fresh : link.Fresh) (serves : link.Serves (.put target name offset timeout) range)
    (accepting : host.network.Accepting) :
    Asks (Invocation.Calls around (.put target name offset timeout))
      (do startAt offset; upload source.bytes source.fault)
      ⟨⟨.opened link, 0⟩, host⟩ fun r es t => ∃ after written,
        t.own.stream = .opened after ∧ Proper written ∧ t.host.network.Accepting ∧
        Link.Uploading source.bytes { link with position := offset } es written after ∧
        (written = .ok () → t.own.work = source.bytes.length) ∧
        r = written >>= fun _ => permitted source.fault := by
  refine Asks.bind ((asks_begin around fresh serves accepting).mono ?_)
  rintro r es t ⟨rfl, rfl, started, -, accepting⟩
  have isOpen : t.own.stream = .opened { link with position := offset } := congrArg stream started
  refine (asks_upload isOpen accepting (fun data some few => .write some few) (.take opens)).mono ?_
  rintro r fs u ⟨after, written, isOpen, proper, accepting, uploading, counted, ended⟩
  refine ⟨after, written, isOpen, proper, accepting, uploading, fun fine => ?_, ended⟩
  rw [counted fine, started]
  exact Nat.zero_add _

end Working

/-- A command runs its body between the opening and the close of its stream. -/
theorem CommandLine.execute_eq {τ α : Type} (stream : ByteStream) (work : τ) (network : Network)
    (act : Act (Held (Working τ)) α) : execute stream work network act =
      ((Act.outcome (Working.during act) ⟨⟨stream, work⟩, { network }⟩).1,
        (Act.outcome (Working.during act) ⟨⟨stream, work⟩, { network }⟩).2.own.work,
        (Act.outcome (Working.during act) ⟨⟨stream, work⟩, { network }⟩).2.host) := by
  simp only [execute, Act.outcome]
  cases Working.during act ⟨⟨stream, work⟩, { network }⟩ <;> rfl

-- ════════════════════════════════════════════════════════════════════════
-- How commands end
-- ════════════════════════════════════════════════════════════════════════

namespace CommandLine

variable (around : Surroundings)

/-- A failure ends a command with exit code 1, and nothing is told but what went wrong. -/
theorem settle_error (α : Type) (e : Failure) :
    (settle around (.error e : Except Failure α)).ending.exitCode = 1 ∧
      ((settle around (.error e : Except Failure α)).told = none ∨
        (settle around (.error e : Except Failure α)).told = some (complaint e)) := by
  unfold settle
  dsimp only
  split
  · unfold tell
    cases around.mute with
    | none => exact ⟨rfl, .inr rfl⟩
    | some refusal => exact ⟨rfl, .inl rfl⟩
  · exact ⟨rfl, .inl rfl⟩

/-- What a command has to tell in the end is told, if anything can be. -/
theorem conclude_ok (utterance : Utterance) (heard : around.mute = none) :
    conclude around none (fun _ => some utterance) (.ok ()) =
      { ending := .success, told := some utterance } := by
  simp only [conclude, tell, heard]

/-- Where the file is let go of and there is nothing to tell, only the work matters. -/
theorem exitCode_conclude_eq_zero_iff (r : Except Failure Unit) :
    (conclude around none (fun _ => none) r).ending.exitCode = 0 ↔ r = .ok () := by
  cases r with
  | ok u => exact ⟨fun _ => rfl, fun _ => rfl⟩
  | error e =>
    have failed : (conclude around none (fun _ : Unit => none) (.error e)).ending.exitCode = 1 :=
      (settle_error around Unit e).1
    rw [failed]
    exact ⟨fun fine => (by cases fine), fun fine => (by cases fine)⟩

end CommandLine

end SessionStream
