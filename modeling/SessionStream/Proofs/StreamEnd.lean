import SessionStream.Proofs.Outcomes
import SessionStream.Proofs.Segments

/-!
# The end of a stream

A receive ends with the end of the stream if it brought nothing. Asked for at least one byte, it
brings nothing only where the data connection has come to its end, so no bytes are lost on a caller
who stops there. Asked for none, it brings nothing wherever the stream is, and the end it reports is
no end: bytes may come next.

## Main definitions

- `World.RanDry` — a step whose last call asked the data connection for bytes and got none

## Main results

- `Link.ended_iff` — when a receive ends with the end of the stream
- `World.streamEnded_iff` — the same for the steps of a world, and what it takes to see an end
- `World.streamEnded_of_no_room` — an end that is reported in front of a byte
-/

namespace SessionStream

variable {c : ConnectionId} {es : List Event}

namespace Link

variable {link after : Link} {host host' : Host} {e : Failure} {position : Nat}

/-- A data connection fails to come about for other reasons than its end. -/
theorem Connecting.ne_streamEnded (h : Connecting link es (.error e) after) (position : Nat) :
    e ≠ .streamEnded position := by
  cases h with
  | unwritable => exact nofun
  | unheard _ exchange =>
    rcases exchange.ofCall with rfl | ofCall
    · exact nofun
    · rintro rfl
      cases ofCall
  | rejected => exact nofun
  | unjoined _ _ _ join =>
    rintro rfl
    cases join.ofCall

/-- The end of the stream is what the data connection gave, and the last thing that was seen. -/
theorem Receiving.ended_of_streamEnded {limit : Nat}
    (h : Receiving limit link es (.error (.streamEnded position)) after) :
    ∃ c fs, after.data = some c ∧ es = fs ++ [.receiveInto c limit (some [])] := by
  generalize hr : (Except.error (.streamEnded position) : Except Failure Bytes) = r at h
  cases h with
  | unusable => cases hr
  | misdirected => cases hr
  | unconnected _ _ connect =>
    exact absurd (Except.error.inj hr).symm (connect.ne_streamEnded position)
  | failed => cases hr
  | ended _ _ connect => exact ⟨_, _, connect.data_eq, rfl⟩
  | received => cases hr

/-- So is a read that gives no bytes, if it was to give some. -/
theorem Reading.ended_of_nil {wanted : Nat} (positive : wanted ≠ 0)
    (h : Reading wanted link es (.ok []) after) :
    ∃ c fs, after.data = some c ∧ es = fs ++ [.receiveInto c wanted (some [])] := by
  generalize hr : (Except.ok [] : Except Failure Bytes) = r at h
  cases h with
  | unusable zero => exact absurd zero positive
  | nothing zero => exact absurd zero positive
  | @once _ r _ _ receive =>
    unfold withoutEnd at hr
    split at hr
    · exact receive.ended_of_streamEnded
    · subst hr
      obtain ⟨some, -⟩ := receive.length_of_ok
      cases some

/-- **The end of the stream**: with its data connection at hand, a receive ends with it if it asks
for nothing, or if nothing comes first and no failure comes instead. Only a position that cannot be
written down is in the way. -/
theorem ended_iff (limit : Nat) (usable : link.outOfStep = none)
    (reads : link.session.direction = .read)
    (connected : Act.outcome dataConnection ⟨link, host⟩ = (.ok c, ⟨after, host'⟩)) :
    (∃ position, (Act.outcome (receive limit) ⟨link, host⟩).1 = .error (.streamEnded position)) ↔
      (limit = 0 ∨ leading (host'.network.peer c).incoming = [] ∧
        stop (host'.network.peer c).incoming = none) ∧ Text.Writable after.position := by
  have dry (position : Nat) : (∃ p, endOfStream position = .streamEnded p) ↔
      Text.Writable position := by
    unfold endOfStream
    by_cases short : Text.Writable position
    · rw [Failure.quoting_of_writable _ short]
      exact ⟨fun _ => short, fun _ => ⟨position, rfl⟩⟩
    · rw [Failure.quoting_of_long _ short]
      exact ⟨nofun, fun writable => absurd writable short⟩
  rw [outcome_receive limit usable reads connected]
  generalize host'.network.peer c = peer
  by_cases zero : limit = 0
  · have none : peer.deliver limit = (.ok [], peer) := if_pos zero
    rw [none]
    simp [zero, dry]
  · by_cases nothing : leading peer.incoming = []
    · rw [Peer.deliver_of_leading_eq_nil zero nothing]
      cases stop peer.incoming <;> simp [zero, nothing, dry]
    · obtain ⟨bytes, some, -, -, delivers⟩ := Peer.deliver_of_leading_ne_nil zero nothing
      simp [delivers, some, zero, nothing]

end Link

namespace World

variable {world : World} {number : Nat} {stream : ByteStream}

/-- The last call of a step asked the data connection of the stream for at least one byte, and got
none. -/
def RanDry (world : World) (number limit : Nat) (next : World) : Prop :=
  limit ≠ 0 ∧ ∃ c es stream, next.trace = world.trace ++ (es ++ [.receiveInto c limit (some [])]) ∧
    next.streams[number]? = some stream ∧ stream.data = some c

theorem ranDry_of_receive (has : world.streams[number]? = some stream) {limit position : Nat}
    {next : World} (positive : limit ≠ 0)
    (ended : World.step (.onStream number (.receive limit)) world =
      (.error (.streamEnded position), next)) : world.RanDry number limit next := by
  obtain ⟨es, stream', grows, here, performs⟩ := step_performing has (.receive limit)
  rw [ended] at grows here performs
  generalize hr : (Except.error (.streamEnded position) : Except Failure Answer) = r at performs
  cases performs with
  | @receive _ _ _ _ r receiving =>
    cases r with
    | ok => cases hr
    | error e =>
      obtain rfl : Failure.streamEnded position = e := Except.error.inj hr
      cases receiving with
      | done receive =>
        obtain ⟨c, fs, data, rfl⟩ := receive.ended_of_streamEnded
        exact ⟨positive, c, fs, _, grows, here, data⟩

/-- A read that is not asked for no bytes is asked for some. -/
theorem wantedSize_ne_zero {size : Option Int} (other : size ≠ some 0) :
    ByteStream.wantedSize size ≠ 0 := by
  unfold ByteStream.wantedSize Link.defaultReadSize
  cases size with
  | none => exact nofun
  | some n =>
    have nonzero : n ≠ 0 := fun zero => other (congrArg some zero)
    dsimp only
    split <;> omega

theorem ranDry_of_read (has : world.streams[number]? = some stream) {size : Option Int}
    {next : World} (other : size ≠ some 0)
    (ended : World.step (.onStream number (.read size)) world = (.ok (.bytes []), next)) :
    world.RanDry number (ByteStream.wantedSize size) next := by
  obtain ⟨es, stream', grows, here, performs⟩ := step_performing has (.read size)
  rw [ended] at grows here performs
  generalize hr : (Except.ok (.bytes []) : Except Failure Answer) = r at performs
  cases performs with
  | unroomy => cases hr
  | @read _ _ _ _ r reading =>
    cases r with
    | error => cases hr
    | ok bytes =>
      obtain rfl : ([] : Bytes) = bytes := Answer.bytes.inj (Except.ok.inj hr)
      cases reading with
      | done read =>
        obtain ⟨c, fs, data, rfl⟩ := read.ended_of_nil (wantedSize_ne_zero other)
        exact ⟨wantedSize_ne_zero other, c, fs, _, grows, here, data⟩

/-- The end of a stream, seen from a world. -/
theorem step_receive_ended_iff (has : world.streams[number]? = some stream)
    {ready : Held ByteStream} (usable : stream.outOfStep = none) (reads : stream.direction = .read)
    (connects : Act.outcome (ByteStream.whileOpen Link.dataConnection) ⟨stream, world.host⟩ =
      (.ok c, ready)) (limit : Nat) :
    (∃ position next, World.step (.onStream number (.receive limit)) world =
        (.error (.streamEnded position), next)) ↔
      (limit = 0 ∨ leading (ready.host.network.peer c).incoming = [] ∧
        stop (ready.host.network.peer c).incoming = none) ∧ Text.Writable ready.own.position := by
  cases stream with
  | unopened => cases connects
  | closed => cases connects
  | opened link =>
    rw [ByteStream.outcome_whileOpen_opened] at connects
    rcases connected : Act.outcome Link.dataConnection ⟨link, world.host⟩ with ⟨r, after, host⟩
    rw [connected] at connects
    cases connects
    refine Iff.trans ?_ (Link.ended_iff limit usable reads connected)
    have stepped : World.step (.onStream number (.receive limit)) world =
        ((Act.outcome (Link.receive limit) ⟨link, world.host⟩).1.map fun chunk => .bytes chunk.val,
          _) := step_onOpen has rfl
    rw [stepped]
    rcases Act.outcome (Link.receive limit) ⟨link, world.host⟩ with ⟨e | chunk, later⟩
    · simp [Except.map]
    · simp [Except.map]

/-- **End of stream.** A receive that is asked for at least one byte ends with the end of the stream
only if the last call asked the data connection for as much and got none; and so does a read that
gives no bytes and was not asked for none. Once the data connection of a usable stream that reads is
there, a receive ends with the end of the stream exactly if it is asked for no bytes, or if no bytes
come first and no failure comes instead, where the position can be written down. -/
theorem streamEnded_iff (has : world.streams[number]? = some stream) :
    (∀ limit position next, limit ≠ 0 →
      World.step (.onStream number (.receive limit)) world =
        (.error (.streamEnded position), next) →
      world.RanDry number limit next) ∧
    (∀ size next, size ≠ some 0 →
      World.step (.onStream number (.read size)) world = (.ok (.bytes []), next) →
      world.RanDry number (ByteStream.wantedSize size) next) ∧
    ∀ c ready, stream.outOfStep = none → stream.direction = .read →
      Act.outcome (ByteStream.whileOpen Link.dataConnection) ⟨stream, world.host⟩ =
        (.ok c, ready) →
      let incoming := (ready.host.network.peer c).incoming
      ∀ limit, (∃ position next, World.step (.onStream number (.receive limit)) world =
          (.error (.streamEnded position), next)) ↔
        (limit = 0 ∨ leading incoming = [] ∧ stop incoming = none) ∧
          Text.Writable ready.own.position := by
  refine ⟨fun limit position next positive ended => ranDry_of_receive has positive ended,
    fun size next other ended => ranDry_of_read has other ended, ?_⟩
  intro c ready usable reads connects incoming limit
  exact step_receive_ended_iff has usable reads connects limit

/-- A letter, and the end behind it. -/
theorem streamEnded_iff_letter :
    let settings : Settings := { target := "/run/letters", route := ⟨.direct, .given⟩ }
    let waiting : List Peer := [{ incoming := [.bytes (utf8 "ok\n")] },
      { incoming := [.bytes (utf8 "a")] }]
    let world := after [.start settings "r", .onStream 0 (.receive 2)]
      { host := { network := { waiting } } }
    ∃ next, World.step (.onStream 0 (.receive 2)) world = (.error (.streamEnded 1), next) ∧
      world.RanDry 0 2 next := by
  intro settings waiting world
  have there : world.streams[0]?.isSome = true := by decide +kernel
  obtain ⟨stream, has⟩ := Option.isSome_iff_exists.1 there
  have ended : (World.step (.onStream 0 (.receive 2)) world).1 = .error (.streamEnded 1) := by
    decide +kernel
  have step : World.step (.onStream 0 (.receive 2)) world =
      (.error (.streamEnded 1), (World.step (.onStream 0 (.receive 2)) world).2) :=
    Prod.ext ended rfl
  exact ⟨_, step, (streamEnded_iff has).1 2 1 _ (by decide) step⟩

/-- A receive that is asked for no bytes ends with the end of the stream, and the next one gives a
byte. -/
theorem streamEnded_of_no_room :
    let settings : Settings := { target := "/run/letters", route := ⟨.direct, .given⟩ }
    let waiting : List Peer := [{ incoming := [.bytes (utf8 "ok\n")] },
      { incoming := [.bytes (utf8 "a")] }]
    let steps : List Step :=
      [.start settings "r", .onStream 0 (.receive 0), .onStream 0 (.receive 1)]
    let world : World := { host := { network := { waiting } } }
    (run steps world).1 =
        [.ok (.number 0), .error (.streamEnded 0), .ok (.bytes (utf8 "a"))] ∧
      leading ((after (steps.take 2) world).host.network.peer ⟨1⟩).incoming = utf8 "a" := by
  decide +kernel

end World

end SessionStream
