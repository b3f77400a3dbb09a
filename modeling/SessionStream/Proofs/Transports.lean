import SessionStream.Proofs.Lockstep
import SessionStream.Proofs.Worlds

/-!
# The two ways to connect

A program cannot tell from the answers of its streams whether their connections are made in one call
or by way of sockets. Only the numbers of the connections differ, because a socket takes a number
before it is known whether it can be connected.

## Main definitions

- `Step.via` — a step, with another way to connect
- `Step.Portable` — steps that mean the same in both runs
- `Step.renumber` — what a step answers in the other run
- `World.Twins` — worlds that go together

## Main results

- `World.perform_simulates` — one step
- `World.run_simulates` — a list of steps
- `World.transports_agree` — two runs of the same program give the same
-/

namespace SessionStream

open Act (Simulates)
open Twinned (Twins)

variable {ρ ρ' : Renumbering} {world world' : World}

/-- A timeout within the precision of the system's numbers can be taken. -/
theorem Timeout.representable_of_lt {timeout : Int}
    (h : timeout.natAbs < Nat.pow 2 Binary64.precision) : Representable timeout := by
  unfold Representable
  rw [Binary64.roundNat_of_lt h]
  exact Nat.lt_of_lt_of_le h (by decide +kernel)

/-- The connection that the system knows by this number. -/
def ConnectionId.ofDescriptor (n : Int) : ConnectionId :=
  ⟨n.toNat - 100⟩

theorem ConnectionId.ofDescriptor_descriptor (c : ConnectionId) :
    ofDescriptor c.descriptor = c := by
  simp only [ofDescriptor, descriptor, Int.toNat_natCast, Nat.add_sub_cancel_left]

section Sides

variable [Sockets]

namespace Step

/-- A step that makes its connections in another way. -/
def via (dialer : Dialer) : Step → Step
  | create settings mode => create (settings.via dialer) mode
  | start settings mode => start (settings.via dialer) mode
  | startReader settings => startReader (settings.via dialer)
  | join number route target timeout => join number { route with dialer } target timeout
  | step => step

/-- Steps that mean the same in both runs. A socket can get the timeout, and no connection is named
by its number. -/
def Portable (range : Timeout.Range) : Step → Prop
  | create settings _ => Timeout.Settable range settings.timeout.effective
  | start settings _ => Timeout.Settable range settings.timeout.effective
  | startReader settings => Timeout.Settable range settings.timeout.effective
  | join _ _ _ timeout => Timeout.Settable range timeout
  | enqueue peers => ∀ peer ∈ peers, peer.Portable
  | feed .. => False
  | _ => True

/-- What a step answers in the other run: the number of a connection is that of the one that stands
for it, and so are the connections of a stream. All other answers are the same. -/
def renumber (range : Timeout.Range) (ρ : Renumbering) : Step → Answer → Answer
  | onStream _ .descriptor, .number n =>
    .number ((ConnectionId.ofDescriptor n).renamed ρ).descriptor
  | join .., .number n => .number ((ConnectionId.ofDescriptor n).renamed ρ).descriptor
  | onStream _ .inspect, .stream stream => .stream (stream.renamed range ρ)
  | _, answer => answer

/-- The answers to a step in two runs, as they stay when there are more connections. -/
def Answered (step : Step) (ρ : Renumbering) (a a' : Answer) : Prop :=
  ∀ ρ', ρ <+: ρ' → a' = step.renumber Sockets.range ρ' a

theorem answered_descriptor {number : Nat} {c c' : ConnectionId} (stands : Renamed ρ c c') :
    (onStream number .descriptor).Answered ρ (.number c.descriptor) (.number c'.descriptor) := by
  intro ρ' longer
  have eq : c' = c.renamed ρ' := (stands.extend longer).2
  simp only [renumber, ConnectionId.ofDescriptor_descriptor, eq]

theorem answered_join {number : Nat} {route : Route} {target : Word} {timeout : Int}
    {c c' : ConnectionId} (stands : Renamed ρ c c') :
    (join number route target timeout).Answered ρ (.number c.descriptor)
      (.number c'.descriptor) := by
  intro ρ' longer
  have eq : c' = c.renamed ρ' := (stands.extend longer).2
  simp only [renumber, ConnectionId.ofDescriptor_descriptor, eq]

theorem answered_inspect {number : Nat} {stream stream' : ByteStream}
    (stands : Renamed ρ stream stream') :
    (onStream number .inspect).Answered ρ (.stream stream) (.stream stream') :=
  fun _ longer => congrArg Answer.stream (stands.extend longer).2

end Step

-- ════════════════════════════════════════════════════════════════════════
-- Worlds that go together
-- ════════════════════════════════════════════════════════════════════════

namespace World

/-- The worlds of two runs that go together. -/
structure Twins (ρ : Renumbering) (world world' : World) : Prop where
  host : world.host.Twins ρ world'.host
  fits : ∀ stream ∈ world.streams, stream.Fits ρ
  streams_eq : world'.streams = world.streams.map (ByteStream.renamed Sockets.range ρ)
  readers_eq : world'.readers = world.readers
  sessions_eq : world'.sessions = world.sessions

instance : Twinned World := ⟨World.Twins⟩

namespace Twins

/-- The host goes on, and the rest of the world stays as it is. -/
theorem withHost (h : Twins ρ world world') (longer : ρ <+: ρ') {host host' : Host}
    (after : host.Twins ρ' host') : Twins ρ' { world with host } { world' with host := host' } where
  host := after
  fits stream hs := (h.fits stream hs).extend longer
  streams_eq := h.streams_eq.trans (List.map_congr_left fun stream hs =>
    ((h.fits stream hs).renamed_extend longer).symm)
  readers_eq := h.readers_eq
  sessions_eq := h.sessions_eq

theorem setStream (h : Twins ρ world world') (number : Nat) {stream stream' : ByteStream}
    (stands : Renamed ρ stream stream') :
    Twins ρ { world with streams := world.streams.set number stream }
      { world' with streams := world'.streams.set number stream' } where
  host := h.host
  fits s hs := (List.mem_or_eq_of_mem_set hs).elim (h.fits s) fun eq => eq ▸ stands.1
  streams_eq := by
    rw [List.map_set, h.streams_eq, stands.2]
    rfl
  readers_eq := h.readers_eq
  sessions_eq := h.sessions_eq

theorem addStream (h : Twins ρ world world') {stream stream' : ByteStream}
    (stands : Renamed ρ stream stream') :
    Twins ρ { world with streams := world.streams ++ [stream] }
      { world' with streams := world'.streams ++ [stream'] } where
  host := h.host
  fits s hs := (List.mem_append.1 hs).elim (h.fits s) fun eq =>
    List.mem_singleton.1 eq ▸ stands.1
  streams_eq := by
    rw [List.map_append, h.streams_eq, stands.2]
    rfl
  readers_eq := h.readers_eq
  sessions_eq := h.sessions_eq

theorem length_streams (h : Twins ρ world world') :
    world'.streams.length = world.streams.length := by
  rw [h.streams_eq, List.length_map]

end Twins

variable {α : Type}

theorem entry_simulates (entries : List α) (number : Nat) :
    Simulates ρ (entry entries number) (entry entries number) Same := by
  unfold entry
  cases entries[number]? with
  | none => exact Act.simulates_throw _
  | some a => exact Act.simulates_pure_same a

theorem entry_streams_simulates (h : world.Twins ρ world') (number : Nat) :
    Simulates ρ (entry world.streams number) (entry world'.streams number) Renamed := by
  unfold entry
  rw [h.streams_eq, List.getElem?_map]
  cases here : world.streams[number]? with
  | none => exact Act.simulates_throw _
  | some stream =>
    exact Act.simulates_pure_renamed ⟨h.fits stream (List.mem_of_getElem? here), rfl⟩

theorem onHost_simulates {act act' : Act Host α} {alike : Renumbering → α → α → Prop}
    (h : Simulates ρ act act' alike) : Simulates ρ (onHost act) (onHost act') alike :=
  h.zoom (fun _ _ _ _ twins => twins.host) fun _ _ _ _ _ _ _ longer twins after =>
    World.Twins.withHost twins longer after

theorem onNew_simulates {σ : Type} [Renumbers σ] {own own' : σ} (stands : Renamed ρ own own')
    {act act' : Act (Held σ) α} {alike : Renumbering → α → α → Prop}
    (h : Simulates ρ act act' alike) : Simulates ρ (onNew own act) (onNew own' act') alike :=
  h.zoom (fun _ _ _ longer twins => ⟨stands.extend longer, twins.host⟩)
    fun _ _ _ _ _ _ _ longer twins after => World.Twins.withHost twins longer after.host

theorem onStream_simulates (number : Nat) {act act' : Act (Held ByteStream) α}
    {alike : Renumbering → α → α → Prop} (h : Simulates ρ act act' alike) :
    Simulates ρ (onStream number act) (onStream number act') alike := by
  refine Act.simulates_get.bind fun ρ₁ world world' longer twins => ?_
  refine (entry_streams_simulates twins number).bind fun ρ₂ stream stream' longer' stands => ?_
  refine (h.extend (longer.trans longer')).zoom
    (fun _ _ _ later twins => ⟨stands.extend later, twins.host⟩)
    fun _ _ _ _ _ _ _ later twins after => ?_
  exact (World.Twins.withHost twins later after.host).setStream number after.own

theorem onSession_simulates (number : Nat) {act act' : Act (Held Session) α}
    {alike : Renumbering → α → α → Prop} (h : Simulates ρ act act' alike) :
    Simulates ρ (onSession number act) (onSession number act') alike := by
  refine Act.simulates_get.bind fun ρ₁ world world' longer twins => ?_
  rw [World.Twins.sessions_eq twins]
  refine (entry_simulates _ number).bind_same fun ρ₂ session longer' => ?_
  refine (h.extend (longer.trans longer')).zoom
    (fun _ _ _ _ twins => ⟨⟨trivial, rfl⟩, twins.host⟩)
    fun _ ρ₄ w w' _ _ _ later twins after => ?_
  have with' := World.Twins.withHost twins later after.host
  exact { with' with sessions_eq := by rw [with'.sessions_eq, after.own.2]; rfl }

theorem onReader_simulates (number : Nat) {act act' : Act (Held WindowReader) α}
    {alike : Renumbering → α → α → Prop} (h : Simulates ρ act act' alike) :
    Simulates ρ (onReader number act) (onReader number act') alike := by
  refine Act.simulates_get.bind fun ρ₁ world world' longer twins => ?_
  rw [World.Twins.readers_eq twins]
  refine (entry_simulates _ number).bind_same fun ρ₂ reader longer' => ?_
  refine Act.simulates_get.bind fun ρ₃ world world' longer'' twins => ?_
  refine (entry_streams_simulates twins reader.stream).bind
    fun ρ₄ stream stream' longer₄ stands => ?_
  refine (h.extend (((longer.trans longer').trans longer'').trans longer₄)).zoom
    (fun _ _ _ later twins => ⟨⟨(stands.extend later).1, ?_⟩, twins.host⟩)
    fun _ _ _ _ _ _ _ later twins after => ?_
  · rw [(stands.extend later).2]
    rfl
  · have next := (World.Twins.withHost twins later after.host).setStream reader.stream
      ⟨after.own.1, congrArg WindowReader.stream after.own.2⟩
    exact { next with readers_eq := by rw [next.readers_eq, after.own.2]; rfl }

theorem addStream_simulates {stream stream' : ByteStream} (stands : Renamed ρ stream stream') :
    Simulates ρ (addStream stream) (addStream stream') Same := by
  refine Act.simulates_get.bind fun ρ₁ world world' longer twins => ?_
  dsimp only
  rw [World.Twins.length_streams twins]
  refine Simulates.bind_same (Act.simulates_modify fun _ _ _ later twins => ?_) fun _ _ _ =>
    Act.simulates_pure_same _
  exact World.Twins.addStream twins (stands.extend (longer.trans later))

theorem addReader_simulates (stream : Nat) :
    Simulates ρ (addReader stream) (addReader stream) Same := by
  refine Act.simulates_get.bind fun ρ₁ world world' longer twins => ?_
  dsimp only
  rw [World.Twins.readers_eq twins]
  refine Simulates.bind_same (Act.simulates_modify fun _ _ _ _ twins => ?_) fun _ _ _ =>
    Act.simulates_pure_same _
  exact { twins with readers_eq := congrArg (· ++ [_]) (World.Twins.readers_eq twins) }

/-- A new stream, in the two ways to connect. -/
theorem ofMode_simulates {settings : Settings} (direct : settings.Direct) (mode : String) :
    Simulates ρ (Act.ofExcept (ByteStream.ofMode settings mode) : Act World ByteStream)
      (Act.ofExcept (ByteStream.ofMode (settings.via (.socket Sockets.range)) mode))
      Renamed := by
  unfold ByteStream.ofMode
  cases Direction.ofMode mode with
  | error e => exact Act.simulates_throw e
  | ok direction => exact Act.simulates_pure_renamed ⟨direct, rfl⟩

theorem openNew_simulates {settings : Settings} (direct : settings.Direct) (mode : String) :
    Simulates ρ (openNew settings mode) (openNew (settings.via (.socket Sockets.range)) mode)
      Renamed := by
  refine (ofMode_simulates direct mode).bind fun ρ₁ stream stream' _ stands => ?_
  refine onNew_simulates stands (ByteStream.connect_simulates.bind_same fun _ _ _ => ?_)
  exact Act.simulates_get.bind fun _ _ _ _ twins => Act.simulates_pure_renamed twins.own

end World

-- ════════════════════════════════════════════════════════════════════════
-- Steps
-- ════════════════════════════════════════════════════════════════════════

/-- An operation of a stream, with its answer. -/
theorem ByteStream.perform_simulates (number : Nat) (operation : Operation) :
    Simulates ρ (perform operation) (perform operation)
      (Step.onStream number operation).Answered := by
  cases operation with
  | connect =>
    exact connect_simulates.bind_same fun _ _ _ => Act.simulates_pure fun _ _ _ _ => rfl
  | read size =>
    exact (read_simulates size).bind_same fun _ _ _ => Act.simulates_pure fun _ _ _ _ => rfl
  | receive limit =>
    exact Simulates.bind_same (whileOpen_simulates (Link.receive_simulates limit)) fun _ _ _ =>
      Act.simulates_pure fun _ _ _ _ => rfl
  | write data =>
    exact Simulates.bind_same (whileOpen_simulates (Link.write_simulates data)) fun _ _ _ =>
      Act.simulates_pure fun _ _ _ _ => rfl
  | seek offset code =>
    exact Simulates.bind_same (whileOpen_simulates (Link.seek_simulates offset code)) fun _ _ _ =>
      Act.simulates_pure fun _ _ _ _ => rfl
  | stat =>
    exact Simulates.bind_same (whileOpen_simulates Link.stat_simulates) fun _ _ _ =>
      Act.simulates_pure fun _ _ _ _ => rfl
  | position =>
    refine Act.simulates_get.bind fun ρ₁ held held' _ twins => ?_
    rw [position_of_renamed twins.own]
    exact Act.simulates_pure fun _ _ _ _ => rfl
  | descriptor =>
    refine descriptor_simulates.bind ?_
    rintro ρ₁ _ _ _ ⟨c, c', stands, rfl, rfl⟩
    exact Act.simulates_pure fun _ longer => Step.answered_descriptor (stands.extend longer)
  | inspect =>
    exact Act.simulates_get.bind fun _ _ _ _ twins => Act.simulates_pure fun _ longer =>
      Step.answered_inspect (twins.own.extend longer)
  | close =>
    exact close_simulates.bind_same fun _ _ _ => Act.simulates_pure fun _ _ _ _ => rfl

theorem WindowReader.perform_simulates (number : Nat) (operation : Operation) :
    Simulates ρ (perform operation) (perform operation)
      (Step.onReader number operation).Answered := by
  cases operation with
  | fetch start length =>
    exact (fetch_simulates start length).bind_same fun _ _ _ =>
      Act.simulates_pure fun _ _ _ _ => rfl
  | size =>
    exact Simulates.bind_same (onOwnStream_simulates
      (ByteStream.whileOpen_simulates (Link.seek_simulates 0 _))) fun _ _ _ =>
      Act.simulates_pure fun _ _ _ _ => rfl
  | close =>
    exact Simulates.bind_same (onOwnStream_simulates ByteStream.close_simulates) fun _ _ _ =>
      Act.simulates_pure fun _ _ _ _ => rfl

namespace World

/-- One step, in the two ways to connect. -/
theorem perform_simulates {step : Step} (portable : step.Portable Sockets.range) :
    Simulates ρ (perform (step.via .direct)) (perform (step.via (.socket Sockets.range)))
      step.Answered := by
  cases step with
  | create settings mode =>
    have direct : (settings.via .direct).Direct := ⟨rfl, portable⟩
    refine (ofMode_simulates direct mode).bind fun ρ₁ stream stream' _ stands => ?_
    exact (addStream_simulates stands).bind_same fun _ _ _ => Act.simulates_pure fun _ _ _ _ => rfl
  | start settings mode =>
    have direct : (settings.via .direct).Direct := ⟨rfl, portable⟩
    refine (openNew_simulates direct mode).bind fun ρ₁ stream stream' _ stands => ?_
    exact (addStream_simulates stands).bind_same fun _ _ _ => Act.simulates_pure fun _ _ _ _ => rfl
  | startReader settings =>
    have direct : (settings.via .direct).Direct := ⟨rfl, portable⟩
    refine (openNew_simulates direct _).bind fun ρ₁ stream stream' _ stands => ?_
    refine (addStream_simulates stands).bind_same fun _ number _ => ?_
    exact (addReader_simulates number).bind_same fun _ _ _ => Act.simulates_pure fun _ _ _ _ => rfl
  | onStream number operation =>
    exact onStream_simulates number (ByteStream.perform_simulates number operation)
  | attach number =>
    refine Act.simulates_get.bind fun ρ₁ world world' _ twins => ?_
    refine (entry_streams_simulates twins number).bind fun ρ₂ stream stream' _ stands => ?_
    unfold WindowReader.onStream
    rw [ByteStream.direction_of_renamed stands]
    split
    · show Simulates ρ₂ (do pure (.number (← addReader number)))
        (do pure (.number (← addReader number))) (Step.attach number).Answered
      exact (addReader_simulates number).bind_same fun _ _ _ =>
        Act.simulates_pure fun _ _ _ _ => rfl
    · exact Act.simulates_throw_bind _
  | onReader number operation =>
    exact onReader_simulates number (WindowReader.perform_simulates number operation)
  | newSession session =>
    refine Act.simulates_get.bind fun ρ₁ world world' _ twins => ?_
    dsimp only
    rw [World.Twins.sessions_eq twins]
    refine Simulates.bind_same (Act.simulates_modify fun _ _ _ _ twins => ?_) fun _ _ _ =>
      Act.simulates_pure fun _ _ _ _ => rfl
    exact { twins with sessions_eq := congrArg (· ++ [_]) (World.Twins.sessions_eq twins) }
  | join number route target timeout =>
    have direct : ({ route with dialer := .direct } : Route).dialer = .direct := rfl
    refine Simulates.bind (onSession_simulates number ((locate_simulates target).onHeld.bind_same
      fun _ address _ => Session.join_simulates direct address portable)) fun _ c c' _ stands => ?_
    exact Act.simulates_pure fun _ longer => Step.answered_join (stands.extend longer)
  | nextId source =>
    exact (onHost_simulates (Host.nextSessionId_simulates source)).bind_same fun _ _ _ =>
      Act.simulates_pure fun _ _ _ _ => rfl
  | lastId source =>
    refine Act.simulates_get.bind fun ρ₁ world world' _ twins => ?_
    rw [Host.Twins.ids_eq (World.Twins.host twins)]
    exact Act.simulates_pure fun _ _ _ _ => rfl
  | enqueue peers =>
    refine Simulates.bind_same (onHost_simulates (Network.enqueue_simulates portable).onHost)
      fun _ _ _ => ?_
    refine Act.simulates_get.bind fun ρ₁ world world' _ twins => ?_
    rw [(World.Twins.host twins).network.waiting_eq]
    exact Act.simulates_pure fun _ _ _ _ => rfl
  | feed => exact portable.elim

theorem step_simulates {step : Step} (portable : step.Portable Sockets.range)
    (twins : Twins ρ world world') :
    let direct := World.step (step.via .direct) world
    let socket := World.step (step.via (.socket Sockets.range)) world'
    ∃ ρ', ρ <+: ρ' ∧ Twins ρ' direct.2 socket.2 ∧
      ∀ ρ'', ρ' <+: ρ'' → socket.1 = direct.1.map (step.renumber Sockets.range ρ'') := by
  intro direct socket
  unfold direct socket
  rw [step_eq, step_eq]
  obtain ⟨ρ', t, t', longer, after, ⟨a, b, same, eq, eq'⟩ | ⟨e, eq, eq'⟩⟩ :=
    (perform_simulates portable).ends List.prefix_rfl twins
  · rw [eq, eq']
    exact ⟨ρ', longer, after, fun ρ'' later => congrArg Except.ok (same ρ'' later)⟩
  · rw [eq, eq']
    exact ⟨ρ', longer, after, fun _ _ => rfl⟩

/-- A list of steps, in the two ways to connect. -/
theorem run_simulates {steps : List Step} (portable : ∀ step ∈ steps, step.Portable Sockets.range)
    (twins : Twins ρ world world') :
    let direct := run (steps.map (Step.via .direct)) world
    let socket := run (steps.map (Step.via (.socket Sockets.range))) world'
    ∃ ρ', ρ <+: ρ' ∧ Twins ρ' direct.2 socket.2 ∧
      ∀ ρ'', ρ' <+: ρ'' → socket.1 =
        List.zipWith (fun step r => r.map (step.renumber Sockets.range ρ'')) steps direct.1 := by
  induction steps generalizing ρ world world' with
  | nil => exact ⟨ρ, List.prefix_rfl, twins, fun _ _ => rfl⟩
  | cons step later ih =>
    obtain ⟨ρ₁, longer, next, answer⟩ :=
      step_simulates (portable step (List.mem_cons_self ..)) twins
    obtain ⟨ρ₂, longer', last, answers⟩ :=
      ih (fun s hs => portable s (List.mem_cons_of_mem _ hs)) next
    refine ⟨ρ₂, longer.trans longer', last, fun ρ₃ beyond => ?_⟩
    simp only [List.map_cons, run, List.zipWith_cons_cons]
    rw [answer ρ₃ (longer'.trans beyond), answers ρ₃ beyond]

theorem twins_begin {firstId : Int} {waiting : List Peer}
    (start : begin firstId waiting = .ok world) (portable : ∀ peer ∈ waiting, peer.Portable) :
    World.Twins [] world world := by
  unfold begin at start
  cases ids : SessionIds.startingAt firstId with
  | error e => rw [ids] at start; cases start
  | ok ids =>
    rw [ids] at start
    cases start
    exact {
      host := ⟨⟨rfl, portable, rfl, nofun, .nothing, fun _ _ => .nil _⟩, rfl, rfl⟩
      fits := fun _ hs => absurd hs List.not_mem_nil
      streams_eq := rfl
      readers_eq := rfl
      sessions_eq := rfl }

end World

end Sides

namespace World

/-- A connect that the system refuses fails the handshake, whichever way it is made. -/
theorem join_refused (route : Route) (address : Address) {timeout : Int} {held : Held Session}
    {f : Fault} (takes : route.dialer.Takes timeout)
    (portable : held.host.network.nextPeer.Portable)
    (refused : held.host.network.nextPeer.connectFault = some f) (system : f.isSystem = true) :
    (Act.outcome (Session.join route address timeout) held).1 =
      .error (.cannotConnect address.target (.fault f)) := by
  have blamed : unreached address (.fault f) = .cannotConnect address.target (.fault f) := by
    have outside : (Failure.fault f).isSystem = true := system
    simp only [unreached, outside, portable.not_isUnreachable refused]
    rfl
  have failed : (Act.outcome (reach route.dialer address timeout)
      (held.host.logged ⟨.debug, .joining, "Opening new connection"⟩)).1 =
        .error (unreached address (.fault f)) :=
    reach_refused route.dialer address takes portable refused
  rw [blamed] at failed
  unfold Session.join
  rw [Act.outcome_bind, Act.outcome_onHeld, Host.outcome_write]
  dsimp only
  rw [Act.outcome_bind, Act.outcome_onHeld]
  dsimp only
  rw [failed]

/-- **Two runs of the same program**, one with connections that are made in one call and one with
connections that are made by way of sockets. If every peer takes a socket, none that refuses it has
a close that fails too or says that it cannot be reached, and no socket refuses its timeout, then
each step has the same answer or
the same failure, and leaves the same streams, readers, sessions and counters behind; each
connection that got connected was used in the same way. All this holds up to the numbers of the
connections, which follow the order in which they got connected. -/
theorem transports_agree {firstId : Int} {waiting : List Peer} {world : World}
    (start : begin firstId waiting = .ok world) (portable : ∀ peer ∈ waiting, peer.Portable)
    (range : Timeout.Range) {steps : List Step} (allowed : ∀ step ∈ steps, step.Portable range) :
    let direct := run (steps.map (Step.via .direct)) world
    let socket := run (steps.map (Step.via (.socket range))) world
    let ρ := connected socket.2.trace
    (socket.1 = List.zipWith (fun step r => r.map (step.renumber range ρ)) steps direct.1 ∧
      socket.2.streams = direct.2.streams.map (ByteStream.renamed range ρ) ∧
      socket.2.readers = direct.2.readers ∧ socket.2.sessions = direct.2.sessions ∧
      ∀ source, socket.2.host.ids source = direct.2.host.ids source) ∧
    (connected direct.2.trace = (List.range ρ.length).map ConnectionId.mk ∧
      ∀ c ∈ connected direct.2.trace,
        usesOn (c.renamed ρ) socket.2.trace = (usesOn c direct.2.trace).map (Event.renamed ρ)) ∧
    ∀ dialer ids session address timeout fault, dialer = .direct ∨ dialer = .socket range →
      dialer.Takes timeout →
      direct.2.host.network.nextPeer.connectFault = some fault → fault.isSystem = true →
      ∃ e, (Act.outcome (Session.join ⟨dialer, ids⟩ address timeout)
          ⟨session, (run (steps.map (Step.via dialer)) world).2.host⟩).1 = .error e ∧
        e = .cannotConnect address.target (.fault fault) ∧
        e.message = s!"Cannot connect to {address.target}: {fault.message}" ∧
        e.cause? = some (.fault fault) := by
  intro direct socket ρ
  let sockets : Sockets := ⟨range⟩
  obtain ⟨ρ', -, last, answers⟩ := run_simulates allowed (twins_begin start portable)
  have net := last.host.network
  have connections := net.recorded.connected_eq
  have eq : ρ = ρ' := connections.2
  rw [eq]
  refine ⟨⟨answers ρ' List.prefix_rfl, last.streams_eq, last.readers_eq, last.sessions_eq,
    last.host.ids_eq⟩, ⟨connections.1, fun c hc => net.recorded.usesOn_eq ?_⟩, ?_⟩
  · rw [show connected direct.2.trace = _ from connections.1] at hc
    obtain ⟨i, hi, rfl⟩ := List.mem_map.1 hc
    exact List.mem_range.1 hi
  · intro dialer ids session address timeout fault way takes refused system
    have same : (run (steps.map (Step.via dialer)) world).2.host.network.nextPeer =
        direct.2.host.network.nextPeer := by
      rcases way with rfl | rfl
      · rfl
      · exact net.nextPeer_eq
    refine ⟨_, join_refused ⟨dialer, ids⟩ address takes ?_ ?_ system, rfl, rfl, rfl⟩
    · exact same ▸ net.portable_nextPeer
    · exact same ▸ refused

/-- The first connect is refused, and the stream is opened after that: the socket that was refused
keeps its number. -/
theorem transports_agree_reopened :
    let settings : Settings := { target := "/run/letters", route := ⟨.direct, .given⟩ }
    let fault : Fault := .system 111 "Connection refused"
    let waiting : List Peer := [{ connectFault := some fault },
      { incoming := [.bytes (utf8 "ok\n")] }, { incoming := [.bytes (utf8 "abc")] }]
    let world : World := { host := { network := { waiting } } }
    let steps : List Step := [.create settings "r", .onStream 0 .connect, .onStream 0 .connect,
      .onStream 0 (.receive 2), .onStream 0 .descriptor]
    let direct := run (steps.map (Step.via .direct)) world
    let socket := run (steps.map (Step.via (.socket .clock))) world
    direct.1 = [.ok (.number 0), .error (.cannotConnect "/run/letters" (.fault fault)), .ok .done,
        .ok (.bytes (utf8 "ab")), .ok (.number 100)] ∧
      socket.1 = [.ok (.number 0), .error (.cannotConnect "/run/letters" (.fault fault)), .ok .done,
        .ok (.bytes (utf8 "ab")), .ok (.number 101)] ∧
      socket.2.streams = direct.2.streams.map (ByteStream.renamed .clock [⟨1⟩, ⟨2⟩]) := by
  intro settings fault waiting world steps
  have start : begin 1 waiting = .ok world := rfl
  have portable : ∀ peer ∈ waiting, peer.Portable := by
    simp only [waiting, List.mem_cons, List.not_mem_nil, or_false, forall_eq_or_imp, forall_eq]
    refine ⟨⟨rfl, fun _ => rfl, ?_⟩, ⟨rfl, nofun, nofun⟩, ⟨rfl, nofun, nofun⟩⟩
    rintro _ ⟨⟩
    rfl
  have allowed : ∀ step ∈ steps, step.Portable .clock := by
    simp only [steps, List.mem_cons, List.not_mem_nil, or_false, forall_eq_or_imp, forall_eq]
    have settable : Timeout.Settable .clock settings.timeout.effective :=
      ⟨Timeout.representable_of_lt (by decide), by decide⟩
    exact ⟨settable, trivial, trivial, trivial, trivial⟩
  have answers : (run (steps.map (Step.via .direct)) world).1 = [.ok (.number 0),
      .error (.cannotConnect "/run/letters" (.fault fault)), .ok .done, .ok (.bytes (utf8 "ab")),
      .ok (.number 100)] := by decide +kernel
  have connections : connected (run (steps.map (Step.via (.socket .clock))) world).2.trace =
      [⟨1⟩, ⟨2⟩] := by decide +kernel
  obtain ⟨⟨same, streams, -⟩, -⟩ := transports_agree start portable .clock allowed
  rw [connections] at same streams
  rw [answers] at same
  exact ⟨answers, same, streams⟩

end World

end SessionStream
