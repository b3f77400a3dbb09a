import SessionStream.Proofs.Histories

/-!
# The life of a stream

A stream is opened by a successful opening and closed by any close, and by nothing else. While it
is open it has a control connection that never changes, the address that its target names, and a
session with an id; otherwise it has no data connection and does nothing.

## Main definitions

- `StreamPhase.next` — the phase behind a step
- `ByteStream.Equipped` — what a stream has in each phase
- `ByteStream.Operation.NeedsOpen` — the operations that only an open stream has

## Main results

- `World.lifecycle` — what a stream has, how its phase changes, and what it does if it is not open
-/

namespace SessionStream

variable {es : List Event}

/-- The phase behind a step, which depends on its answer only if it opens the stream. -/
def StreamPhase.next (phase : StreamPhase) (d : Deed) : StreamPhase :=
  match phase, d.step, d.answer with
  | .unopened, .onStream _ .connect, .ok _ => .opened
  | .opened, .onStream _ .close, _ => .closed
  | .opened, .onReader _ .close, _ => .closed
  | _, _, _ => phase

namespace Link

variable {link after : Link} {ps : List Placed}

/-- The address of an open stream never changes. -/
theorem Move.address_eq (h : Move link es ps after) : after.address = link.address := by
  cases h with
  | stating stat =>
    cases stat with
    | unusable => rfl
    | exchanged =>
      obtain ⟨outOfStep, hafter, -⟩ := afterExchange_eq link _
      rw [hafter]
  | connecting _ connect =>
    cases connect with
    | unheard =>
      obtain ⟨outOfStep, hafter, -⟩ := afterExchange_eq link _
      rw [hafter]
    | _ => rfl
  | receiving => rfl
  | sending => rfl
  | moving move => cases move <;> rfl

theorem Moves.address_eq (h : Moves link es ps after) : after.address = link.address := by
  induction h with
  | refl => rfl
  | step move _ ih => exact ih.trans move.address_eq

end Link

-- ════════════════════════════════════════════════════════════════════════
-- Phases
-- ════════════════════════════════════════════════════════════════════════

namespace ByteStream

variable {stream mid after : ByteStream} {d : Deed} {ds : List Deed}

theorem WhileOpen.phase_eq {α : Type} {does : Link → List Event → Except Failure α → Link → Prop}
    {r : Except Failure α} (h : WhileOpen does stream es r after) : after.phase = stream.phase := by
  cases h <;> rfl

end ByteStream

namespace WindowReader

variable {stream after : ByteStream}

theorem Gathering.phase_eq {start missing : Nat} {got : Bytes} {r : Except Failure Bytes}
    (h : Gathering start missing got stream es r after) : after.phase = stream.phase := by
  induction h with
  | done => rfl
  | stopped _ receive => exact receive.phase_eq
  | more _ receive _ ih => exact ih.trans receive.phase_eq

theorem Fetching.phase_eq {start length : Int} {r : Except Failure Bytes}
    (h : Fetching start length stream es r after) : after.phase = stream.phase := by
  cases h with
  | negativeStart => rfl
  | nonPositiveLength => rfl
  | unmoved _ _ seek => exact seek.phase_eq
  | unroomy _ _ seek => exact seek.phase_eq
  | gathered _ _ seek gather => exact gather.phase_eq.trans seek.phase_eq

end WindowReader

namespace ByteStream

variable {stream mid after : ByteStream} {d : Deed} {ds : List Deed}

theorem Opening.phase_eq {number : Nat} {r : Except Failure Unit}
    (h : Opening stream es r after) :
    after.phase = stream.phase.next ⟨.onStream number .connect, r.map fun _ => .done, es⟩ := by
  cases h with
  | again before =>
    cases stream with
    | unopened => exact absurd rfl before
    | _ => rfl
  | _ => rfl

theorem Closing.phase_eq {r : Except Failure Unit} (h : Closing stream es r after) :
    after.phase = if stream.phase = .opened then .closed else stream.phase := by
  cases h with
  | idle notOpen => rw [if_neg notOpen]
  | released => rfl

/-- **Step lemma**: the phase behind a step. -/
theorem Acts.phase_eq (h : Acts stream d after) : after.phase = stream.phase.next d := by
  have kept : (∀ phase : StreamPhase, phase.next d = phase) → after.phase = stream.phase →
      after.phase = stream.phase.next d := fun goesOn same => same.trans (goesOn _).symm
  cases h with
  | operation performs =>
    cases performs with
    | connect opening => exact opening.phase_eq
    | close closing => exact closing.phase_eq.trans (by cases stream <;> rfl)
    | unroomy => exact kept (by rintro ⟨⟩ <;> rfl) rfl
    | read reading => exact kept (by rintro ⟨⟩ <;> rfl) reading.phase_eq
    | receive receiving => exact kept (by rintro ⟨⟩ <;> rfl) receiving.phase_eq
    | write writing => exact kept (by rintro ⟨⟩ <;> rfl) writing.phase_eq
    | seek seeking => exact kept (by rintro ⟨⟩ <;> rfl) seeking.phase_eq
    | stat stating => exact kept (by rintro ⟨⟩ <;> rfl) stating.phase_eq
    | position => exact kept (by rintro ⟨⟩ <;> rfl) rfl
    | descriptor describing => exact kept (by rintro ⟨⟩ <;> rfl) describing.phase_eq
    | inspect => exact kept (by rintro ⟨⟩ <;> rfl) rfl
  | window performs =>
    cases performs with
    | close closing => exact closing.phase_eq.trans (by cases stream <;> rfl)
    | fetch fetching => exact kept (by rintro ⟨⟩ <;> rfl) fetching.phase_eq
    | size seeking => exact kept (by rintro ⟨⟩ <;> rfl) seeking.phase_eq

/-- A stream that is closed stays closed, and one that is open keeps its control connection until
then. -/
theorem Acts.control_eq (h : Acts stream d after) :
    (stream.phase = .closed → after.phase = .closed) ∧
      (stream.phase = .opened →
        after.phase = .closed ∨ after.phase = .opened ∧ after.control = stream.control) := by
  obtain ⟨ps, evolves⟩ := h.evolves
  refine ⟨fun closed => ?_, fun isOpen => ?_⟩
  · rw [h.phase_eq, closed]
    rfl
  · cases stream with
    | opened link =>
      obtain ⟨link', rfl, -, control⟩ | ⟨closed, -⟩ := evolves.of_opened
      · exact .inr ⟨rfl, congrArg some control⟩
      · exact .inl closed
    | _ => cases isOpen

/-- **Run lemma**: so it does over any number of steps. -/
theorem Lives.control_eq (h : Lives stream ds after) (isOpen : stream.phase = .opened) :
    after.phase = .closed ∨ after.phase = .opened ∧ after.control = stream.control := by
  induction h with
  | still => exact .inr ⟨isOpen, rfl⟩
  | acted _ acts ih =>
    rcases ih with closed | ⟨isOpen, control⟩
    · exact .inl (acts.control_eq.1 closed)
    · exact (acts.control_eq.2 isOpen).imp_right fun same => ⟨same.1, same.2.trans control⟩

-- ════════════════════════════════════════════════════════════════════════
-- Addresses
-- ════════════════════════════════════════════════════════════════════════

/-- The address of a stream is the one that its target names. -/
def Located (stream : ByteStream) : Prop :=
  ∀ address, stream.address = some address →
    stream.settings.target.address = .ok address

theorem located_of_unopened (fresh : stream.phase = .unopened) : stream.Located := by
  cases stream with
  | unopened => exact nofun
  | _ => cases fresh

theorem Opening.located {r : Except Failure Unit} (h : Opening stream es r after)
    (located : stream.Located) : after.Located := by
  cases h with
  | again => exact located
  | unlocated => exact located
  | unjoined => exact nofun
  | joined target =>
    rintro address ⟨⟩
    exact target

/-- A stream that has been open keeps its address. -/
theorem Evolves.address_eq {ps : List Placed} (h : Evolves stream es ps after)
    (older : stream.phase ≠ .unopened) : after.address = stream.address := by
  cases h with
  | still => rfl
  | moved moves => exact congrArg some moves.address_eq
  | unjoined => exact absurd rfl older
  | joined => exact absurd rfl older
  | released => rfl

theorem Acts.located (h : Acts stream d after) (located : stream.Located) : after.Located := by
  by_cases fresh : stream.phase = .unopened
  · have phase := h.phase_eq
    rw [fresh] at phase
    cases h with
    | operation performs =>
      cases performs with
      | connect opening => exact opening.located located
      | _ => exact located_of_unopened phase
    | window => exact located_of_unopened phase
  · obtain ⟨ps, evolves⟩ := h.evolves
    intro address has
    rw [evolves.address_eq fresh] at has
    rw [evolves.settled.1]
    exact located address has

theorem Born.located (h : Born es stream) : stream.Located := by
  cases h with
  | unopened => exact located_of_unopened rfl
  | opened opening => exact opening.located (located_of_unopened rfl)

theorem Lives.located (h : Lives stream ds after) (located : stream.Located) : after.Located := by
  induction h with
  | still => exact located
  | acted _ acts ih => exact acts.located ih

-- ════════════════════════════════════════════════════════════════════════
-- Streams that are not open
-- ════════════════════════════════════════════════════════════════════════

/-- The operations that only an open stream has. A read makes room for its bytes before it asks
whether the stream is open, so its size has to be one that the memory has room for. -/
def Operation.NeedsOpen (memory : Nat) : Operation → Prop
  | .read size => Buffer.Fits memory (wantedSize size)
  | .receive _ => True
  | .write _ => True
  | .seek .. => True
  | .stat => True
  | .descriptor => True
  | _ => False

/-- Where there is room for the bytes, making it changes nothing. -/
theorem outcome_reserve_bind {β : Type} {size : Nat} {f : Unit → Act (Held ByteStream) β}
    (fits : Buffer.Fits stream.settings.memory size) (host : Host) :
    Act.outcome (reserve size >>= f) ⟨stream, host⟩ = Act.outcome (f ()) ⟨stream, host⟩ := by
  rw [reserve, bind_assoc]
  change Act.outcome (Act.ofExcept (Buffer.reserve stream.settings.memory size) >>= f) _ = _
  rw [Buffer.reserve_eq_ok_iff.2 fits]
  rfl

/-- What succeeds once there is room for the bytes had room for them. -/
theorem fits_of_reserve_bind {β : Type} {size : Nat} {f : Unit → Act (Held ByteStream) β}
    {host : Host} {b : β} {after : Held ByteStream}
    (ok : Act.outcome (reserve size >>= f) ⟨stream, host⟩ = (.ok b, after)) :
    Buffer.Fits stream.settings.memory size := by
  rw [reserve, bind_assoc] at ok
  change Act.outcome (Act.ofExcept (Buffer.reserve stream.settings.memory size) >>= f) _ = _ at ok
  cases room : Buffer.reserve stream.settings.memory size with
  | error e =>
    rw [room] at ok
    cases ok
  | ok u => exact Buffer.reserve_eq_ok_iff.1 room

/-- An operation that needs an open stream is refused by any other, and has no effect on it. -/
theorem outcome_perform {operation : Operation}
    (needs : operation.NeedsOpen stream.settings.memory) (notOpen : stream.phase ≠ .opened)
    (host : Host) :
    Act.outcome (perform operation) ⟨stream, host⟩ =
      (.error (.notOpen stream.phase), ⟨stream, host⟩) := by
  have refused : ∀ {α : Type} {act : Act (Held ByteStream) α} (f : α → Answer),
      Act.outcome act ⟨stream, host⟩ = (.error (.notOpen stream.phase), ⟨stream, host⟩) →
      Act.outcome (do pure (f (← act))) ⟨stream, host⟩ =
        (.error (.notOpen stream.phase), ⟨stream, host⟩) := by
    intro α act f h
    rw [Act.outcome_bind, h]
  cases operation with
  | read size =>
    refine refused .bytes ?_
    rw [read, outcome_reserve_bind needs host]
    exact outcome_whileOpen _ notOpen host
  | receive limit => exact refused _ (outcome_whileOpen (Link.receive limit) notOpen host)
  | write data => exact refused _ (outcome_whileOpen (Link.write data) notOpen host)
  | seek offset code => exact refused _ (outcome_whileOpen (Link.seek offset code) notOpen host)
  | stat => exact refused _ (outcome_whileOpen Link.stat notOpen host)
  | descriptor => exact refused _ (outcome_whileOpen _ notOpen host)
  | _ => exact needs.elim

/-- What a stream has in each phase. -/
structure Equipped (stream : ByteStream) : Prop where
  opened : stream.phase = .opened → (∃ control, stream.control = some control) ∧
    (∃ address, stream.address = some address ∧
      stream.settings.target.address = .ok address) ∧ stream.session.assigned = true
  notOpened : stream.phase ≠ .opened → stream.data = none
  unopened : stream.phase = .unopened →
    stream.position = 0 ∧ stream.control = none ∧ stream.outOfStep = none

theorem Sound.equipped {trace : List Event} (h : stream.Sound trace) (located : stream.Located) :
    stream.Equipped := by
  cases stream with
  | unopened => exact ⟨nofun, fun _ => rfl, fun _ => ⟨rfl, rfl, rfl⟩⟩
  | closed => exact ⟨nofun, fun _ => rfl, nofun⟩
  | opened link =>
    refine ⟨fun _ => ⟨⟨_, rfl⟩, ⟨_, rfl, located _ rfl⟩, (h link rfl).assigned⟩, fun notOpen => ?_,
      nofun⟩
    exact absurd rfl notOpen

end ByteStream

-- ════════════════════════════════════════════════════════════════════════
-- Runs
-- ════════════════════════════════════════════════════════════════════════

namespace World

variable {world : World} {number : Nat} {stream : ByteStream}

/-- An operation of a stream that is there, as a step. -/
theorem step_onStream (has : world.streams[number]? = some stream)
    {operation : ByteStream.Operation} {r : Except Failure Answer} {held : Held ByteStream}
    (ended : Act.outcome (ByteStream.perform operation) ⟨stream, world.host⟩ = (r, held)) :
    World.step (.onStream number operation) world =
      (r, { world with streams := world.streams.set number held.own, host := held.host }) := by
  rw [step_eq]
  change Act.outcome (entry world.streams number >>= _) world = _
  unfold entry
  rw [has]
  change Act.outcome (Act.zoom _ _ _) world = _
  rw [Act.outcome_zoom, ended]

/-- An operation without an effect on its stream changes nothing at all. -/
theorem step_onStream_of_idle (has : world.streams[number]? = some stream)
    {operation : ByteStream.Operation} {r : Except Failure Answer}
    (idle : Act.outcome (ByteStream.perform operation) ⟨stream, world.host⟩ =
      (r, ⟨stream, world.host⟩)) :
    World.step (.onStream number operation) world = (r, world) := by
  obtain ⟨inside, here⟩ := List.getElem?_eq_some_iff.1 has
  rw [step_onStream has idle, ← here, List.set_getElem_self]

/-- A step of a stream changes its phase as such a step does, and any other step leaves the stream
as it is. -/
theorem phase_of_step (step : Step) (has : world.streams[number]? = some stream) :
    ∃ stream', (World.step step world).2.streams[number]? = some stream' ∧
      (deeds number [step] world = [] → stream' = stream) ∧
      ∀ d ∈ deeds number [step] world, stream'.phase = stream.phase.next d := by
  obtain ⟨es, grows, turn⟩ := step_turn step world
  rw [deeds_singleton grows]
  rcases turn.acts_or_born number with
    ⟨own, ⟨before, stream', had, becomes, acts⟩ | ⟨fresh, -⟩⟩ | ⟨other, same⟩
  · obtain rfl := Option.some.inj (had.symm.trans has)
    rw [if_pos own]
    refine ⟨stream', becomes, fun none => absurd none (List.cons_ne_nil _ _), fun d hd => ?_⟩
    rw [List.mem_singleton.1 hd]
    exact acts.phase_eq
  · rw [fresh] at has
    cases has
  · rw [if_neg other]
    exact ⟨stream, same.trans has, fun _ => rfl, fun _ hd => absurd hd List.not_mem_nil⟩

/-- Every stream of a run has the address that its target names. -/
theorem located_after {firstId : Int} {waiting : List Peer}
    (start : begin firstId waiting = .ok world) (steps : List Step)
    (has : (after steps world).streams[number]? = some stream) : stream.Located := by
  obtain ⟨birth, later, first, -, -, born, lives⟩ := life steps (fresh_begin start number).1 has
  exact lives.located born.located

/-- **The life of a stream.** In every state that a run reaches, a stream has what it needs in its
phase: an open one has a control connection, the address that its target names and a session with
an id, and any other has no data connection. The next step changes its phase only by a successful
opening, and by a close whatever its answer. An open stream keeps its control connection, and
answers with the descriptor of it, in every state that it is open in. A stream that is not open
refuses every operation that needs an open one and takes a close for done; neither changes anything
or makes a call. -/
theorem lifecycle {firstId : Int} {waiting : List Peer}
    (start : begin firstId waiting = .ok world) (steps : List Step)
    (has : (after steps world).streams[number]? = some stream) :
    let now := after steps world
    stream.Equipped ∧
    (∀ step, ∃ stream', (World.step step now).2.streams[number]? = some stream' ∧
      (deeds number [step] now = [] → stream' = stream) ∧
      ∀ d ∈ deeds number [step] now, stream'.phase = stream.phase.next d) ∧
    (∀ control, stream.control = some control → ∀ later stream',
      (after later now).streams[number]? = some stream' → stream'.phase = .opened →
        stream'.control = some control ∧
        (World.step (.onStream number .descriptor) (after later now)).1 =
          .ok (.number control.descriptor)) ∧
    (stream.phase ≠ .opened →
      (∀ operation : ByteStream.Operation, operation.NeedsOpen stream.settings.memory →
        World.step (.onStream number operation) now = (.error (.notOpen stream.phase), now)) ∧
      World.step (.onStream number .close) now = (.ok .done, now)) := by
  intro now
  have sound := sound_after steps (sound_begin start)
  refine ⟨(sound.streams number stream has).equipped (located_after start steps has),
    fun step => phase_of_step step has, fun control holds later stream' has' isOpen => ?_,
    fun notOpen => ⟨fun operation needs => ?_, ?_⟩⟩
  · obtain ⟨last, has'', lives⟩ := lives_after later has
    obtain rfl := Option.some.inj (has'.symm.trans has'')
    have before : stream.phase = .opened := by
      cases stream with
      | opened => rfl
      | _ => cases holds
    rcases lives.control_eq before with closed | ⟨-, same⟩
    · cases isOpen.symm.trans closed
    · rw [holds] at same
      refine ⟨same, ?_⟩
      cases stream' with
      | opened link =>
        obtain rfl := Option.some.inj same
        exact congrArg Prod.fst (step_onStream_of_idle has' rfl)
      | _ => cases same
  · exact step_onStream_of_idle has (ByteStream.outcome_perform needs notOpen _)
  · refine step_onStream_of_idle has ?_
    cases stream with
    | opened => exact absurd rfl notOpen
    | _ => rfl

/-- The close of the control connection fails, and the stream is closed all the same. -/
theorem lifecycle_unclosed :
    let settings : Settings := { target := "/run/letters", route := ⟨.direct, .given⟩ }
    let fault : Fault := .system 5 "Input/output error"
    let world : World := { host := { network := { waiting := [{ closeFault := some fault }] } } }
    let now := after [.start settings "r"] world
    (World.step (.onStream 0 .close) now).1 = .error (.fault fault) ∧
      ∃ stream stream', now.streams[0]? = some stream ∧ stream.Equipped ∧
        stream.phase = .opened ∧
        (World.step (.onStream 0 .close) now).2.streams[0]? = some stream' ∧
        stream'.phase = .closed := by
  intro settings fault world now
  have start : begin 1 world.host.network.waiting = .ok world := rfl
  have isOpen : ∀ stream ∈ now.streams, stream.phase = .opened := by decide +kernel
  have steps : (deeds 0 [.onStream 0 .close] now).map Deed.step = [.onStream 0 .close] := by
    decide +kernel
  have inside : 0 < now.streams.length := by decide +kernel
  have has := List.getElem?_eq_getElem inside
  obtain ⟨equipped, changes, -⟩ := lifecycle start [.start settings "r"] has
  obtain ⟨d, hd, closes⟩ := List.map_eq_singleton_iff.1 steps
  obtain ⟨stream', becomes, -, phase⟩ := changes (.onStream 0 .close)
  have phase := phase d (hd ▸ List.mem_singleton.2 rfl)
  have before := isOpen _ (List.mem_of_getElem? has)
  refine ⟨by decide +kernel, _, stream', has, equipped, before, becomes, phase.trans ?_⟩
  unfold StreamPhase.next
  rw [before, closes]

/-- On a stream that has never been open, a read of more bytes than there are indices is refused for
its size. -/
theorem unroomy_read_of_unopened :
    let settings : Settings := { target := "/run/letters", route := ⟨.direct, .given⟩ }
    let steps : List Step := [.create settings "r",
      .onStream 0 (.read (some 9223372036854775809))]
    begin 1 [] = .ok {} ∧
      (run steps {}).1 = [.ok (.number 0), .error .sizeNotIndex] ∧
      ∀ stream ∈ (after steps {}).streams, stream.phase = .unopened := by
  decide +kernel

end World

end SessionStream
