import SessionStream.Proofs.Streams

/-!
# Runs of worlds

A step of a world is an operation of one of its streams, makes a new stream, or does nothing to any
stream. From this and from what one stream can do follows what every run keeps: the record is in
order, every stream fits to it, and no connection is held by two streams.

## Main definitions

- `World.trace` — the record of a world
- `World.after` — the world after a list of steps
- `World.Turn` — what one step can do
- `World.Sound` — what every run keeps

## Main results

- `World.perform_does` — every step is a turn
- `World.Turn.sound`, `World.sound_after` — one step and every run keep `World.Sound`
-/

namespace SessionStream

/-- Whether a step is an operation of a stream or of a reader. -/
def Step.operates : Step → Bool
  | .onStream .. => true
  | .onReader .. => true
  | _ => false

/-- The number of the stream that a step would be on: the one that it operates on, or else the next
one to be made. -/
def Step.target? (world : World) : Step → Option Nat
  | .onStream number _ => some number
  | .onReader number _ => (world.readers[number]?).map Attached.stream
  | _ => some world.streams.length

/-- A step that is no operation could only be on a new stream. -/
theorem Step.target?_of_plain {step : Step} (plain : step.operates = false) (world : World) :
    step.target? world = some world.streams.length := by
  cases step with
  | onStream => cases plain
  | onReader => cases plain
  | _ => rfl

theorem Step.absent_of_plain {step : Step} {world : World} (plain : step.operates = false)
    {number : Nat} (target : step.target? world = some number) :
    world.streams[number]? = none := by
  rw [target?_of_plain plain, Option.some.injEq] at target
  exact List.getElem?_eq_none (Nat.le_of_eq target)

/-- A new stream, which is left unopened or is opened at once. -/
inductive ByteStream.Born : List Event → ByteStream → Prop
  | unopened (settings : Settings) (direction : Direction) :
      Born [] (.unopened settings { direction })
  | opened {settings : Settings} {direction : Direction} {es : List Event} {stream : ByteStream}
      (opening : Opening (.unopened settings { direction }) es (.ok ()) stream) : Born es stream

/-- A new stream comes from one without a session id. -/
theorem ByteStream.Born.evolves {es : List Event} {stream : ByteStream} (h : Born es stream) :
    ∃ settings direction, Evolves (.unopened settings { direction }) es [] stream := by
  cases h with
  | unopened settings direction => exact ⟨settings, direction, .still _⟩
  | opened opening => exact ⟨_, _, opening.evolves⟩

/-- The calls of an attempt to join a session whose connection no stream takes over, or none. -/
inductive Attempt : List Event → Prop
  | idle : Attempt []
  | joining {route : Route} {address : Address} {timeout : Int} {session after : Session}
      {es : List Event} {r : Except Failure ConnectionId}
      (join : Session.Joining route address timeout session es r after) : Attempt es

theorem Attempt.selfContained {es : List Event} (h : Attempt es) :
    SelfContained es ∧ Outward es := by
  cases h with
  | idle => exact ⟨.nil, .nil⟩
  | joining join => exact ⟨join.selfContained.1, join.selfContained.2.1⟩

namespace World

/-- The record of a world. -/
def trace (world : World) : List Event :=
  world.host.network.trace

/-- The world after a list of steps. -/
def after (steps : List Step) (world : World) : World :=
  (run steps world).2

-- ════════════════════════════════════════════════════════════════════════
-- Turns
-- ════════════════════════════════════════════════════════════════════════

/-- What one step can do to the streams of a world. -/
inductive Turn (world : World) : Step → List Event → Except Failure Answer → World → Prop
  | refused {step : Step} {e : Failure}
      (absent : ∀ number, step.target? world = some number → world.streams[number]? = none) :
      Turn world step [] (.error e) world
  | onStream {number : Nat} {operation : ByteStream.Operation} {es : List Event}
      {r : Except Failure Answer} {stream stream' : ByteStream} {next : World}
      (has : world.streams[number]? = some stream)
      (performs : ByteStream.Performing operation stream es r stream')
      (streams : next.streams = world.streams.set number stream') :
      Turn world (.onStream number operation) es r next
  | onReader {number : Nat} {operation : WindowReader.Operation} {es : List Event}
      {r : Except Failure Answer} {reader : Attached} {stream stream' : ByteStream} {next : World}
      (reads : world.readers[number]? = some reader)
      (has : world.streams[reader.stream]? = some stream)
      (performs : WindowReader.Performing operation stream es r stream')
      (streams : next.streams = world.streams.set reader.stream stream') :
      Turn world (.onReader number operation) es r next
  | added {step : Step} {es : List Event} {a : Answer} {stream : ByteStream} {next : World}
      (plain : step.operates = false) (born : ByteStream.Born es stream)
      (streams : next.streams = world.streams ++ [stream]) : Turn world step es (.ok a) next
  | aside {step : Step} {es : List Event} {r : Except Failure Answer} {next : World}
      (plain : step.operates = false) (attempt : Attempt es)
      (streams : next.streams = world.streams) : Turn world step es r next

section Parts

variable {α β : Type} {world : World}

theorem does_entry_bind {entries : List α} {number : Nat} {f : α → Act World β}
    {post : Except Failure β → List Event → World → Prop} :
    Act.Does (entry entries number >>= f) world post ↔
      match entries[number]? with
      | some a => Act.Does (f a) world post
      | none => post (.error .noSuchEntry) [] world := by
  unfold entry
  cases entries[number]? with
  | some a => exact Act.does_pure_bind
  | none => exact Act.does_throw_bind

theorem onStream_does {number : Nat} {act : Act (Held ByteStream) α}
    {post : Except Failure α → List Event → World → Prop}
    (missing : world.streams[number]? = none → post (.error .noSuchEntry) [] world)
    (does : ∀ stream, world.streams[number]? = some stream →
      Act.Does act ⟨stream, world.host⟩ fun r es held => post r es
        { world with streams := world.streams.set number held.own, host := held.host }) :
    Act.Does (onStream number act) world post := by
  refine Act.does_get_bind.2 (does_entry_bind.2 ?_)
  cases has : world.streams[number]? with
  | none => exact missing has
  | some stream => exact Act.Does.zoom rfl (fun _ => rfl) (does stream has)

theorem onReader_does {number : Nat} {act : Act (Held WindowReader) α}
    {post : Except Failure α → List Event → World → Prop}
    (missing : (∀ reader, world.readers[number]? = some reader →
      world.streams[reader.stream]? = none) → post (.error .noSuchEntry) [] world)
    (does : ∀ reader stream, world.readers[number]? = some reader →
      world.streams[reader.stream]? = some stream →
      Act.Does act ⟨⟨stream, reader.tally⟩, world.host⟩ fun r es held => post r es
        { world with
          streams := world.streams.set reader.stream held.own.stream
          readers := world.readers.set number { reader with tally := held.own.tally }
          host := held.host }) :
    Act.Does (onReader number act) world post := by
  refine Act.does_get_bind.2 (does_entry_bind.2 ?_)
  cases reads : world.readers[number]? with
  | none => exact missing fun reader has => nomatch reads.symm.trans has
  | some reader =>
    refine Act.does_get_bind.2 (does_entry_bind.2 ?_)
    cases has : world.streams[reader.stream]? with
    | none => exact missing fun reader' has' => Option.some.inj (reads.symm.trans has') ▸ has
    | some stream => exact Act.Does.zoom rfl (fun _ => rfl) (does reader stream reads has)

theorem does_addStream_bind {stream : ByteStream} {f : Nat → Act World β}
    {post : Except Failure β → List Event → World → Prop} :
    Act.Does (addStream stream >>= f) world post ↔
      Act.Does (f world.streams.length)
        { world with streams := world.streams ++ [stream] } post :=
  Act.does_bind_of_outcome (s := world)
    (t := { world with streams := world.streams ++ [stream] }) rfl rfl

theorem does_addReader_bind {stream : Nat} {f : Nat → Act World β}
    {post : Except Failure β → List Event → World → Prop} :
    Act.Does (addReader stream >>= f) world post ↔
      Act.Does (f world.readers.length)
        { world with readers := world.readers ++ [{ stream }] } post :=
  Act.does_bind_of_outcome (s := world)
    (t := { world with readers := world.readers ++ [{ stream }] }) rfl rfl

/-- A failed attempt to open a stream leaves nothing behind that anybody holds. -/
theorem attempt_of_opening {settings : Settings} {session : Session} {es : List Event}
    {e : Failure} {stream : ByteStream}
    (h : ByteStream.Opening (.unopened settings session) es (.error e) stream) : Attempt es := by
  cases h with
  | again => exact .idle
  | unlocated => exact .idle
  | unjoined _ join => exact .joining join

/-- A new stream is opened, or the attempt leaves nothing but its events. -/
theorem openNew_does (settings : Settings) (mode : String) (world : World) :
    Act.Does (openNew settings mode) world fun r es next =>
      next.streams = world.streams ∧ next.readers = world.readers ∧ match r with
      | .ok stream => ByteStream.Born es stream
      | .error _ => Attempt es := by
  unfold openNew ByteStream.ofMode
  rw [Act.does_ofExcept_bind]
  cases Direction.ofMode mode with
  | error e => exact ⟨rfl, rfl, .idle⟩
  | ok direction =>
    refine Act.Does.zoom rfl (fun _ => rfl) (Act.Does.bind ((ByteStream.connect_does _).mono ?_))
    intro r es held opening
    cases r with
    | ok u =>
      refine Act.does_get_bind.2 (Act.does_pure.2 ⟨rfl, rfl, ?_⟩)
      rw [List.append_nil]
      exact .opened opening
    | error e => exact ⟨rfl, rfl, attempt_of_opening opening⟩

end Parts

/-- A refused step that is no operation. -/
theorem Turn.refused_of_plain {world : World} {step : Step} {e : Failure}
    (plain : step.operates = false) : Turn world step [] (.error e) world :=
  .refused fun _ => Step.absent_of_plain plain

/-- A step without a call that leaves the streams alone. -/
theorem Turn.quiet {world next : World} {step : Step} {r : Except Failure Answer}
    (plain : step.operates = false) (streams : next.streams = world.streams) :
    Turn world step [] r next :=
  .aside plain .idle streams

theorem join_does {world : World} (number : Nat) (route : Route) (target : Word)
    (timeout : Int) :
    Act.Does (perform (.join number route target timeout)) world fun r es next =>
      Turn world (.join number route target timeout) es r next := by
  refine Act.Does.bind (Act.does_get_bind.2 (does_entry_bind.2 ?_))
  cases world.sessions[number]? with
  | none => exact .refused_of_plain rfl
  | some session =>
    refine Act.Does.zoom rfl (fun _ => rfl) (Act.Does.bind (Act.Does.onHeld
      ((ByteStream.locate_does _ _).mono ?_)))
    rintro r es host ⟨rfl, hr⟩
    cases r with
    | error e => exact .quiet rfl rfl
    | ok address =>
      refine (Session.join_does _ _ _ _).mono fun r es held ⟨join, _⟩ => ?_
      cases r with
      | error e => exact .aside rfl (.joining join) rfl
      | ok c =>
        refine Act.does_pure.2 ?_
        rw [List.append_nil]
        exact .aside rfl (.joining join) rfl

theorem nextId_does {world : World} (source : IdSource) :
    Act.Does (perform (.nextId source)) world fun r es next =>
      Turn world (.nextId source) es r next := by
  have hnet : (world.host.setIds source (world.host.ids source).advance).network =
      world.host.network := by cases source <;> rfl
  refine (Act.does_bind_of_outcome (s := world) (a := (world.host.ids source).next)
    (t := { world with host := world.host.setIds source (world.host.ids source).advance })
    rfl hnet).2 ?_
  exact Act.does_pure.2 (.quiet rfl rfl)

theorem feed_does {world : World} (c : ConnectionId) (segments : List Segment) :
    Act.Does (perform (.feed c segments)) world fun r es next =>
      Turn world (.feed c segments) es r next := by
  have fed : Act.Does (do
      onHost (modifyThe Network (Network.feed c segments) : Act Network Unit)
      pure .done : Act World Answer) world fun r es next =>
        Turn world (.feed c segments) es r next :=
    ⟨[], Network.Extends.of_trace_eq rfl List.length_set, .quiet rfl rfl⟩
  refine Act.does_get_bind.2 (Act.Does.bind (Act.Does.map ?_))
  unfold entry
  cases world.host.network.connections[c.index]? with
  | none => exact Act.does_throw.2 (.refused_of_plain rfl)
  | some peer => exact Act.does_pure.2 fed

/-- **Turns**: every step of a world is a turn. -/
theorem perform_does (step : Step) (world : World) :
    Act.Does (perform step) world fun r es next => Turn world step es r next := by
  cases step with
  | onStream number operation =>
    refine onStream_does (fun absent => .refused ?_) fun stream has => ?_
    · rintro _ ⟨⟩
      exact absent
    exact (ByteStream.perform_does _ _).mono fun r es held h => .onStream has h rfl
  | onReader number operation =>
    refine onReader_does (fun absent => .refused ?_) fun reader stream reads has => ?_
    · intro n target
      obtain ⟨reader, reads, rfl⟩ := Option.map_eq_some_iff.1 target
      exact absent reader reads
    exact (WindowReader.perform_does _ _).mono fun r es held h => .onReader reads has h rfl
  | create settings mode =>
    refine Act.does_ofExcept_bind.2 ?_
    unfold ByteStream.ofMode
    cases Direction.ofMode mode with
    | error e => exact .refused_of_plain rfl
    | ok direction =>
      exact does_addStream_bind.2 (Act.does_pure.2 (.added rfl (.unopened ..) rfl))
  | start settings mode =>
    refine Act.Does.bind ((openNew_does settings mode world).mono ?_)
    rintro r es next ⟨streams, -, h⟩
    cases r with
    | error e => exact .aside rfl h streams
    | ok stream =>
      refine does_addStream_bind.2 (Act.does_pure.2 ?_)
      rw [List.append_nil]
      exact .added rfl h (by rw [streams])
  | startReader settings =>
    refine Act.Does.bind ((openNew_does settings _ world).mono ?_)
    rintro r es next ⟨streams, -, h⟩
    cases r with
    | error e => exact .aside rfl h streams
    | ok stream =>
      refine does_addStream_bind.2 (does_addReader_bind.2 (Act.does_pure.2 ?_))
      rw [List.append_nil]
      exact .added rfl h (by rw [← streams])
  | attach number =>
    refine Act.does_get_bind.2 (does_entry_bind.2 ?_)
    cases world.streams[number]? with
    | none => exact .refused_of_plain rfl
    | some stream =>
      refine Act.Does.bind (Act.Does.map (Act.does_ofExcept.2 ?_))
      cases WindowReader.onStream stream with
      | error e => exact .refused_of_plain rfl
      | ok reader =>
        exact does_addReader_bind.2 (Act.does_pure.2 (.quiet rfl rfl))
  | newSession session =>
    refine Act.does_get_bind.2 ?_
    refine (Act.does_bind_of_outcome (s := world) (a := ()) (t := { world with
      sessions := world.sessions ++ [session] }) rfl rfl).2 ?_
    exact Act.does_pure.2 (.quiet rfl rfl)
  | join number route target timeout => exact join_does number route target timeout
  | nextId source => exact nextId_does source
  | lastId source => exact Act.does_get_bind.2 (Act.does_pure.2 (.quiet rfl rfl))
  | enqueue peers => exact ⟨[], Network.Extends.of_trace_eq rfl rfl, .quiet rfl rfl⟩
  | feed c segments => exact feed_does c segments

theorem step_eq (step : Step) (world : World) :
    World.step step world = Act.outcome (perform step) world := by
  unfold Act.outcome World.step
  cases perform step world <;> rfl

/-- What the action of a step does is what the step does. -/
theorem step_of_does {step : Step} {world : World}
    {post : Except Failure Answer → List Event → World → Prop}
    (does : Act.Does (perform step) world post) :
    ∃ es, world.host.network.Extends es (World.step step world).2.host.network ∧
      post (World.step step world).1 es (World.step step world).2 := by
  unfold Act.Does at does
  rwa [← step_eq] at does

/-- A step, as a turn with the events that it adds to the record. -/
theorem step_turn (step : Step) (world : World) :
    ∃ es, world.host.network.Extends es (World.step step world).2.host.network ∧
      Turn world step es (World.step step world).1 (World.step step world).2 :=
  step_of_does (perform_does step world)

/-- An operation of a stream that is there is performed on it. -/
theorem Turn.performs {world next : World} {number : Nat} {operation : ByteStream.Operation}
    {es : List Event} {r : Except Failure Answer} {stream : ByteStream}
    (h : Turn world (.onStream number operation) es r next)
    (has : world.streams[number]? = some stream) :
    ∃ stream', ByteStream.Performing operation stream es r stream' ∧
      next.streams[number]? = some stream' := by
  cases h with
  | refused absent =>
    rw [absent number rfl] at has
    cases has
  | onStream has' performs streams =>
    obtain rfl := Option.some.inj (has.symm.trans has')
    obtain ⟨inside, -⟩ := List.getElem?_eq_some_iff.1 has
    exact ⟨_, performs, by rw [streams, List.getElem?_set_self inside]⟩
  | added plain => cases plain
  | aside plain => cases plain

/-- What the answer to a step says was written by a stream, at the position from before it. -/
def written (number : Nat) (world : World) : Step → Except Failure Answer → List Placed
  | .onStream n operation, r =>
    if n = number then ((world.streams[n]?).map (·.written operation r)).getD [] else []
  | _, _ => []

theorem written_onStream {number n : Nat} {world : World} {stream : ByteStream}
    (has : world.streams[n]? = some stream) (operation : ByteStream.Operation)
    (r : Except Failure Answer) : written number world (.onStream n operation) r =
      if n = number then stream.written operation r else [] := by
  change (if n = number then ((world.streams[n]?).map (·.written operation r)).getD [] else []) = _
  rw [has]
  rfl

/-- A step that fails has written nothing. -/
theorem written_error (number : Nat) (world : World) (step : Step) (e : Failure) :
    written number world step (.error e) = [] := by
  cases step with
  | onStream n operation =>
    cases has : world.streams[n]? with
    | none =>
      change (if n = number then ((world.streams[n]?).map _).getD [] else []) = []
      rw [has]
      exact ite_self _
    | some stream =>
      rw [written_onStream has]
      cases operation <;> exact ite_self _
  | _ => rfl

/-- A step that is no operation has written nothing. -/
theorem written_of_plain {number : Nat} {world : World} {step : Step} {r : Except Failure Answer}
    (plain : step.operates = false) : written number world step r = [] := by
  cases step with
  | onStream => cases plain
  | _ => rfl

/-- One stream changes, and no other; a stream that was not there before was not open. -/
structure Changes (world : World) (number : Nat) (before : ByteStream) (es : List Event)
    (ps : List Placed) (after : ByteStream) (next : World) : Prop where
  before_eq : world.streams[number]? = some before ∨
    world.streams[number]? = none ∧ before.phase = .unopened
  evolves : before.Evolves es ps after
  here : next.streams[number]? = some after
  elsewhere : ∀ j, j ≠ number → next.streams[j]? = world.streams[j]?

section Changes

variable {world next : World} {number : Nat} {before after : ByteStream} {es : List Event}
  {ps : List Placed}

theorem Changes.of_set (has : world.streams[number]? = some before)
    (evolves : before.Evolves es ps after)
    (streams : next.streams = world.streams.set number after) :
    Changes world number before es ps after next where
  before_eq := .inl has
  evolves := evolves
  here := by
    rw [streams, List.getElem?_set_self']
    simp [has]
  elsewhere j hj := by rw [streams, List.getElem?_set_ne (Ne.symm hj)]

theorem Changes.of_append {settings : Settings} {session : Session}
    (evolves : (ByteStream.unopened settings session).Evolves es ps after)
    (streams : next.streams = world.streams ++ [after]) :
    Changes world world.streams.length (.unopened settings session) es ps after next where
  before_eq := .inr ⟨List.getElem?_eq_none (Nat.le_refl _), rfl⟩
  evolves := evolves
  here := by rw [streams, List.getElem?_concat_length]
  elsewhere j hj := by
    rw [streams]
    rcases Nat.lt_or_gt_of_ne hj with lower | upper
    · exact List.getElem?_append_left lower
    · rw [List.getElem?_eq_none (Nat.le_of_lt upper), List.getElem?_eq_none]
      rw [List.length_append, List.length_singleton]
      exact upper

/-- A turn changes no stream, or the one that the step is on, and what its answer says was written
is what that one moved. -/
theorem Turn.changes {step : Step} {r : Except Failure Answer} (h : Turn world step es r next) :
    (Attempt es ∧ next.streams = world.streams ∧
      (∀ number, step.target? world = some number → world.streams[number]? = none) ∧
      ∀ number, written number world step r = []) ∨
    ∃ n before ps after, Changes world n before es ps after next ∧ step.target? world = some n ∧
      ∀ number, written number world step r =
        if n = number ∧ before.direction = .write then ps else [] := by
  cases h with
  | refused absent =>
    exact .inl ⟨.idle, rfl, absent, fun _ => written_error ..⟩
  | @onStream n operation _ _ stream stream' _ has performs streams =>
    obtain ⟨ps, evolves, accounts⟩ := performs.evolves
    refine .inr ⟨_, _, ps, _, .of_set has evolves streams, rfl, fun number => ?_⟩
    rw [written_onStream has]
    by_cases here : n = number
    · rw [if_pos here]
      cases hdirection : stream.direction with
      | write => rw [if_pos ⟨here, rfl⟩, accounts.written hdirection]
      | read => rw [if_neg (fun both => nomatch both.2), accounts.unwritten hdirection]
    · rw [if_neg here, if_neg fun both => here both.1]
  | onReader reads has performs streams =>
    obtain ⟨ps, evolves, writes, -⟩ := performs.evolves
    refine .inr ⟨_, _, ps, _, .of_set has evolves streams,
      congrArg (Option.map Attached.stream) reads, fun number => ?_⟩
    split
    · next both => exact (writes both.2).symm
    · rfl
  | added plain born streams =>
    obtain ⟨settings, direction, evolves⟩ := born.evolves
    refine .inr ⟨_, _, [], _, .of_append evolves streams, Step.target?_of_plain plain world,
      fun number => ?_⟩
    rw [written_of_plain plain, ite_self]
  | aside plain attempt streams =>
    exact .inl ⟨attempt, streams, fun _ => Step.absent_of_plain plain,
      fun _ => written_of_plain plain⟩

end Changes

-- ════════════════════════════════════════════════════════════════════════
-- The invariant of worlds
-- ════════════════════════════════════════════════════════════════════════

/-- What every run keeps. -/
structure Sound (world : World) : Prop where
  numbered : world.host.network.Numbered
  orderly : Orderly world.trace
  streams : ∀ (number : Nat) (stream : ByteStream), world.streams[number]? = some stream →
    stream.Sound world.trace
  apart : ∀ (i j : Nat) (s t : ByteStream), i ≠ j → world.streams[i]? = some s →
    world.streams[j]? = some t → ∀ c ∈ s.connections, c ∉ t.connections

/-- Connections are made once. -/
theorem nodup_of_numbered {world : World} (h : world.host.network.Numbered) :
    (opened world.trace).Nodup := by
  unfold Network.Numbered at h
  rw [trace, h]
  refine List.pairwise_map.2 (List.nodup_range.imp fun other same => ?_)
  exact other (congrArg ConnectionId.index same)

/-- A world in which nothing has happened yet keeps to all of this. -/
theorem sound_begin {firstId : Int} {waiting : List Peer} {world : World}
    (h : begin firstId waiting = .ok world) : world.Sound := by
  unfold begin at h
  cases hids : SessionIds.startingAt firstId with
  | error e => rw [hids] at h; cases h
  | ok ids =>
    rw [hids] at h
    cases h
    refine ⟨rfl, ⟨.nil, fun _ => rfl⟩, fun number stream hstream => ?_, fun i j s t _ hs => ?_⟩
    · cases hstream
    · cases hs

section Preservation

variable {world next : World} {step : Step} {es : List Event}

/-- The record grows, and connections are still made once. -/
theorem Sound.extends (sound : world.Sound)
    (grows : world.host.network.Extends es next.host.network) :
    next.trace = world.trace ++ es ∧ (opened (world.trace ++ es)).Nodup := by
  have htrace : next.trace = world.trace ++ es := grows.trace_eq
  exact ⟨htrace, htrace ▸ nodup_of_numbered (grows.numbered sound.numbered)⟩

/-- The stream that changes fits to its record before. -/
theorem Changes.sound_before {number : Nat} {before after : ByteStream} {ps : List Placed}
    (h : Changes world number before es ps after next) (sound : world.Sound) :
    before.Sound world.trace := by
  rcases h.before_eq with has | ⟨-, unopened⟩
  · exact sound.streams number before has
  · refine .of_phase ?_
    rw [unopened]
    exact StreamPhase.noConfusion

/-- The stream that changes holds no connection that is not held in the world. -/
theorem Changes.not_held {number : Nat} {before after : ByteStream} {ps : List Placed}
    (h : Changes world number before es ps after next) {c : ConnectionId}
    (free : ∀ stream, world.streams[number]? = some stream → c ∉ stream.connections) :
    c ∉ before.connections := by
  rcases h.before_eq with has | ⟨-, unopened⟩
  · exact free before has
  · cases before with
    | unopened => exact List.not_mem_nil
    | opened => cases unopened
    | closed => cases unopened

/-- The stream that changes, and what it leaves of the record. -/
theorem Changes.sound {number : Nat} {before after : ByteStream} {ps : List Placed}
    (h : Changes world number before es ps after next) (sound : world.Sound)
    (nodup : (opened (world.trace ++ es)).Nodup) :
    Orderly (world.trace ++ es) ∧ after.Sound (world.trace ++ es) :=
  h.evolves.sound sound.orderly (h.sound_before sound) nodup

/-- The stream that changes is on no connection of another one. -/
theorem Changes.untouched {number : Nat} {before after : ByteStream} {ps : List Placed}
    (h : Changes world number before es ps after next) (sound : world.Sound)
    (nodup : (opened (world.trace ++ es)).Nodup) {j : Nat} {other : ByteStream} (hj : j ≠ number)
    (hother : world.streams[j]? = some other) : ∀ c ∈ other.connections, Untouched c es := by
  intro c hc
  refine h.evolves.footprint.untouched nodup
    ((sound.streams j other hother).connections_subset hc) (h.not_held fun stream has => ?_)
  exact sound.apart j number other stream hj hother has c hc

/-- **Step lemma**: a turn keeps the invariant of worlds. -/
theorem Turn.sound {r : Except Failure Answer} (h : Turn world step es r next)
    (grows : world.host.network.Extends es next.host.network) (sound : world.Sound) :
    next.Sound := by
  have numbered := grows.numbered sound.numbered
  obtain ⟨htrace, nodup⟩ := sound.extends grows
  rcases h.changes with ⟨attempt, streams, -⟩ | ⟨number, before, ps, after, changes, -⟩
  · obtain ⟨contained, outward⟩ := attempt.selfContained
    refine ⟨numbered, ?_, fun j stream hj => ?_, ?_⟩
    · rw [htrace]
      refine ⟨sound.orderly.contained.append contained, ?_⟩
      by_cases hes : es = []
      · rw [hes, List.append_nil]
        exact sound.orderly.settled
      · exact outward.settled hes _
    · rw [streams] at hj
      rw [htrace]
      refine (sound.streams j stream hj).frame sound.orderly nodup fun c hc => ?_
      exact contained.untouched_old nodup ((sound.streams j stream hj).connections_subset hc)
    · rw [streams]
      exact sound.apart
  · obtain ⟨orderly, hafter⟩ := changes.sound sound nodup
    -- What the changed stream holds is what it held before or new, so it shares nothing.
    have alone : ∀ (j : Nat) (other : ByteStream), j ≠ number → world.streams[j]? = some other →
        ∀ c ∈ after.connections, c ∉ other.connections := by
      intro j other hj hother c hc hc'
      have old := (sound.streams j other hother).connections_subset hc'
      rcases changes.evolves.footprint.held c hc with held | new
      · refine changes.not_held (fun stream has => ?_) held
        exact sound.apart j number other stream hj hother has c hc'
      · exact not_mem_opened_of_nodup nodup new old
    refine ⟨numbered, htrace ▸ orderly, fun j stream hj => ?_, fun i j s t hij hs ht c hc hc' => ?_⟩
    · rw [htrace]
      by_cases same : j = number
      · subst same
        rw [changes.here, Option.some.injEq] at hj
        exact hj ▸ hafter
      · rw [changes.elsewhere j same] at hj
        exact (sound.streams j stream hj).frame sound.orderly nodup
          (changes.untouched sound nodup same hj)
    · by_cases hi : i = number
      · subst hi
        rw [changes.here, Option.some.injEq] at hs
        rw [changes.elsewhere j (Ne.symm hij)] at ht
        exact alone j t (Ne.symm hij) ht c (hs ▸ hc) hc'
      · rw [changes.elsewhere i hi] at hs
        by_cases hj : j = number
        · subst hj
          rw [changes.here, Option.some.injEq] at ht
          exact alone i s hi hs c (ht ▸ hc') hc
        · rw [changes.elsewhere j hj] at ht
          exact sound.apart i j s t hij hs ht c hc hc'

/-- A step keeps the invariant of worlds. -/
theorem sound_step (step : Step) (sound : world.Sound) : (World.step step world).2.Sound := by
  obtain ⟨es, grows, turn⟩ := step_turn step world
  exact turn.sound grows sound

theorem after_cons (step : Step) (later : List Step) (world : World) :
    after (step :: later) world = after later (World.step step world).2 := rfl

theorem after_append (before later : List Step) (world : World) :
    after (before ++ later) world = after later (after before world) := by
  induction before generalizing world with
  | nil => rfl
  | cons step before ih => rw [List.cons_append, after_cons, after_cons, ih]

/-- **Run lemma**: a property that every step keeps is kept by every run. -/
theorem after_induction {P : World → Prop}
    (hstep : ∀ step world, P world → P (World.step step world).2)
    (steps : List Step) (h : P world) : P (after steps world) := by
  induction steps generalizing world with
  | nil => exact h
  | cons step later ih => exact ih (hstep step world h)

/-- Every run keeps the invariant of worlds. -/
theorem sound_after (steps : List Step) (sound : world.Sound) : (after steps world).Sound :=
  after_induction (fun step _ => sound_step step) steps sound

/-- The record only grows. -/
theorem trace_after (steps : List Step) (world : World) :
    ∃ es, (after steps world).trace = world.trace ++ es := by
  induction steps generalizing world with
  | nil => exact ⟨[], (List.append_nil _).symm⟩
  | cons step later ih =>
    obtain ⟨es, grows, -⟩ := step_turn step world
    obtain ⟨fs, hfs⟩ := ih (World.step step world).2
    refine ⟨es ++ fs, ?_⟩
    rw [after_cons, hfs, trace, grows.trace_eq, List.append_assoc, trace]

end Preservation

end World

end SessionStream
