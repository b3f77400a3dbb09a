import SessionStream.Proofs.Worlds

/-!
# The life of a control connection

The record outlives the stream. When a stream is closed it no longer holds the control connection
under which the record tells of it. This file follows that connection: from the moment on when a
stream is opened, a step is one of this stream while it is open, or is on none of its connections.

## Main definitions

- `World.Lasting` — a stream has had a control connection from some moment on
- `Elsewhere` — calls that are on no connection of a control connection

## Main results

- `World.Turn.lasting` — what one step can mean to a stream that was opened
-/

namespace SessionStream

variable {k : ConnectionId} {es trace : List Event}

/-- None of these calls is on `k`, or on a connection that was made for a transfer announced on
`k`. -/
structure Elsewhere (k : ConnectionId) (trace es : List Event) : Prop where
  control : Untouched k es
  data : ∀ c ∈ opened trace, transferOn k c trace ≠ none → Untouched c es

theorem Elsewhere.nil (k : ConnectionId) (trace : List Event) : Elsewhere k trace [] :=
  ⟨.nil k, fun c _ _ => .nil c⟩

/-- Calls on connections that they have made are elsewhere. -/
theorem SelfContained.elsewhere (h : SelfContained es) (nodup : (opened (trace ++ es)).Nodup)
    (made : k ∈ opened trace) : Elsewhere k trace es :=
  ⟨h.untouched_old nodup made, fun _ old _ => h.untouched_old nodup old⟩

/-- What a stream does is elsewhere for every control connection that it does not hold. -/
theorem ByteStream.Evolves.elsewhere {stream after : ByteStream} {ps : List Placed}
    (h : Evolves stream es ps after) (sound : stream.Sound trace)
    (nodup : (SessionStream.opened (trace ++ es)).Nodup) (made : k ∈ SessionStream.opened trace)
    (other : k ∉ stream.connections) : Elsewhere k trace es := by
  refine ⟨h.footprint.untouched nodup made other, fun c old announced => ?_⟩
  refine h.footprint.untouched nodup old fun held => ?_
  cases stream with
  | unopened => cases held
  | closed => cases held
  | opened link =>
    have sound := sound link rfl
    rcases List.mem_cons.1 held with rfl | held
    · exact announced (sound.unannounced k)
    · obtain ⟨offset, carries⟩ := sound.carries c (Option.mem_toList.1 held)
      obtain ⟨p, hp⟩ := Option.ne_none_iff_exists'.1 announced
      obtain rfl := transferOn_unique hp carries.transfer
      exact other (List.mem_cons_self ..)

namespace World

/-- A stream has had the control connection `k` from some moment on: it still has it, or it is
closed. No other stream has it. -/
structure Lasting (number : Nat) (k : ConnectionId) (direction : Direction) (world : World) :
    Prop where
  has : ∃ stream, world.streams[number]? = some stream ∧ stream.direction = direction ∧
    (stream.control = some k ∨ stream.phase = .closed)
  mem_opened : k ∈ opened world.trace
  others : ∀ (j : Nat) (stream : ByteStream), j ≠ number → world.streams[j]? = some stream →
    k ∉ stream.connections

variable {world next : World} {number : Nat} {direction : Direction} {step : Step}
  {r : Except Failure Answer}

/-- A stream that is open lasts. -/
theorem Sound.lasting (sound : world.Sound) {stream : ByteStream}
    (has : world.streams[number]? = some stream) (hk : stream.control = some k) :
    Lasting number k stream.direction world := by
  cases stream with
  | unopened => cases hk
  | closed => cases hk
  | opened link =>
    obtain rfl : link.control = k := Option.some.inj hk
    refine ⟨⟨_, has, rfl, .inl rfl⟩, ((sound.streams number _ has) link rfl).mem_opened, ?_⟩
    exact fun j other hj hother => sound.apart number j _ other hj.symm has hother _
      (List.mem_cons_self ..)

/-- What a step means to a stream that was opened: it is an operation of the stream while it is
open, or it is elsewhere. -/
inductive Follows (number : Nat) (k : ConnectionId) (direction : Direction) (world : World)
    (es : List Event) (ps : List Placed) (next : World) : Prop
  | here {link : Link} {after : ByteStream} {moved : List Placed}
      (has : world.streams[number]? = some (.opened link)) (control : link.control = k)
      (directed : link.session.direction = direction)
      (evolves : ByteStream.Evolves (.opened link) es moved after)
      (becomes : next.streams[number]? = some after)
      (written : ps = if direction = .write then moved else [])
  | elsewhere (away : Elsewhere k world.trace es) (written : ps = [])

/-- After a step, no other stream has the control connection either. -/
theorem Changes.others {n : Nat} {before after : ByteStream} {ps : List Placed}
    (h : Changes world n before es ps after next) (lasting : Lasting number k direction world)
    (nodup : (opened (world.trace ++ es)).Nodup) (j : Nat) (stream : ByteStream) (hj : j ≠ number)
    (has : next.streams[j]? = some stream) : k ∉ stream.connections := by
  intro hk
  by_cases same : j = n
  · subst same
    obtain rfl : after = stream := Option.some.inj (h.here.symm.trans has)
    rcases h.evolves.footprint.held k hk with old | new
    · exact h.not_held (fun before has => lasting.others j before hj has) old
    · exact not_mem_opened_of_nodup nodup new lasting.mem_opened
  · rw [h.elsewhere j same] at has
    exact lasting.others j stream hj has hk

/-- A stream that was opened is open or closed, and stays so. -/
theorem Changes.lasting {before after : ByteStream} {ps : List Placed}
    (h : Changes world number before es ps after next)
    (lasting : Lasting number k direction world) :
    before.direction = direction ∧ (after.control = some k ∨ after.phase = .closed) ∧
      ((∃ link : Link, before = .opened link ∧ link.control = k) ∨
        es = [] ∧ ps = []) := by
  obtain ⟨stream, has, directed, control⟩ := lasting.has
  have has' : world.streams[number]? = some before := h.before_eq.resolve_right
    fun absent => by rw [absent.1] at has; cases has
  obtain rfl : before = stream := Option.some.inj (has'.symm.trans has)
  refine ⟨directed, ?_⟩
  have evolves := h.evolves
  cases before with
  | unopened => rcases control with control | control <;> cases control
  | closed =>
    cases evolves
    exact ⟨.inr rfl, .inr ⟨rfl, rfl⟩⟩
  | opened link =>
    have same : link.control = k := by
      rcases control with control | control
      · exact Option.some.inj control
      · cases control
    refine ⟨?_, .inl ⟨link, rfl, same⟩⟩
    rcases evolves.of_opened with ⟨link', rfl, -, hcontrol⟩ | ⟨closed, -⟩
    · exact .inl (congrArg some (hcontrol.trans same))
    · exact .inr closed

/-- **Step lemma**: a stream that was opened lasts, and every step is its own or elsewhere. -/
theorem Turn.lasting (h : Turn world step es r next)
    (grows : world.host.network.Extends es next.host.network) (sound : world.Sound)
    (lasting : Lasting number k direction world) :
    Lasting number k direction next ∧
      Follows number k direction world es (written number world step r) next := by
  obtain ⟨htrace, nodup⟩ := sound.extends grows
  have made : k ∈ opened next.trace := htrace ▸ mem_opened_append lasting.mem_opened es
  rcases h.changes with ⟨attempt, streams, -, silent⟩ |
    ⟨n, before, ps, after, changes, -, moved⟩
  · refine ⟨⟨?_, made, ?_⟩, ?_⟩
    · rw [streams]
      exact lasting.has
    · rw [streams]
      exact lasting.others
    · exact .elsewhere (attempt.selfContained.1.elsewhere nodup lasting.mem_opened)
        (silent number)
  have others := changes.others lasting nodup
  by_cases here : n = number
  · subst here
    obtain ⟨hdirection, control, own⟩ := changes.lasting lasting
    have directed := changes.evolves.direction_eq.trans hdirection
    refine ⟨⟨⟨after, changes.here, directed, control⟩, made, others⟩, ?_⟩
    rcases own with ⟨link, rfl, same⟩ | ⟨rfl, rfl⟩
    · have has := changes.before_eq.resolve_right fun absent => nomatch absent.2
      refine .here has same hdirection changes.evolves changes.here ?_
      rw [moved, hdirection]
      simp only [true_and]
    · exact .elsewhere (.nil k _) (by rw [moved, ite_self])
  · refine ⟨⟨?_, made, others⟩, .elsewhere ?_ ?_⟩
    · rw [changes.elsewhere number (Ne.symm here)]
      exact lasting.has
    · refine changes.evolves.elsewhere (changes.sound_before sound) nodup lasting.mem_opened ?_
      exact changes.not_held fun stream has => lasting.others n stream here has
    · rw [moved, if_neg fun both => here both.1]

/-- **Run lemma**: a stream that was opened lasts. -/
theorem lasting_after (steps : List Step) (sound : world.Sound)
    (lasting : Lasting number k direction world) :
    Lasting number k direction (after steps world) := by
  induction steps generalizing world with
  | nil => exact lasting
  | cons step later ih =>
    obtain ⟨es, grows, turn⟩ := step_turn step world
    exact ih (sound_step step sound) (turn.lasting grows sound lasting).1

end World

end SessionStream
