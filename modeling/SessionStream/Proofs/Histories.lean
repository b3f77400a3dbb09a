import SessionStream.Proofs.Worlds

/-!
# The history of one stream

The record of a world tells of all its streams in turn. This file picks out what was done to one of
them: the steps that were taken on it, directly or by way of a reader, each with its answer and its
calls. From the step that made it onwards a stream is led from state to state by nothing else, and
no call but these is on a connection that it has made.

## Main definitions

- `Deed` — a step that was taken
- `ByteStream.Acts`, `ByteStream.Lives` — one step of a stream, and any number of them
- `World.deeds`, `World.history` — the steps of one stream in a run, and their calls
- `callsOn` — the calls on a connection

## Main results

- `World.lives_after`, `World.life` — the deeds of a stream lead to the state it is in
- `World.callsOn_history` — the history of a stream has all calls on its connections
-/

namespace SessionStream

variable {c : ConnectionId} {es fs : List Event}

/-- A step that was taken. -/
structure Deed where
  /-- The step. -/
  step : Step
  /-- How it ended. -/
  answer : Except Failure Answer
  /-- The calls it made. -/
  calls : List Event
  deriving DecidableEq, Repr

/-- The calls on a connection. -/
def callsOn (c : ConnectionId) (es : List Event) : List Event :=
  es.filter (·.target? = some c)

@[simp] theorem callsOn_append (c : ConnectionId) (es fs : List Event) :
    callsOn c (es ++ fs) = callsOn c es ++ callsOn c fs :=
  List.filter_append ..

theorem callsOn_eq_nil_iff : callsOn c es = [] ↔ Untouched c es := by
  simp [callsOn, Untouched, List.filter_eq_nil_iff]

/-- The dialogue of a connection is read off the calls on it. -/
theorem dialogue_callsOn (c : ConnectionId) (es : List Event) :
    dialogue c (callsOn c es) = dialogue c es := by
  suffices same : ∀ xs, (callsOn c es).foldl (converse c) xs = es.foldl (converse c) xs from same []
  intro xs
  induction es generalizing xs with
  | nil => rfl
  | cons e es ih =>
    by_cases h : e.target? = some c
    · have here : callsOn c (e :: es) = e :: callsOn c es := by simp [callsOn, h]
      rw [here, List.foldl_cons, List.foldl_cons, ih]
    · have gone : callsOn c (e :: es) = callsOn c es := by simp [callsOn, h]
      rw [gone, List.foldl_cons, converse_of_target? h, ih]

namespace ByteStream

variable {stream mid after : ByteStream} {ds : List Deed} {d : Deed}

/-- One step of a stream, taken on it or on a reader of it. -/
inductive Acts : ByteStream → Deed → ByteStream → Prop
  | operation {stream after : ByteStream} {number : Nat} {operation : Operation} {es : List Event}
      {r : Except Failure Answer} (performs : Performing operation stream es r after) :
      Acts stream ⟨.onStream number operation, r, es⟩ after
  | window {stream after : ByteStream} {number : Nat} {operation : WindowReader.Operation}
      {es : List Event} {r : Except Failure Answer}
      (performs : WindowReader.Performing operation stream es r after) :
      Acts stream ⟨.onReader number operation, r, es⟩ after

/-- Any number of steps of a stream. -/
inductive Lives (stream : ByteStream) : List Deed → ByteStream → Prop
  | still : Lives stream [] stream
  | acted {ds : List Deed} {d : Deed} {mid after : ByteStream} (lives : Lives stream ds mid)
      (acts : Acts mid d after) : Lives stream (ds ++ [d]) after

theorem Acts.evolves (h : Acts stream d after) : ∃ ps, Evolves stream d.calls ps after := by
  cases h with
  | operation performs =>
    obtain ⟨ps, evolves, -⟩ := performs.evolves
    exact ⟨ps, evolves⟩
  | window performs =>
    obtain ⟨ps, evolves, -⟩ := performs.evolves
    exact ⟨ps, evolves⟩

theorem Lives.trans {later : List Deed} (h : Lives stream ds mid) (h' : Lives mid later after) :
    Lives stream (ds ++ later) after := by
  induction h' with
  | still => rwa [List.append_nil]
  | acted _ acts ih =>
    rw [← List.append_assoc]
    exact ih.acted acts

theorem Lives.cons (acts : Acts stream d mid) (h : Lives mid ds after) :
    Lives stream (d :: ds) after :=
  (Lives.still.acted acts).trans h

/-- A stream is only ever on connections that it held or has made. -/
theorem Lives.footprint (h : Lives stream ds after) :
    Footprint stream.connections (ds.flatMap Deed.calls) after.connections := by
  induction h with
  | still => exact .nil (List.Subset.refl _)
  | acted _ acts ih =>
    obtain ⟨ps, evolves⟩ := acts.evolves
    rw [List.flatMap_append, List.flatMap_singleton]
    exact ih.trans evolves.footprint

end ByteStream

namespace World

variable {world next : World} {number : Nat} {step : Step} {r : Except Failure Answer}

/-- Whether a step that led to the world `next` was one of the stream with this number. -/
def IsDeed (number : Nat) (world : World) (step : Step) (next : World) : Prop :=
  step.target? world = some number ∧ number < next.streams.length

instance : Decidable (IsDeed number world step next) :=
  inferInstanceAs (Decidable (_ ∧ _))

/-- The steps of a run that were steps of the stream with this number, the one that made it
included. -/
def deeds (number : Nat) : List Step → World → List Deed
  | [], _ => []
  | step :: later, world =>
    let (answer, next) := World.step step world
    if IsDeed number world step next then
      ⟨step, answer, next.trace.drop world.trace.length⟩ :: deeds number later next
    else deeds number later next

/-- The calls of a stream in a run. -/
def history (number : Nat) (steps : List Step) (world : World) : List Event :=
  (deeds number steps world).flatMap Deed.calls

theorem deeds_cons (number : Nat) (step : Step) (later : List Step) (world : World) :
    deeds number (step :: later) world =
      deeds number [step] world ++ deeds number later (World.step step world).2 := by
  simp only [deeds]
  split <;> rfl

theorem deeds_append (number : Nat) (before later : List Step) (world : World) :
    deeds number (before ++ later) world =
      deeds number before world ++ deeds number later (after before world) := by
  induction before generalizing world with
  | nil => rfl
  | cons step before ih =>
    rw [List.cons_append, deeds_cons, ih, deeds_cons number step before, List.append_assoc,
      after_cons]

theorem history_append (number : Nat) (before later : List Step) (world : World) :
    history number (before ++ later) world =
      history number before world ++ history number later (after before world) := by
  rw [history, deeds_append, List.flatMap_append, history, history]

/-- One step that added `es` to the record, as the deed that it may have been. -/
theorem deeds_singleton
    (grows : world.host.network.Extends es (World.step step world).2.host.network) (number : Nat) :
    deeds number [step] world =
      if IsDeed number world step (World.step step world).2 then
        [⟨step, (World.step step world).1, es⟩] else [] := by
  have calls : (World.step step world).2.trace.drop world.trace.length = es := by
    have grown : (World.step step world).2.trace = world.trace ++ es := grows.trace_eq
    rw [grown, List.drop_left]
  simp only [deeds, calls]

/-- A step of a stream makes it, or is on it; any other step leaves it as it is. -/
theorem Turn.acts_or_born (h : Turn world step es r next) (number : Nat) :
    (IsDeed number world step next ∧
      ((∃ stream after, world.streams[number]? = some stream ∧
          next.streams[number]? = some after ∧ ByteStream.Acts stream ⟨step, r, es⟩ after) ∨
        world.streams[number]? = none ∧ step.operates = false ∧ (∃ a, r = .ok a) ∧
          ∃ stream, next.streams[number]? = some stream ∧ ByteStream.Born es stream)) ∨
    ¬IsDeed number world step next ∧ next.streams[number]? = world.streams[number]? := by
  have on_set : ∀ {n : Nat} {stream after : ByteStream}, step.target? world = some n →
      world.streams[n]? = some stream → next.streams = world.streams.set n after →
      ByteStream.Acts stream ⟨step, r, es⟩ after →
      (IsDeed number world step next ∧
        ∃ stream after, world.streams[number]? = some stream ∧
          next.streams[number]? = some after ∧ ByteStream.Acts stream ⟨step, r, es⟩ after) ∨
      ¬IsDeed number world step next ∧ next.streams[number]? = world.streams[number]? := by
    intro n stream after target has streams acts
    obtain ⟨inside, -⟩ := List.getElem?_eq_some_iff.1 has
    by_cases here : n = number
    · subst here
      refine .inl ⟨⟨target, by rw [streams, List.length_set]; exact inside⟩, stream, after, has, ?_,
        acts⟩
      rw [streams, List.getElem?_set_self inside]
    · refine .inr ⟨fun own => here (Option.some.inj (target.symm.trans own.1)), ?_⟩
      rw [streams, List.getElem?_set_ne here]
  cases h with
  | refused absent =>
    refine .inr ⟨fun own => ?_, rfl⟩
    have inside := List.getElem?_eq_none_iff.1 (absent number own.1)
    exact absurd own.2 (by omega)
  | onStream has performs streams =>
    exact (on_set rfl has streams (.operation performs)).imp_left (And.imp_right .inl)
  | onReader reads has performs streams =>
    have target := congrArg (Option.map Attached.stream) reads
    exact (on_set target has streams (.window performs)).imp_left (And.imp_right .inl)
  | added plain born streams =>
    have target := Step.target?_of_plain plain world
    by_cases here : world.streams.length = number
    · subst here
      refine .inl ⟨⟨target, by simp [streams]⟩, .inr ⟨?_, plain, ⟨_, rfl⟩, _, ?_, born⟩⟩
      · exact List.getElem?_eq_none (Nat.le_refl _)
      · rw [streams, List.getElem?_concat_length]
    · obtain ⟨settings, direction, evolves⟩ := born.evolves
      have changes := Changes.of_append evolves streams
      exact .inr ⟨fun own => here (Option.some.inj (target.symm.trans own.1)),
        changes.elsewhere number (Ne.symm here)⟩
  | aside plain _ streams =>
    refine .inr ⟨fun own => ?_, by rw [streams]⟩
    have target := own.1.symm.trans (Step.target?_of_plain plain world)
    obtain rfl := Option.some.inj target
    exact absurd own.2 (by rw [streams]; omega)

/-- A step of a stream makes it, or is on it. -/
theorem acts_of_mem_deeds {d : Deed} (hd : d ∈ deeds number [step] world) :
    (∃ stream after, world.streams[number]? = some stream ∧
      (World.step step world).2.streams[number]? = some after ∧ ByteStream.Acts stream d after) ∨
    world.streams[number]? = none ∧ ∃ a, d.answer = .ok a := by
  obtain ⟨es, grows, turn⟩ := step_turn step world
  rw [deeds_singleton grows] at hd
  rcases turn.acts_or_born number with ⟨own, acts | ⟨fresh, -, made, -⟩⟩ | ⟨other, -⟩
  · rw [if_pos own] at hd
    obtain rfl := List.mem_singleton.1 hd
    exact .inl acts
  · rw [if_pos own] at hd
    obtain rfl := List.mem_singleton.1 hd
    exact .inr ⟨fresh, made⟩
  · rw [if_neg other] at hd
    cases hd

/-- **Run lemma**: the deeds of a stream lead from the state that it was in to the one it is in. -/
theorem lives_after (steps : List Step) {stream : ByteStream}
    (has : world.streams[number]? = some stream) :
    ∃ after', (after steps world).streams[number]? = some after' ∧
      stream.Lives (deeds number steps world) after' := by
  induction steps generalizing world stream with
  | nil => exact ⟨stream, has, .still⟩
  | cons step later ih =>
    obtain ⟨es, grows, turn⟩ := step_turn step world
    rw [deeds_cons, deeds_singleton grows, after_cons]
    rcases turn.acts_or_born number with ⟨own, ⟨before, mid, has', becomes, acts⟩ | ⟨fresh, -⟩⟩ |
      ⟨other, same⟩
    · obtain rfl := Option.some.inj (has.symm.trans has')
      obtain ⟨last, has, lives⟩ := ih becomes
      rw [if_pos own]
      exact ⟨last, has, .cons acts lives⟩
    · rw [fresh] at has
      cases has
    · rw [if_neg other]
      exact ih (same.trans has)

/-- **Run lemma**: a stream that was not there before was made by its first deed, and the others
led to the state that it is in. -/
theorem life (steps : List Step) {stream : ByteStream} (fresh : world.streams[number]? = none)
    (has : (after steps world).streams[number]? = some stream) :
    ∃ birth later first, deeds number steps world = birth :: later ∧
      birth.step.operates = false ∧ ByteStream.Born birth.calls first ∧
        first.Lives later stream := by
  induction steps generalizing world with
  | nil => rw [after, run, fresh] at has; cases has
  | cons step later ih =>
    obtain ⟨es, grows, turn⟩ := step_turn step world
    rw [deeds_cons, deeds_singleton grows]
    rcases turn.acts_or_born number with ⟨own, ⟨before, mid, has', -⟩ | ⟨-, plain, -, first,
      becomes, born⟩⟩ | ⟨other, same⟩
    · rw [fresh] at has'
      cases has'
    · obtain ⟨last, has', lives⟩ := lives_after later becomes
      obtain rfl := Option.some.inj (has.symm.trans has')
      rw [if_pos own]
      exact ⟨_, _, first, rfl, plain, born, lives⟩
    · rw [if_neg other]
      exact ih (same.trans fresh) has

/-- Without any stream in the world, there is none with this number. -/
theorem fresh_begin {firstId : Int} {waiting : List Peer}
    (start : begin firstId waiting = .ok world) (number : Nat) :
    world.streams[number]? = none ∧ world.trace = [] := by
  unfold begin at start
  cases hids : SessionIds.startingAt firstId with
  | error e => rw [hids] at start; cases start
  | ok ids =>
    rw [hids] at start
    cases start
    exact ⟨rfl, rfl⟩

-- ════════════════════════════════════════════════════════════════════════
-- The history as a part of the record
-- ════════════════════════════════════════════════════════════════════════

/-- The history of a stream is a part of what the run added to the record. -/
theorem history_sublist (number : Nat) (steps : List Step) (world : World) :
    ∃ es, (after steps world).trace = world.trace ++ es ∧
      (history number steps world).Sublist es := by
  induction steps generalizing world with
  | nil => exact ⟨[], (List.append_nil _).symm, .slnil⟩
  | cons step later ih =>
    obtain ⟨es, grows, -⟩ := step_turn step world
    obtain ⟨fs, htrace, sub⟩ := ih (World.step step world).2
    refine ⟨es ++ fs, ?_, ?_⟩
    · rw [after_cons, htrace, trace, grows.trace_eq, List.append_assoc, trace]
    · rw [history, deeds_cons, deeds_singleton grows, List.flatMap_append]
      refine List.Sublist.append ?_ sub
      split
      · exact (List.flatMap_singleton Deed.calls _).symm ▸ List.Sublist.refl es
      · exact List.nil_sublist _

/-- A stream makes every connection once. -/
theorem nodup_opened_history {firstId : Int} {waiting : List Peer}
    (start : begin firstId waiting = .ok world) (number : Nat) (steps : List Step) :
    (opened (history number steps world)).Nodup := by
  obtain ⟨es, htrace, sub⟩ := history_sublist number steps world
  rw [(fresh_begin start number).2, List.nil_append] at htrace
  have nodup := nodup_of_numbered (sound_after steps (sound_begin start)).numbered
  rw [htrace] at nodup
  exact nodup.sublist (sub.filterMap _)

/-- The connections of the stream are its own: their calls are those in its history, and no other
stream holds them. -/
structure Owning (number : Nat) (calls : List Event) (world : World) : Prop where
  sublist : calls.Sublist world.trace
  callsOn_eq : ∀ c ∈ opened calls, callsOn c world.trace = callsOn c calls
  others : ∀ (j : Nat) (stream : ByteStream), j ≠ number → world.streams[j]? = some stream →
    ∀ c ∈ opened calls, c ∉ stream.connections

/-- The connections of a history are on record. -/
theorem Owning.mem_opened {calls : List Event} (h : Owning number calls world)
    (hc : c ∈ opened calls) : c ∈ opened world.trace :=
  (h.sublist.filterMap _).subset hc

/-- **Step lemma**: the connections of a stream stay its own. -/
theorem Turn.owning (h : Turn world step es r next) {calls : List Event}
    (grows : world.host.network.Extends es next.host.network) (sound : world.Sound)
    (owning : Owning number calls world) :
    Owning number (calls ++ if IsDeed number world step next then es else []) next := by
  obtain ⟨htrace, nodup⟩ := sound.extends grows
  have keeps : (∀ c ∈ opened calls, Untouched c es) →
      (∀ (j : Nat) (stream : ByteStream), j ≠ number → next.streams[j]? = some stream →
        ∀ c ∈ opened calls, c ∉ stream.connections) → Owning number calls next := by
    intro untouched others
    refine ⟨?_, fun c hc => ?_, others⟩
    · rw [htrace]
      exact owning.sublist.trans (List.sublist_append_left _ _)
    · rw [htrace, callsOn_append, callsOn_eq_nil_iff.2 (untouched c hc), List.append_nil]
      exact owning.callsOn_eq c hc
  rcases h.changes with ⟨attempt, streams, absent, -⟩ |
    ⟨n, before, ps, after, changes, target, -⟩
  · have other : ¬IsDeed number world step next := fun own => by
      have inside := List.getElem?_eq_none_iff.1 (absent number own.1)
      exact absurd own.2 (by rw [streams]; omega)
    rw [if_neg other, List.append_nil]
    refine keeps (fun c hc =>
      attempt.selfContained.1.untouched_old nodup (owning.mem_opened hc)) ?_
    rw [streams]
    exact owning.others
  · -- What the changed stream holds is what it held before or new.
    have others : ∀ (j : Nat) (stream : ByteStream), j ≠ number →
        next.streams[j]? = some stream → ∀ c ∈ opened calls, c ∉ stream.connections := by
      intro j stream hj has c hc held
      by_cases same : j = n
      · subst same
        obtain rfl := Option.some.inj (changes.here.symm.trans has)
        rcases changes.evolves.footprint.held c held with old | new
        · exact changes.not_held (fun before has => owning.others j before hj has c hc) old
        · exact not_mem_opened_of_nodup nodup new (owning.mem_opened hc)
      · rw [changes.elsewhere j same] at has
        exact owning.others j stream hj has c hc held
    by_cases here : n = number
    · subst here
      obtain ⟨inside, -⟩ := List.getElem?_eq_some_iff.1 changes.here
      rw [if_pos (show IsDeed n world step next from ⟨target, inside⟩)]
      refine ⟨?_, fun c hc => ?_, fun j stream hj has c hc held => ?_⟩
      · rw [htrace]
        exact owning.sublist.append (List.Sublist.refl es)
      · rw [htrace, callsOn_append, callsOn_append]
        rw [opened_append, List.mem_append] at hc
        rcases hc with old | new
        · rw [owning.callsOn_eq c old]
        · have fresh := sound.orderly.untouched (not_mem_opened_of_nodup nodup new)
          have unheard : Untouched c calls := fun e he => fresh e (owning.sublist.subset he)
          rw [callsOn_eq_nil_iff.2 fresh, callsOn_eq_nil_iff.2 unheard]
      · rw [opened_append, List.mem_append] at hc
        rcases hc with old | new
        · exact others j stream hj has c old held
        · rw [changes.elsewhere j hj] at has
          exact not_mem_opened_of_nodup nodup new
            ((sound.streams j stream has).connections_subset held)
    · rw [if_neg fun own => here (Option.some.inj (target.symm.trans own.1)), List.append_nil]
      refine keeps (fun c hc => ?_) others
      refine changes.evolves.footprint.untouched nodup (owning.mem_opened hc) ?_
      exact changes.not_held fun stream has => owning.others n stream here has c hc

/-- **Run lemma**: so they do in every run. -/
theorem owning_after (steps : List Step) {calls : List Event} (sound : world.Sound)
    (owning : Owning number calls world) :
    Owning number (calls ++ history number steps world) (after steps world) := by
  induction steps generalizing world calls with
  | nil => rwa [history, deeds, List.flatMap_nil, List.append_nil]
  | cons step later ih =>
    obtain ⟨es, grows, turn⟩ := step_turn step world
    have first : history number [step] world =
        if IsDeed number world step (World.step step world).2 then es else [] := by
      rw [history, deeds_singleton grows]
      split
      · exact List.flatMap_singleton ..
      · rfl
    have next := ih (sound_step step sound) (turn.owning grows sound owning)
    rw [← first, List.append_assoc] at next
    rwa [after_cons, show step :: later = [step] ++ later from rfl, history_append]

/-- The history of a stream has all calls on its connections, and no other stream holds one. -/
theorem owning_history {firstId : Int} {waiting : List Peer}
    (start : begin firstId waiting = .ok world) (number : Nat) (steps : List Step) :
    Owning number (history number steps world) (after steps world) := by
  have nothing : Owning number [] world :=
    ⟨List.nil_sublist _, fun _ h => absurd h List.not_mem_nil, fun _ _ _ _ _ h =>
      absurd h List.not_mem_nil⟩
  have own := owning_after steps (sound_begin start) nothing
  rwa [List.nil_append] at own

end World

end SessionStream
