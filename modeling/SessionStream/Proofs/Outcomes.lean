import SessionStream.Proofs.Phases
import SessionStream.Proofs.WillingPeers

/-!
# Steps, worked out

What a step of a world gives and leaves behind, from the outcome of the action behind it. A step on
an open stream is an action on its link, and a step on a reader is an action on the stream under it
and on its tally; everything else in the world stays as it is.

## Main results

- `Act.outcome_answer`, `Act.outcome_discard_bind` — an action whose value is turned into an answer,
  or does not matter
- `World.step_performing`, `World.step_of_notOpen` — a step on any stream
- `World.step_onOpen` — a step on an open stream
- `World.step_onReader` — a step on a reader
-/

namespace SessionStream

/-- What an action gives is turned into an answer. -/
theorem Act.outcome_answer {σ α β : Type} (act : Act σ α) (f : α → β) (s : σ) :
    Act.outcome (do pure (f (← act))) s = ((Act.outcome act s).1.map f, (Act.outcome act s).2) := by
  rw [Act.outcome_bind]
  rcases Act.outcome act s with ⟨e | a, t⟩ <;> rfl

/-- An action whose value does not matter, before another one. -/
theorem Act.outcome_discard_bind {σ α β : Type} (act : Act σ α) (f : Unit → Act σ β) (s : σ) :
    Act.outcome (discard act >>= f) s = match Act.outcome act s with
      | (.ok _, t) => Act.outcome (f ()) t
      | (.error e, t) => (.error e, t) := by
  have discarded : Act.outcome (discard act) s =
      ((Act.outcome act s).1.map fun _ => (), (Act.outcome act s).2) := by
    change Act.outcome (EStateM.map (fun _ => ()) act) s = _
    unfold Act.outcome EStateM.map
    cases act s <;> rfl
  rw [Act.outcome_bind, discarded]
  rcases Act.outcome act s with ⟨e | a, t⟩ <;> rfl

namespace World

variable {world : World} {number : Nat} {stream : ByteStream}

/-- An operation on a stream that is there, with the events it adds to the record. -/
theorem step_performing (has : world.streams[number]? = some stream)
    (operation : ByteStream.Operation) :
    ∃ es stream', (World.step (.onStream number operation) world).2.trace = world.trace ++ es ∧
      (World.step (.onStream number operation) world).2.streams[number]? = some stream' ∧
      ByteStream.Performing operation stream es (World.step (.onStream number operation) world).1
        stream' := by
  obtain ⟨es, grows, turn⟩ := step_turn (.onStream number operation) world
  obtain ⟨stream', performs, here⟩ := turn.performs has
  exact ⟨es, stream', grows.trace_eq, here, performs⟩

/-- An operation that only an open stream has, on one that is not open. -/
theorem step_of_notOpen (has : world.streams[number]? = some stream)
    {operation : ByteStream.Operation} (needs : operation.NeedsOpen stream.settings.memory)
    (notOpen : stream.phase ≠ .opened) :
    World.step (.onStream number operation) world = (.error (.notOpen stream.phase), world) :=
  step_onStream_of_idle has (ByteStream.outcome_perform needs notOpen _)

/-- A step on an open stream is an action on its link. -/
theorem step_onOpen {α : Type} {link : Link} (has : world.streams[number]? = some (.opened link))
    {operation : ByteStream.Operation} {act : Act (Held Link) α} {f : α → Answer}
    (performs : ByteStream.perform operation = do pure (f (← ByteStream.whileOpen act))) :
    World.step (.onStream number operation) world =
      ((Act.outcome act ⟨link, world.host⟩).1.map f, { world with
        streams := world.streams.set number (.opened (Act.outcome act ⟨link, world.host⟩).2.own)
        host := (Act.outcome act ⟨link, world.host⟩).2.host }) := by
  have ended : Act.outcome (ByteStream.perform operation) ⟨.opened link, world.host⟩ =
      ((Act.outcome act ⟨link, world.host⟩).1.map f,
        ⟨.opened (Act.outcome act ⟨link, world.host⟩).2.own,
          (Act.outcome act ⟨link, world.host⟩).2.host⟩) := by
    rw [performs, Act.outcome_answer, ByteStream.outcome_whileOpen_opened]
  exact step_onStream has ended

/-- An operation of a reader that is there, as a step. -/
theorem step_onReader {reader : Attached}
    (reads : world.readers[number]? = some reader)
    (has : world.streams[reader.stream]? = some stream) {operation : WindowReader.Operation}
    {r : Except Failure Answer} {held : Held WindowReader}
    (ended : Act.outcome (WindowReader.perform operation)
      ⟨⟨stream, reader.tally⟩, world.host⟩ = (r, held)) :
    World.step (.onReader number operation) world = (r, { world with
      streams := world.streams.set reader.stream held.own.stream
      readers := world.readers.set number { reader with tally := held.own.tally }
      host := held.host }) := by
  rw [step_eq]
  change Act.outcome (entry world.readers number >>= _) world = _
  unfold entry
  rw [reads]
  change Act.outcome (entry world.streams reader.stream >>= _) world = _
  unfold entry
  rw [has]
  change Act.outcome (Act.zoom _ _ _) world = _
  rw [Act.outcome_zoom, ended]

end World

end SessionStream
