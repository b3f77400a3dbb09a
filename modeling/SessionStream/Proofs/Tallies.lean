import Mathlib.Algebra.GroupWithZero.Nat
import SessionStream.Proofs.Outcomes

/-!
# The tallies of readers

A reader counts every window that it is asked for, also those that are refused, and the bytes of
those that it serves. Nothing else that happens in a world touches its tally, so after any run it
is told by the answers that the reader gave in that run.

## Main definitions

- `World.asked` — what came of the windows that a reader was asked for in a run
- `Tally.afterAll` — a tally after windows with these answers

## Main results

- `World.readers_prefix` — a step that is on no reader keeps the readers
- `World.tally_step`, `World.tally_after` — the tally of a reader, after one step and after a run
-/

namespace SessionStream

/-- How many bytes an answer gives. -/
def bytesGiven : Except Failure Answer → Nat
  | .ok (.bytes window) => window.length
  | _ => 0

/-- A tally after windows with these answers. -/
def Tally.afterAll (tally : Tally) (answers : List (Except Failure Answer)) : Tally where
  bytesFetched := tally.bytesFetched + (answers.map bytesGiven).sum
  requestsMade := tally.requestsMade + answers.length

@[simp] theorem Tally.afterAll_nil (tally : Tally) : tally.afterAll [] = tally := rfl

theorem Tally.afterAll_append (tally : Tally) (xs ys : List (Except Failure Answer)) :
    tally.afterAll (xs ++ ys) = (tally.afterAll xs).afterAll ys := by
  simp only [afterAll, List.map_append, List.sum_append, List.length_append, Nat.add_assoc]

/-- One window is what came of it. -/
theorem Tally.after_eq_afterAll (tally : Tally) (r : Except Failure Bytes) :
    WindowReader.Tally.after tally r = tally.afterAll [r.map .bytes] := by
  cases r <;> rfl

/-- Whether an operation asks for a window. -/
def WindowReader.Operation.asks : WindowReader.Operation → Bool
  | .fetch .. => true
  | _ => false

/-- Whether a step asks a reader for a window. -/
def Step.asks (number : Nat) : Step → Bool
  | .onReader n operation => n = number && operation.asks
  | _ => false

namespace World

/-- What came of the windows that a reader was asked for in a run. -/
def asked (number : Nat) : List Step → World → List (Except Failure Answer)
  | [], _ => []
  | step :: later, world =>
    (if step.asks number then [(World.step step world).1] else []) ++
      asked number later (World.step step world).2

-- ════════════════════════════════════════════════════════════════════════
-- Steps that are on no reader
-- ════════════════════════════════════════════════════════════════════════

/-- An action that keeps the readers that are there. -/
def KeepsReaders {α : Type} (act : Act World α) : Prop :=
  ∀ world, world.readers <+: (Act.outcome act world).2.readers

namespace KeepsReaders

variable {α β : Type} {act : Act World α}

theorem pure (a : α) : KeepsReaders (Pure.pure a) :=
  fun _ => List.prefix_rfl

theorem throw (e : Failure) : KeepsReaders (MonadExcept.throw e : Act World α) :=
  fun _ => List.prefix_rfl

theorem get : KeepsReaders (MonadState.get : Act World World) :=
  fun _ => List.prefix_rfl

theorem bind {f : α → Act World β} (h : KeepsReaders act) (later : ∀ a, KeepsReaders (f a)) :
    KeepsReaders (act >>= f) := by
  intro world
  rw [Act.outcome_bind]
  rcases outcome : Act.outcome act world with ⟨e | a, next⟩
  all_goals
    have first := h world
    rw [outcome] at first
  · exact first
  · exact first.trans (later a next)

theorem ofExcept (r : Except Failure α) : KeepsReaders (Act.ofExcept r) := by
  cases r with
  | ok a => exact pure a
  | error e => exact throw e

theorem entry (entries : List α) (number : Nat) : KeepsReaders (entry entries number) := by
  unfold World.entry
  cases entries[number]? with
  | some a => exact pure a
  | none => exact throw _

/-- An action on a part of the world that is no reader. -/
theorem zoom {τ : Type} {part : World → τ} {put : τ → World → World} {inner : Act τ α}
    (aside : ∀ t world, (put t world).readers = world.readers) :
    KeepsReaders (Act.zoom part put inner) := by
  intro world
  have same : (Act.outcome (Act.zoom part put inner) world).2.readers = world.readers := by
    rw [Act.outcome_zoom]
    exact aside _ world
  exact same.symm ▸ List.prefix_rfl

theorem onSession (number : Nat) (inner : Act (Held Session) α) :
    KeepsReaders (onSession number inner) :=
  get.bind fun _ => (entry _ _).bind fun _ => zoom fun _ _ => rfl

theorem onStream (number : Nat) (inner : Act (Held ByteStream) α) :
    KeepsReaders (onStream number inner) :=
  get.bind fun _ => (entry _ _).bind fun _ => zoom fun _ _ => rfl

theorem onHost (inner : Act Host α) : KeepsReaders (onHost inner) :=
  zoom fun _ _ => rfl

theorem addStream (stream : ByteStream) : KeepsReaders (addStream stream) :=
  fun _ => List.prefix_rfl

theorem addReader (stream : Nat) : KeepsReaders (addReader stream) :=
  fun _ => List.prefix_append ..

theorem openNew (settings : Settings) (mode : String) : KeepsReaders (openNew settings mode) :=
  (ofExcept _).bind fun _ => zoom fun _ _ => rfl

end KeepsReaders

/-- A step that is on no reader keeps the readers that are there. -/
theorem readers_prefix {step : Step} (aside : ∀ n operation, step ≠ .onReader n operation)
    (world : World) :
    world.readers <+: (World.step step world).2.readers := by
  rw [step_eq]
  revert world
  change KeepsReaders (perform step)
  cases step with
  | onStream => exact KeepsReaders.onStream _ _
  | onReader => exact absurd rfl (aside _ _)
  | create =>
    exact (KeepsReaders.ofExcept _).bind fun _ => (KeepsReaders.addStream _).bind fun _ => .pure _
  | start =>
    exact (KeepsReaders.openNew _ _).bind fun _ => (KeepsReaders.addStream _).bind fun _ => .pure _
  | startReader =>
    exact (KeepsReaders.openNew _ _).bind fun _ => (KeepsReaders.addStream _).bind fun _ =>
      (KeepsReaders.addReader _).bind fun _ => .pure _
  | attach =>
    refine KeepsReaders.get.bind fun _ => (KeepsReaders.entry _ _).bind fun _ => ?_
    refine KeepsReaders.bind ?_ fun _ => (KeepsReaders.addReader _).bind fun _ => .pure _
    exact (KeepsReaders.ofExcept _).bind fun _ => .pure _
  | newSession => exact fun _ => List.prefix_rfl
  | join => exact (KeepsReaders.onSession _ _).bind fun _ => .pure _
  | nextId => exact (KeepsReaders.onHost _).bind fun _ => .pure _
  | lastId => exact fun _ => List.prefix_rfl
  | enqueue => exact fun _ => List.prefix_rfl
  | feed =>
    refine KeepsReaders.get.bind fun _ => KeepsReaders.bind ?_ fun _ => ?_
    · exact (KeepsReaders.entry _ _).bind fun _ => .pure _
    · exact fun _ => List.prefix_rfl

-- ════════════════════════════════════════════════════════════════════════
-- Tallies
-- ════════════════════════════════════════════════════════════════════════

variable {world : World} {number : Nat} {reader : Attached} {stream : ByteStream}

/-- The tally behind an operation of a reader. -/
theorem perform_tally (operation : WindowReader.Operation) (held : Held WindowReader) :
    Act.Does (WindowReader.perform operation) held fun r _ after =>
      after.own.tally = held.own.tally.afterAll (if operation.asks then [r] else []) := by
  cases operation with
  | fetch start length =>
    exact WindowReader.answer_does ((WindowReader.fetch_does held start length).mono
      fun r _ _ h => h.2.trans (Tally.after_eq_afterAll _ r))
  | size => exact WindowReader.answer_does ((WindowReader.size_does held).mono fun _ _ _ h => h.2)
  | close => exact WindowReader.answer_does ((WindowReader.close_does held).mono fun _ _ _ h => h.2)

/-- The tally of a reader behind an operation of it or of another one. -/
theorem onReader_tally (n : Nat) (operation : WindowReader.Operation)
    (reads : world.readers[number]? = some reader)
    (has : world.streams[reader.stream]? = some stream) :
    Act.Does (perform (.onReader n operation)) world fun r _ next =>
      next.readers[number]? = some { reader with
        tally := reader.tally.afterAll
          (if Step.asks number (.onReader n operation) then [r] else []) } := by
  obtain ⟨inside, -⟩ := List.getElem?_eq_some_iff.1 reads
  refine onReader_does (fun missing => ?_) fun reader' stream' reads' _ => ?_
  · have other : n ≠ number := by
      rintro rfl
      rw [missing reader reads] at has
      cases has
    simp [Step.asks, other, reads]
  · refine (perform_tally operation _).mono fun r _ held h => ?_
    dsimp only
    by_cases same : n = number
    · subst same
      obtain rfl := Option.some.inj (reads.symm.trans reads')
      rw [List.getElem?_set_self inside, h]
      simp [Step.asks]
    · rw [List.getElem?_set_ne same, reads]
      simp [Step.asks, same]

/-- **Step lemma**: the tally of a reader behind a step. -/
theorem tally_step (step : Step) (reads : world.readers[number]? = some reader)
    (has : world.streams[reader.stream]? = some stream) :
    (World.step step world).2.readers[number]? = some { reader with
      tally := reader.tally.afterAll
        (if step.asks number then [(World.step step world).1] else []) } := by
  by_cases aside : ∀ n operation, step ≠ .onReader n operation
  · have other : step.asks number = false := by
      cases step with
      | onReader => exact absurd rfl (aside _ _)
      | _ => rfl
    obtain ⟨inside, -⟩ := List.getElem?_eq_some_iff.1 reads
    obtain ⟨added, grows⟩ := readers_prefix aside world
    rw [if_neg (Bool.eq_false_iff.1 other), Tally.afterAll_nil, ← grows,
      List.getElem?_append_left inside, reads]
  · push Not at aside
    obtain ⟨n, operation, rfl⟩ := aside
    obtain ⟨es, -, kept⟩ := step_of_does (onReader_tally n operation reads has)
    exact kept

/-- **Run lemma**: the tally of a reader behind a run. -/
theorem tally_after (steps : List Step) (reads : world.readers[number]? = some reader)
    (has : world.streams[reader.stream]? = some stream) :
    (after steps world).readers[number]? =
      some { reader with tally := reader.tally.afterAll (asked number steps world) } := by
  induction steps generalizing world reader stream with
  | nil => exact reads
  | cons step later ih =>
    obtain ⟨stream', has', -⟩ := phase_of_step step has
    rw [asked, Tally.afterAll_append, after_cons]
    exact ih (tally_step step reads has) has'

end World

end SessionStream
