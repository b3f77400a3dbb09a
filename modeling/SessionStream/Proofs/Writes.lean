import SessionStream.Proofs.Lifetime
import SessionStream.Proofs.ServerImage

/-!
# Writes land where the position says

The caller of a stream sees what each write says was written, and where the stream was before it.
The server sees connections, each with an offset and a payload. In every world that a run leads to,
both views lead to the same bytes: however short the sends were, whatever failed between them, and
whatever other streams did.

## Main definitions

- `World.writes` — what the answers to all writes of a stream say was written

## Main results

- `World.Turn.image`, `World.image_after` — one step and every run store what was written
- `World.server_image` — the image of the server is the image of the writes
-/

namespace SessionStream

namespace World

/-- What the answers to all steps say was written by a stream, in the order of the steps. -/
def writes (number : Nat) : List Step → World → List Placed
  | [], _ => []
  | step :: later, world =>
    written number world step (World.step step world).1 ++
      writes number later (World.step step world).2

theorem writes_append (number : Nat) (before later : List Step) (world : World) :
    writes number (before ++ later) world =
      writes number before world ++ writes number later (after before world) := by
  induction before generalizing world with
  | nil => rfl
  | cons step before ih =>
    rw [List.cons_append, writes, writes, after_cons, ih, List.append_assoc]

/-- A stream has not been opened. -/
def Unborn (number : Nat) (world : World) : Prop :=
  ∀ stream, world.streams[number]? = some stream → stream.phase = .unopened

variable {world next : World} {number : Nat} {k : ConnectionId} {direction : Direction}
  {step : Step} {es : List Event} {r : Except Failure Answer}

theorem unborn_begin {firstId : Int} {waiting : List Peer}
    (start : begin firstId waiting = .ok world) (number : Nat) : Unborn number world := by
  unfold begin at start
  cases hids : SessionIds.startingAt firstId with
  | error e => rw [hids] at start; cases start
  | ok ids =>
    rw [hids] at start
    cases start
    intro stream has
    cases has

/-- **Step lemma**: a step stores exactly what its answer says was written. -/
theorem Turn.image (h : Turn world step es r next)
    (grows : world.host.network.Extends es next.host.network) (sound : world.Sound)
    (lasting : Lasting number k .write world) :
    serverImage k next.trace =
      storeAll (serverImage k world.trace) (written number world step r) := by
  obtain ⟨htrace, nodup⟩ := sound.extends grows
  obtain ⟨-, follows⟩ := h.lasting grows sound lasting
  rw [htrace]
  cases follows with
  | here has control directed evolves _ written =>
    subst control
    rw [written, if_pos rfl]
    exact evolves.image sound.orderly (sound.streams number _ has _ rfl) nodup directed
  | elsewhere away written =>
    rw [written]
    exact serverImage_of_untouched nodup (sound.orderly.settled k) away.control away.data

/-- **Step lemma**: a step writes nothing to a stream that has not been opened. If it opens the
stream, nothing has been stored for the new control connection. -/
theorem Turn.unborn (h : Turn world step es r next)
    (grows : world.host.network.Extends es next.host.network) (sound : world.Sound)
    (unborn : Unborn number world) :
    written number world step r = [] ∧ (Unborn number next ∨
      ∃ k stream, next.streams[number]? = some stream ∧ stream.control = some k ∧
        Lasting number k stream.direction next ∧ serverImage k next.trace = []) := by
  obtain ⟨htrace, nodup⟩ := sound.extends grows
  rcases h.changes with ⟨-, streams, -, silent⟩ |
    ⟨n, before, ps, after, changes, -, moved⟩
  · refine ⟨silent number, .inl ?_⟩
    unfold Unborn
    rw [streams]
    exact unborn
  · by_cases here : n = number
    · subst here
      have unopened : before.phase = .unopened :=
        changes.before_eq.elim (unborn before) And.right
      have keeps : after.phase = .unopened → Unborn n next := by
        intro hafter stream has
        rw [changes.here, Option.some.injEq] at has
        exact has ▸ hafter
      obtain ⟨evolves, hnext⟩ := And.intro changes.evolves changes.here
      cases evolves with
      | still => exact ⟨by rw [moved, ite_self], .inl (keeps unopened)⟩
      | unjoined => exact ⟨by rw [moved, ite_self], .inl (keeps rfl)⟩
      | @joined settings session session' address _ control join =>
        refine ⟨by rw [moved, ite_self], .inr ⟨control, _, hnext, rfl, ?_, ?_⟩⟩
        · exact (h.sound grows sound).lasting hnext rfl
        · rw [htrace]
          exact ByteStream.serverImage_of_joining join sound.orderly nodup
      | moved => cases unopened
      | released => cases unopened
    · refine ⟨by rw [moved, if_neg fun both => here both.1], .inl fun stream has => ?_⟩
      rw [changes.elsewhere number (Ne.symm here)] at has
      exact unborn stream has

/-- **Run lemma**: from the moment on when the stream was opened, a run stores exactly what the
answers to its steps say was written. -/
theorem image_after (steps : List Step) (sound : world.Sound)
    (lasting : Lasting number k .write world) :
    serverImage k (after steps world).trace =
      storeAll (serverImage k world.trace) (writes number steps world) := by
  induction steps generalizing world with
  | nil => rfl
  | cons step later ih =>
    obtain ⟨es, grows, turn⟩ := step_turn step world
    rw [after_cons, ih (sound_step step sound) (turn.lasting grows sound lasting).1,
      turn.image grows sound lasting, writes, storeAll_append]

/-- A run either never opens the stream, and then it writes nothing, or opens it once. -/
theorem unborn_after (steps : List Step) (sound : world.Sound) (unborn : Unborn number world) :
    (Unborn number (after steps world) ∧ writes number steps world = []) ∨
    ∃ k direction, Lasting number k direction (after steps world) ∧
      (direction = .write → serverImage k (after steps world).trace =
        storeAll [] (writes number steps world)) ∧
      ∃ before later stream, steps = before ++ later ∧
        (after before world).streams[number]? = some stream ∧ stream.control = some k := by
  induction steps generalizing world with
  | nil => exact .inl ⟨unborn, rfl⟩
  | cons step later ih =>
    obtain ⟨es, grows, turn⟩ := step_turn step world
    obtain ⟨nothing, unborn' | ⟨k, stream, has, hk, lasting, empty⟩⟩ :=
      turn.unborn grows sound unborn
    · rcases ih (sound_step step sound) unborn' with ⟨still, silent⟩ |
        ⟨k, direction, lasting, stores, before, rest, stream, rfl, has, hk⟩
      · exact .inl ⟨still, by rw [writes, nothing, silent, List.append_nil]⟩
      · refine .inr ⟨k, direction, lasting, fun write => ?_, step :: before, rest, stream, rfl, has,
          hk⟩
        rw [writes, nothing, List.nil_append]
        exact stores write
    · have sound' := sound_step step sound
      refine .inr ⟨k, stream.direction, lasting_after later sound' lasting, fun write => ?_, [step],
        later, stream, rfl, has, hk⟩
      rw [writes, nothing, List.nil_append, ← empty]
      rw [write] at lasting
      exact image_after later sound' lasting

/-- **Writes.** In every world that a run leads to, for every stream that writes and the control
connection that it has or had: the payload of its data connections, each stored from the offset that
was announced for it, makes the same image as what the answers to its writes say was written, each
stored at the position that the stream had before the write. A stream that never had a control
connection has written nothing. -/
theorem server_image {firstId : Int} {waiting : List Peer} {world : World}
    (start : begin firstId waiting = .ok world) (steps : List Step) (number : Nat) :
    (∀ before later stream control, steps = before ++ later →
      (after before world).streams[number]? = some stream → stream.direction = .write →
      stream.control = some control →
      serverImage control (after steps world).trace = storeAll [] (writes number steps world)) ∧
    ((∀ before later stream, steps = before ++ later →
      (after before world).streams[number]? = some stream → stream.control = none) →
      writes number steps world = []) := by
  have sound := sound_begin start
  have unborn : Unborn number world := unborn_begin start number
  constructor
  · rintro before later stream control rfl has write hcontrol
    rcases unborn_after before sound unborn with ⟨still, -⟩ | ⟨k, direction, lasting, stores, -⟩
    · have unopened := still stream has
      cases stream with
      | unopened => cases hcontrol
      | opened => cases unopened
      | closed => cases hcontrol
    · obtain ⟨stream', has', hdirection, held⟩ := lasting.has
      obtain rfl : stream = stream' := Option.some.inj (has.symm.trans has')
      have same : control = k := by
        rcases held with held | closed
        · exact Option.some.inj (hcontrol.symm.trans held)
        · cases stream with
          | unopened => cases closed
          | opened => cases closed
          | closed => cases hcontrol
      subst same
      obtain rfl : direction = .write := hdirection.symm.trans write
      rw [after_append, image_after later (sound_after before sound) lasting, stores rfl,
        writes_append, storeAll_append]
  · intro never
    rcases unborn_after steps sound unborn with ⟨-, silent⟩ |
      ⟨k, -, -, -, before, later, stream, hsteps, has, hk⟩
    · exact silent
    · rw [never before later stream hsteps has] at hk
      cases hk

/-- Two letters of four, the other two, and two more behind a gap. -/
theorem server_image_letters :
    let settings : Settings := { target := "/run/letters", route := ⟨.direct, .given⟩ }
    let waiting : List Peer := [{ incoming := [.bytes (utf8 "ok\nok\n")] },
      { acceptances := [.upTo 14, .upTo 2] }, {}]
    let steps : List Step := [.start settings "w", .onStream 0 (.write (utf8 "abcd")),
      .onStream 0 (.write (utf8 "cd")), .onStream 0 (.seek 6 0),
      .onStream 0 (.write (utf8 "xy"))]
    let world : World := { host := { network := { waiting } } }
    writes 0 steps world = [(0, utf8 "ab"), (2, utf8 "cd"), (6, utf8 "xy")] ∧
      serverImage ⟨0⟩ (after steps world).trace = utf8 "abcd" ++ [0, 0] ++ utf8 "xy" := by
  intro settings waiting steps world
  have start : begin 1 waiting = .ok world := rfl
  have there : (after [.start settings "w"] world).streams[0]?.isSome = true := by decide +kernel
  have facts : ∀ stream ∈ (after [.start settings "w"] world).streams,
      stream.control = some ⟨0⟩ ∧ stream.direction = .write := by decide +kernel
  have written : writes 0 steps world = [(0, utf8 "ab"), (2, utf8 "cd"), (6, utf8 "xy")] := by
    decide +kernel
  obtain ⟨stream, has⟩ := Option.isSome_iff_exists.1 there
  obtain ⟨hcontrol, hdirection⟩ := facts stream (List.mem_of_getElem? has)
  have image := (server_image start steps 0).1 _ _ stream _ rfl has hdirection hcontrol
  refine ⟨written, ?_⟩
  rw [image, written]
  decide +kernel

end World

end SessionStream
