import SessionStream.Proofs.Worlds

/-!
# Random access

A server holds data, and answers each read with consecutive bytes from the offset that was
announced. Then everything that a read or a window gives is a part of the data at the place where
the stream was, whatever was done and whatever failed before.

## Main definitions

- `Serves`, `ByteStream.Served` — the data connections of a stream deliver data

## Main results

- `Link.Moves.served` — payload that a stream moves is data at the position that it was moved at
- `World.random_access` — reads and windows are data
-/

namespace SessionStream

variable {data : Bytes} {control : ConnectionId} {es trace : List Event} {ps : List Placed}

/-- Every connection that was made for a read announced on `control` has delivered nothing but
consecutive bytes of the data, from the offset of that read on. How they were cut, and where they
stopped, does not matter. -/
def Serves (data : Bytes) (control : ConnectionId) (trace : List Event) : Prop :=
  ∀ c offset, transferOn control c trace = some (.read, offset) →
    received c trace <+: data.drop offset

/-- The data connections of a stream have served the data. -/
def ByteStream.Served (stream : ByteStream) (data : Bytes) (trace : List Event) : Prop :=
  ∀ control, stream.control = some control → Serves data control trace

/-- It is enough to look at the connections on record. -/
theorem serves_iff : Serves data control trace ↔ ∀ c ∈ opened trace,
    ∀ p ∈ transferOn control c trace, p.1 = .read → received c trace <+: data.drop p.2 := by
  constructor
  · rintro h c - ⟨direction, offset⟩ transfer rfl
    exact h c offset transfer
  · intro h c offset transfer
    exact h c (mem_opened_of_transferOn transfer) (.read, offset) transfer rfl

instance : Decidable (Serves data control trace) :=
  decidable_of_iff _ serves_iff.symm

instance (stream : ByteStream) : Decidable (stream.Served data trace) :=
  inferInstanceAs (Decidable (∀ control ∈ stream.control, Serves data control trace))

/-- What is served in the end has been served all the time. -/
theorem Serves.of_append (h : Serves data control (trace ++ es)) : Serves data control trace := by
  intro c offset transfer
  have made := mem_opened_of_transferOn transfer
  have served := h c offset (by rw [transferOn_append made, transfer])
  rw [received_append] at served
  exact (List.prefix_append _ _).trans served

/-- Bytes that follow others in the data are data behind them. -/
theorem prefix_drop_of_append {before bytes : Bytes} {offset : Nat}
    (h : before ++ bytes <+: data.drop offset) : bytes <+: data.drop (offset + before.length) := by
  obtain ⟨rest, hrest⟩ := h
  refine ⟨rest, ?_⟩
  rw [← List.drop_drop, ← hrest, List.append_assoc, List.drop_left]

/-- Payload that was moved piece after piece is data if its pieces are. -/
theorem Contiguous.flatMap_prefix {position : Nat} (h : Contiguous position ps)
    (pieces : ∀ p ∈ ps, p.2 <+: data.drop p.1) : ps.flatMap Prod.snd <+: data.drop position := by
  induction ps generalizing position with
  | nil => exact List.nil_prefix
  | cons p later ih =>
    obtain ⟨start, bytes⟩ := p
    obtain ⟨rfl, hlater⟩ := h
    obtain ⟨rest, hrest⟩ := pieces _ (List.mem_cons_self ..)
    have behind : rest = data.drop (start + bytes.length) := by
      dsimp only at hrest
      rw [← List.drop_drop, ← hrest, List.drop_left]
    have ih := ih hlater fun p hp => pieces p (List.mem_cons_of_mem _ hp)
    rw [List.flatMap_cons, ← hrest]
    refine (List.prefix_append_right_inj bytes).2 ?_
    rwa [behind]

namespace Link

variable {link after : Link}

/-- What is received from the data connection is data at the position. -/
theorem Move.served (h : Move link es ps after) (sound : link.Sound trace)
    (reads : link.session.direction = .read) (serves : Serves data link.control (trace ++ es)) :
    ∀ p ∈ ps, p.2 <+: data.drop p.1 := by
  intro p hp
  cases h with
  | stating => cases hp
  | connecting => cases hp
  | moving => cases hp
  | sending writes => rw [reads] at writes; cases writes
  | @receiving c limit result _ has =>
    cases result with
    | none => cases hp
    | some bytes =>
      obtain rfl := List.mem_singleton.1 hp
      obtain ⟨offset, carries⟩ := sound.carries c has
      have transfer := carries.transfer
      have oneWay := carries.oneWay
      rw [reads] at transfer oneWay
      have hpayload : payload c trace = [] := oneWay
      have served := serves c offset (by rw [transferOn_append carries.mem_opened, transfer])
      have hbytes : received c [.receiveInto c limit (some bytes)] = bytes := by
        simp
      rw [received_append, hbytes] at served
      have hposition := carries.position_eq
      rw [hpayload, List.length_nil, Nat.add_zero] at hposition
      rw [hposition]
      exact prefix_drop_of_append served

/-- Everything that a stream receives for the caller is data at the position of that moment. -/
theorem Moves.served (h : Moves link es ps after) (orderly : Orderly trace)
    (sound : link.Sound trace) (nodup : (opened (trace ++ es)).Nodup)
    (reads : link.session.direction = .read) (serves : Serves data link.control (trace ++ es)) :
    ∀ p ∈ ps, p.2 <+: data.drop p.1 := by
  induction h generalizing trace with
  | refl => exact nofun
  | @step link mid after es fs ps qs move _ ih =>
    rw [← List.append_assoc] at nodup serves
    obtain ⟨orderly', sound'⟩ := move.sound orderly sound (nodup_opened_left nodup)
    obtain ⟨hcontrol, hdirection⟩ := move.keeps
    intro p hp
    rcases List.mem_append.1 hp with hp | hp
    · exact move.served sound reads serves.of_append p hp
    · exact ih orderly' sound' nodup (hdirection.trans reads) (hcontrol ▸ serves) p hp

end Link

/-- Everything that a stream receives for the caller is data at the position of that moment. -/
theorem ByteStream.Evolves.served {stream after : ByteStream} (h : Evolves stream es ps after)
    (orderly : Orderly trace) (sound : stream.Sound trace)
    (nodup : (SessionStream.opened (trace ++ es)).Nodup) (reads : stream.direction = .read)
    (serves : stream.Served data (trace ++ es)) : ∀ p ∈ ps, p.2 <+: data.drop p.1 := by
  cases h with
  | moved moves => exact moves.served orderly (sound _ rfl) nodup reads (serves _ rfl)
  | still => exact nofun
  | unjoined => exact nofun
  | joined => exact nofun
  | released => exact nofun

namespace World

variable {world next : World} {number : Nat} {bytes : Bytes}

/-- The events of a step, and those of the steps behind it. -/
theorem step_within (sound : world.Sound) (s : Step) (later : List Step) :
    ∃ es fs, Turn world s es (World.step s world).1 (World.step s world).2 ∧
      (opened (world.trace ++ es)).Nodup ∧
      (after (s :: later) world).trace = world.trace ++ es ++ fs := by
  obtain ⟨es, grows, turn⟩ := step_turn s world
  obtain ⟨fs, hfs⟩ := trace_after later (World.step s world).2
  obtain ⟨hnext, nodup⟩ := sound.extends grows
  exact ⟨es, fs, turn, nodup, by rw [after_cons, hfs, hnext]⟩

/-- What a read gives is data at the position from before it. -/
theorem Turn.read_served {operation : ByteStream.Operation}
    (h : Turn world (.onStream number operation) es (.ok (.bytes bytes)) next)
    (sound : world.Sound) (nodup : (opened (world.trace ++ es)).Nodup) (data : Bytes) :
    ∃ stream, world.streams[number]? = some stream ∧
      (stream.Served data (world.trace ++ es) → bytes <+: data.drop stream.position) := by
  cases h with
  | added plain => cases plain
  | aside plain => cases plain
  | @onStream _ _ _ _ stream stream' _ has performs streams =>
    refine ⟨stream, has, fun serves => ?_⟩
    obtain ⟨ps, evolves, accounts⟩ := performs.evolves
    rcases accounts.read bytes rfl with rfl | hps
    · exact List.nil_prefix
    have reads : stream.direction = .read := by
      cases hdirection : stream.direction with
      | read => rfl
      | write =>
        have none := accounts.written hdirection
        rw [hps] at none
        cases operation <;> cases none
    exact evolves.served sound.orderly (sound.streams number stream has) nodup reads serves
      (stream.position, bytes) (hps ▸ List.mem_singleton.2 rfl)

/-- A window is data from its start on. -/
theorem Turn.window_served {first length : Int}
    (h : Turn world (.onReader number (.fetch first length)) es (.ok (.bytes bytes)) next)
    (sound : world.Sound) (nodup : (opened (world.trace ++ es)).Nodup) (data : Bytes) :
    ∃ reader stream, world.readers[number]? = some reader ∧
      world.streams[reader.stream]? = some stream ∧
      (stream.Served data (world.trace ++ es) → 0 ≤ first ∧ 0 < length ∧
        bytes.length = length.toNat ∧ bytes <+: data.drop first.toNat) := by
  cases h with
  | added plain => cases plain
  | aside plain => cases plain
  | @onReader _ _ _ _ reader stream stream' _ reads has performs streams =>
    refine ⟨reader, stream, reads, has, fun serves => ?_⟩
    obtain ⟨ps, evolves, writes, gives⟩ := performs.evolves
    obtain ⟨nonneg, positive, hbytes, hlength, pieces⟩ := gives first length bytes rfl rfl
    have reads : stream.direction = .read := by
      cases hdirection : stream.direction with
      | read => rfl
      | write =>
        rw [writes hdirection] at hbytes
        rw [hbytes] at hlength
        simp only [List.flatMap_nil, List.length_nil] at hlength
        omega
    have served := evolves.served sound.orderly (sound.streams _ stream has) nodup reads serves
    refine ⟨nonneg, positive, hlength, ?_⟩
    rw [hbytes]
    exact pieces.flatMap_prefix served

/-- **Random access.** In every run, take a step that gives bytes. If the data connections of its
stream serve `data` until the end of the run, then the bytes are those of `data` at the position
that the stream had before the step, and a window is exactly the part of `data` that was asked
for. -/
theorem random_access {firstId : Int} {waiting : List Peer} {world : World}
    (start : begin firstId waiting = .ok world) (before later : List Step) (data bytes : Bytes) :
    (∀ number operation,
      (step (.onStream number operation) (after before world)).1 = .ok (.bytes bytes) →
      ∃ stream, (after before world).streams[number]? = some stream ∧
        (stream.Served data (after (before ++ .onStream number operation :: later) world).trace →
          bytes = (data.drop stream.position).take bytes.length)) ∧
    (∀ number first length,
      (step (.onReader number (.fetch first length)) (after before world)).1 = .ok (.bytes bytes) →
      ∃ reader stream, (after before world).readers[number]? = some reader ∧
        (after before world).streams[reader.stream]? = some stream ∧
        (stream.Served data
            (after (before ++ .onReader number (.fetch first length) :: later) world).trace →
          0 ≤ first ∧ 0 < length ∧ bytes = (data.drop first.toNat).take length.toNat ∧
            bytes.length = length.toNat)) := by
  have sound := sound_after before (sound_begin start)
  constructor
  · intro number operation answer
    obtain ⟨es, fs, turn, nodup, htrace⟩ := step_within sound (.onStream number operation) later
    rw [answer] at turn
    obtain ⟨stream, has, served⟩ := turn.read_served sound nodup data
    refine ⟨stream, has, fun serves => ?_⟩
    rw [after_append, htrace] at serves
    have window := served fun control hcontrol => (serves control hcontrol).of_append
    exact List.prefix_iff_eq_take.1 window
  · intro number first length answer
    obtain ⟨es, fs, turn, nodup, htrace⟩ :=
      step_within sound (.onReader number (.fetch first length)) later
    rw [answer] at turn
    obtain ⟨reader, stream, reads, has, served⟩ := turn.window_served sound nodup data
    refine ⟨reader, stream, reads, has, fun serves => ?_⟩
    rw [after_append, htrace] at serves
    obtain ⟨nonneg, positive, hlength, window⟩ := served fun control hcontrol =>
      (serves control hcontrol).of_append
    refine ⟨nonneg, positive, ?_, hlength⟩
    rw [← hlength]
    exact List.prefix_iff_eq_take.1 window

/-- A window from the middle of six letters. -/
theorem random_access_window :
    let settings : Settings := { target := "/run/letters", route := ⟨.direct, .given⟩ }
    let waiting : List Peer := [{ incoming := [.bytes (utf8 "ok\n")] },
      { incoming := [.bytes (utf8 "cd"), .bytes (utf8 "ef")] }]
    let world : World := { host := { network := { waiting } } }
    (step (.onReader 0 (.fetch 2 3)) (after [.startReader settings] world)).1 =
      .ok (.bytes (utf8 "cde")) ∧
    utf8 "cde" = ((utf8 "abcdef").drop 2).take 3 := by
  intro settings waiting world
  have answer : (step (.onReader 0 (.fetch 2 3)) (after [.startReader settings] world)).1 =
      .ok (.bytes (utf8 "cde")) := by decide +kernel
  have served : ∀ stream ∈ (after [.startReader settings] world).streams,
      stream.Served (utf8 "abcdef")
        (after ([.startReader settings] ++ [.onReader 0 (.fetch 2 3)]) world).trace := by
    decide +kernel
  refine ⟨answer, ?_⟩
  have start : begin 1 waiting = .ok world := rfl
  obtain ⟨_, stream, -, hstream, window⟩ := (random_access start
    [.startReader settings] [] (utf8 "abcdef") (utf8 "cde")).2 0 2 3 answer
  exact (window (served stream (List.mem_of_getElem? hstream))).2.2.1

end World

end SessionStream
