import SessionStream.Proofs.Worlds

/-!
# Where a stream is

The position of a stream says where the next byte of payload belongs. The record says it too: the
last transfer that was announced names an offset, and the data connection shows how much has moved
since. In every world that a run leads to the two agree, and the data connection is the one that was
made for that transfer.

## Main results

- `World.position_eq_offset_add_moved` — the position against the record
-/

namespace SessionStream

variable {control c : ConnectionId} {trace : List Event}

/-- The exchanges behind the last transfer are queries for the size. -/
theorem Conversing.stat_of_transfer? {session : Session} {outOfStep : Option Failure}
    {xs newer older : List Exchange} {x : Exchange}
    (h : Conversing control session outOfStep trace xs)
    (hdialogue : dialogue control trace = newer ++ x :: older)
    (hnewer : ∀ y ∈ newer, y.transfer? = none) : ∀ y ∈ newer, y.line = Command.stat.line := by
  obtain ⟨first, -, hfirst⟩ := h.dialogue_eq
  have hxs : newer ++ (x :: older).dropLast = xs := by
    rw [← List.dropLast_append_of_ne_nil (List.cons_ne_nil _ _), ← hdialogue, hfirst]
    exact List.dropLast_concat
  intro y hy
  have fits := h.fits y (hxs ▸ List.mem_append_left _ hy)
  rcases fits.command with stat | ⟨offset, transfer⟩
  · exact stat
  · have announced := Exchange.transfer?_transfer transfer
    rw [hnewer y hy] at announced
    cases announced

/-- The exchange behind an admission was sent whole and answered with the admission alone. -/
theorem sent_and_heard_of_admission? {p : Direction × Nat} {x : Exchange} {older : List Exchange}
    (h : admission? control trace = some p) (hdialogue : dialogue control trace = x :: older) :
    x.Sent ∧ x.heard = utf8 Reply.admission ++ [Reply.lineEnd] ∧
      ∃ limit result, trace.getLast? = some (.receive control limit result) := by
  unfold admission? at h
  split at h
  · next c limit result last =>
    split at h
    · next same =>
      rw [hdialogue] at h
      have admitted : x.admitted? = some p := h
      unfold Exchange.admitted? at admitted
      split at admitted
      · next both => exact ⟨both.1, both.2, limit, result, same ▸ last⟩
      · cases admitted
    · cases h
  · cases h

namespace World

/-- **Position.** In every world that a run leads to, the position of a stream is not negative. If
the stream holds a data connection `c`, then the last transfer line on its control connection is its
direction with some offset, and was sent whole. The reply was the admission and no more, the call
that followed its last byte made `c`, and `c` was bound to the session by its id. The position is
the offset and the bytes that have been received from `c` for the caller or accepted on `c` behind
its first line. -/
theorem position_eq_offset_add_moved {firstId : Int} {waiting : List Peer} {world : World}
    (start : begin firstId waiting = .ok world) (steps : List Step) {number : Nat}
    {stream : ByteStream} (has : (after steps world).streams[number]? = some stream) :
    0 ≤ (stream.position : Int) ∧ ∀ c, stream.data = some c →
      ∃ control, stream.control = some control ∧ ∃ (offset : Nat) (id : Int),
        (∃ newer x older, dialogue control (after steps world).trace = newer ++ x :: older ∧
          (∀ y ∈ newer, y.line = Command.stat.line) ∧
          x.line = (Command.transfer stream.direction offset).line ∧ x.Sent ∧
          x.heard = utf8 "ok" ++ [Reply.lineEnd] ∧
          dialogue control (beforeOpening c (after steps world).trace) = x :: older) ∧
        c ∈ opened (after steps world).trace ∧
        (∃ limit result, (beforeOpening c (after steps world).trace).getLast? =
          some (.receive control limit result)) ∧
        stream.session.id = some id ∧
        accepted c (after steps world).trace =
          (Command.runSession id).line ++ payload c (after steps world).trace ∧
        stream.position = offset + (received c (after steps world).trace).length +
          (payload c (after steps world).trace).length := by
  have sound := sound_after steps (sound_begin start)
  refine ⟨Int.natCast_nonneg _, fun c hc => ?_⟩
  cases stream with
  | unopened => cases hc
  | closed => cases hc
  | opened link =>
    have fits := sound.streams number _ has link rfl
    obtain ⟨offset, carries⟩ := fits.carries c hc
    obtain ⟨xs, conversing⟩ := fits.conversing
    obtain ⟨newer, x, older, hdialogue, hnewer, hbefore, hline⟩ := carries.last
    obtain ⟨id, hid, haccepted⟩ := carries.bound
    have transfer := carries.transfer
    rw [transferOn, if_pos carries.mem_opened] at transfer
    obtain ⟨sent, heard, last⟩ := sent_and_heard_of_admission? transfer hbefore
    exact ⟨link.control, rfl, offset, id,
      ⟨newer, x, older, hdialogue, conversing.stat_of_transfer? hdialogue hnewer, hline, sent,
        heard, hbefore⟩,
      carries.mem_opened, last, hid, haccepted, carries.position_eq⟩

/-- Three letters read from the offset 2, and the size asked for behind them. -/
theorem position_eq_offset_add_moved_letters :
    let settings : Settings := { target := "/run/letters", route := ⟨.direct, .given⟩ }
    let waiting : List Peer := [{ incoming := [.bytes (utf8 "ok\n6\n")] },
      { incoming := [.bytes (utf8 "cd"), .bytes (utf8 "ef")] }]
    let steps : List Step := [.start settings "r", .onStream 0 (.seek 2 0),
      .onStream 0 (.receive 2), .onStream 0 (.read (some 1)), .onStream 0 .stat]
    let world : World := { host := { network := { waiting } } }
    ∃ stream, (after steps world).streams[0]? = some stream ∧ stream.data = some ⟨1⟩ ∧
      ∃ offset : Nat, stream.position = offset + (utf8 "cde").length + 0 ∧
        ∃ x ∈ dialogue ⟨0⟩ (after steps world).trace,
          x.line = (Command.transfer .read offset).line := by
  intro settings waiting steps world
  have there : (after steps world).streams[0]?.isSome = true := by decide +kernel
  have facts : ∀ stream ∈ (after steps world).streams, stream.control = some ⟨0⟩ ∧
      stream.data = some ⟨1⟩ ∧ stream.direction = .read := by decide +kernel
  have moved : received ⟨1⟩ (after steps world).trace = utf8 "cde" ∧
      payload ⟨1⟩ (after steps world).trace = [] := by decide +kernel
  obtain ⟨stream, has⟩ := Option.isSome_iff_exists.1 there
  obtain ⟨hcontrol, hdata, hdirection⟩ := facts stream (List.mem_of_getElem? has)
  have start : begin 1 waiting = .ok world := rfl
  obtain ⟨-, coherent⟩ := position_eq_offset_add_moved start steps has
  obtain ⟨control, hcontrol', offset, -, ⟨newer, x, older, hdialogue, -, hline, -⟩, -, -, -, -,
    hposition⟩ := coherent ⟨1⟩ hdata
  obtain rfl : (⟨0⟩ : ConnectionId) = control := Option.some.inj (hcontrol.symm.trans hcontrol')
  rw [moved.1, moved.2] at hposition
  rw [hdirection] at hline
  refine ⟨stream, has, hdata, offset, hposition, x, ?_, hline⟩
  rw [hdialogue]
  exact List.mem_append_right _ (List.mem_cons_self ..)

end World

end SessionStream
