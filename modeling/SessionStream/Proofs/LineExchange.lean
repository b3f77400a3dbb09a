import SessionStream.Proofs.Effect

/-!
# The events of an exchange

A line goes out in sends that each offer what is left of it; a reply comes in byte by byte. The
relations here list the events that sending a line and reading a reply can have, for each way they
can end, whatever the peer does.

## Main definitions

- `Wire.Transmission` — the sends of a line
- `Wire.Hearing` — the receives of a reply
- `Wire.Exchanged` — a command and its reply
-/

namespace SessionStream.Wire

/-- The sends of what is left of a line on `c`, and how they end: with the last byte accepted, with
a send that accepts nothing, or with one that fails. -/
inductive Transmission (c : ConnectionId) : Bytes → List Event → Except Failure Unit → Prop
  | done : Transmission c [] [] (.ok ())
  | advanced {b : UInt8} {later : Bytes} {count : Nat} {es : List Event} {r : Except Failure Unit}
      (fits : count ≤ later.length) (rest : Transmission c (later.drop count) es r) :
      Transmission c (b :: later) (.send c (b :: later) (some (count + 1)) :: es) r
  | refused {b : UInt8} {later : Bytes} :
      Transmission c (b :: later) [.send c (b :: later) (some 0)] (.error .peerClosed)
  | failed {b : UInt8} {later : Bytes} (fault : Fault) :
      Transmission c (b :: later) [.send c (b :: later) none] (.error (.fault fault))

/-- The receives of a reply on `c` with `room` bytes to go, after the bytes `line` of it, and how
they end: with the whole line, with no room for its end, which is the failure `overflow`, with the
end of the data, or with a receive that fails. -/
inductive Hearing (c : ConnectionId) (overflow : Failure) :
    Nat → Bytes → List Event → Except Failure Bytes → Prop
  | overflowed {line : Bytes} : Hearing c overflow 0 line [] (.error overflow)
  | ended {room : Nat} {line : Bytes} :
      Hearing c overflow (room + 1) line [.receive c 1 (some [Reply.lineEnd])] (.ok line)
  | advanced {room : Nat} {line : Bytes} {b : UInt8} {es : List Event} {r : Except Failure Bytes}
      (inside : b ≠ Reply.lineEnd) (rest : Hearing c overflow room (line ++ [b]) es r) :
      Hearing c overflow (room + 1) line (.receive c 1 (some [b]) :: es) r
  | cut {room : Nat} {line : Bytes} :
      Hearing c overflow (room + 1) line [.receive c 1 (some [])] (.error .replyCut)
  | failed {room : Nat} {line : Bytes} (fault : Fault) :
      Hearing c overflow (room + 1) line [.receive c 1 none] (.error (.fault fault))

/-- The events of sending a line on `c` and reading the reply to it, and the bytes of that reply
without the end of its line. -/
inductive Exchanged (c : ConnectionId) (line : Bytes) :
    List Event → Except Failure Bytes → Prop
  | unsent {es : List Event} {e : Failure} (sends : Transmission c line es (.error e)) :
      Exchanged c line es (.error e)
  | sent {es fs : List Event} {r : Except Failure Bytes} (sends : Transmission c line es (.ok ()))
      (receives : Hearing c (.replyTooLong Reply.limit) Reply.limit [] fs r) :
      Exchanged c line (es ++ fs) r

variable {c : ConnectionId}

theorem transmit_does (data : Bytes) (net : Network) :
    Act.Does (transmit c data) net fun r es _ => Transmission c data es r := by
  fun_induction transmit c data generalizing net with
  | case1 => exact Act.does_pure.2 .done
  | case2 b later ih =>
    refine Act.Does.bind ((Network.send_does (b :: later)).mono fun r es t h => ?_)
    cases h with
    | failed fault => exact .failed fault
    | @answered count fits =>
      cases count with
      | zero => exact Act.does_throw.2 .refused
      | succ count =>
        have hfits : count ≤ later.length := by simpa using fits
        exact (ih count t).mono fun r' fs _ h' => .advanced hfits h'

theorem receiveLine_does (limit : Int) (room : Nat) (line : Bytes) (net : Network) :
    Act.Does (receiveLine c limit room line) net fun r es _ =>
      Hearing c (.quoting limit (.replyTooLong limit)) room line es r := by
  induction room generalizing line net with
  | zero => exact Act.does_throw.2 .overflowed
  | succ room ih =>
    refine Act.Does.bind ((Network.receive_does 1).mono fun r es t h => ?_)
    cases h with
    | failed fault => exact .failed fault
    | @answered bs short =>
      match bs, short with
      | [], _ => exact Act.does_throw.2 .cut
      | [b], _ =>
        by_cases hb : b = Reply.lineEnd
        · subst hb
          simpa using Hearing.ended
        · simp only [hb, if_false]
          exact (ih (line ++ [b]) t).mono fun r' fs _ h' => .advanced hb h'

theorem receiveReply_does (limit : Int) (net : Network) :
    Act.Does (receiveReply c limit) net fun r es _ =>
      ∃ heard, Hearing c (.quoting limit (.replyTooLong limit)) limit.toNat [] es heard ∧
        r = asciiText <$> heard := by
  refine Act.Does.bind ((receiveLine_does limit limit.toNat [] net).mono fun r es t h => ?_)
  cases r with
  | ok line => exact Act.does_pure.2 ⟨.ok line, by simpa using h, rfl⟩
  | error e => exact ⟨.error e, h, rfl⟩

/-- All sends of a line are on its connection. -/
theorem Transmission.target? {data : Bytes} {es : List Event} {r : Except Failure Unit}
    (h : Transmission c data es r) : ∀ e ∈ es, e.target? = some c := by
  induction h with
  | done => simp
  | advanced _ _ ih =>
    intro e he
    rcases List.mem_cons.1 he with rfl | he
    · rfl
    · exact ih e he
  | refused => simp [Event.target?]
  | failed => simp [Event.target?]

/-- A line is not sent because the peer is gone or because a send fails. -/
theorem Transmission.error_cases {data : Bytes} {es : List Event} {e : Failure}
    (h : Transmission c data es (.error e)) : e = .peerClosed ∨ ∃ fault, e = .fault fault := by
  generalize hr : (Except.error e : Except Failure Unit) = r at h
  induction h with
  | done => cases hr
  | advanced _ _ ih => exact ih hr
  | refused => exact .inl (Except.error.inj hr)
  | failed fault => exact .inr ⟨fault, Except.error.inj hr⟩

/-- All receives of a reply are on its connection. -/
theorem Hearing.target? {overflow : Failure} {room : Nat} {line : Bytes} {es : List Event}
    {r : Except Failure Bytes} (h : Hearing c overflow room line es r) :
    ∀ e ∈ es, e.target? = some c := by
  induction h with
  | overflowed => simp
  | ended => simp [Event.target?]
  | advanced _ _ ih =>
    intro e he
    rcases List.mem_cons.1 he with rfl | he
    · rfl
    · exact ih e he
  | cut => simp [Event.target?]
  | failed => simp [Event.target?]

/-- All calls of an exchange are on its connection. -/
theorem Exchanged.target? {line : Bytes} {es : List Event} {r : Except Failure Bytes}
    (h : Exchanged c line es r) : ∀ e ∈ es, e.target? = some c := by
  cases h with
  | unsent sends => exact sends.target?
  | sent sends receives =>
    intro e he
    rcases List.mem_append.1 he with he | he
    · exact sends.target? e he
    · exact receives.target? e he

end SessionStream.Wire
