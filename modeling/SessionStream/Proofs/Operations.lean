import SessionStream.Proofs.StreamLife

/-!
# What the operations do

Every operation of a stream or of a reader, as it is performed, is one of the relations of the
module before. Seen from the stream they all come down to five kinds of change, and each operation
tells how the payload it moved fits to its answer.

## Main definitions

- `ByteStream.Evolves` — the changes of a stream, with the payload that they move
- `ByteStream.Performing`, `WindowReader.Performing` — the operations, as they are performed
- `ByteStream.written` — what the answer to an operation says was written
- `Contiguous` — payload that was moved piece after piece
-/

namespace SessionStream

/-- Each piece of payload starts where the one before it ends, and the first at `position`. -/
def Contiguous : Nat → List Placed → Prop
  | _, [] => True
  | position, (start, bytes) :: later =>
    start = position ∧ Contiguous (position + bytes.length) later

namespace ByteStream

/-- All that an operation can do to a stream. -/
inductive Evolves : ByteStream → List Event → List Placed → ByteStream → Prop
  | still (stream : ByteStream) : Evolves stream [] [] stream
  | moved {link after : Link} {es : List Event} {ps : List Placed}
      (moves : link.Moves es ps after) : Evolves (.opened link) es ps (.opened after)
  | unjoined {settings : Settings} {session after : Session} {address : Address}
      {es : List Event} {e : Failure}
      (join : Session.Joining settings.route address settings.timeout.effective session es
        (.error e) after) :
      Evolves (.unopened settings session) es [] (.unopened settings after)
  | joined {settings : Settings} {session after : Session} {address : Address}
      {es : List Event} {control : ConnectionId}
      (join : Session.Joining settings.route address settings.timeout.effective session es
        (.ok control) after) :
      Evolves (.unopened settings session) es []
        (.opened { settings, session := after, address, control })
  | released {link : Link} {es : List Event} {r : Except Failure Unit}
      (release : Link.Releasing link es r) :
      Evolves (.opened link) es []
        (.closed link.settings link.session link.address link.position)

variable {stream after : ByteStream} {es : List Event}

theorem Opening.evolves {r : Except Failure Unit} (h : Opening stream es r after) :
    Evolves stream es [] after := by
  cases h with
  | again => exact .still _
  | unlocated => exact .still _
  | unjoined _ join => exact .unjoined join
  | joined _ join => exact .joined join

theorem Closing.evolves {r : Except Failure Unit} (h : Closing stream es r after) :
    Evolves stream es [] after := by
  cases h with
  | idle => exact .still _
  | released release => exact .released release

/-- An operation of a stream, as it is performed. -/
inductive Performing : Operation → ByteStream → List Event → Except Failure Answer →
    ByteStream → Prop
  | connect {stream after : ByteStream} {es : List Event} {r : Except Failure Unit}
      (opening : Opening stream es r after) :
      Performing .connect stream es (r.map fun _ => .done) after
  | unroomy {stream : ByteStream} {size : Option Int} {e : Failure}
      (room : Buffer.reserve stream.settings.memory (wantedSize size) = .error e) :
      Performing (.read size) stream [] (.error e) stream
  | read {stream after : ByteStream} {es : List Event} {size : Option Int}
      {r : Except Failure Bytes}
      (reading : WhileOpen (Link.Reading (wantedSize size)) stream es r after) :
      Performing (.read size) stream es (r.map .bytes) after
  | receive {stream after : ByteStream} {es : List Event} {limit : Nat}
      {r : Except Failure Bytes} (receiving : WhileOpen (Link.Receiving limit) stream es r after) :
      Performing (.receive limit) stream es (r.map .bytes) after
  | write {stream after : ByteStream} {es : List Event} {data : Bytes} {r : Except Failure Nat}
      (writing : WhileOpen (Link.Writing data) stream es r after) :
      Performing (.write data) stream es (r.map fun count : Nat => .number count) after
  | seek {stream after : ByteStream} {es : List Event} {offset code : Int}
      {r : Except Failure Int}
      (seeking : WhileOpen (Link.Seeking offset code) stream es r after) :
      Performing (.seek offset code) stream es (r.map .number) after
  | stat {stream after : ByteStream} {es : List Event} {r : Except Failure Int}
      (stating : WhileOpen Link.Stating stream es r after) :
      Performing .stat stream es (r.map .number) after
  | position {stream : ByteStream} :
      Performing .position stream [] (.ok (.number stream.position)) stream
  | descriptor {stream after : ByteStream} {es : List Event} {r : Except Failure Nat}
      (describing : WhileOpen (fun link es r after =>
        es = [] ∧ r = .ok link.control.descriptor ∧ after = link) stream es r after) :
      Performing .descriptor stream es (r.map fun number : Nat => .number number) after
  | inspect {stream : ByteStream} : Performing .inspect stream [] (.ok (.stream stream)) stream
  | close {stream after : ByteStream} {es : List Event} {r : Except Failure Unit}
      (closing : Closing stream es r after) :
      Performing .close stream es (r.map fun _ => .done) after

/-- What an operation gives is turned into its answer. -/
theorem answer_does {α : Type} {act : Act (Held ByteStream) α} {f : α → Answer}
    {held : Held ByteStream} {post : Except Failure Answer → List Event → Held ByteStream → Prop}
    (h : Act.Does act held fun r es after => post (r.map f) es after) :
    Act.Does (do pure (f (← act))) held post := by
  refine Act.Does.bind (h.mono fun r es t h => ?_)
  cases r with
  | ok a =>
    refine Act.does_pure.2 ?_
    rw [List.append_nil]
    exact h
  | error e => exact h

theorem perform_does (operation : Operation) (held : Held ByteStream) :
    Act.Does (perform operation) held fun r es after =>
      Performing operation held.own es r after.own := by
  cases operation with
  | connect => exact answer_does ((connect_does held).mono fun _ _ _ h => .connect h)
  | read size =>
    refine answer_does ((read_does held size).mono ?_)
    rintro r es after (⟨e, room, rfl, rfl, hown⟩ | h)
    · rw [hown]
      exact .unroomy room
    · exact .read h
  | receive limit =>
    refine answer_does ((receive_does held limit).mono fun r es after h => ?_)
    have h := Performing.receive h
    cases r <;> exact h
  | write data => exact answer_does ((write_does held data).mono fun _ _ _ h => .write h)
  | seek offset code =>
    exact answer_does ((seek_does held offset code).mono fun _ _ _ h => .seek h)
  | stat => exact answer_does ((stat_does held).mono fun _ _ _ h => .stat h)
  | position => exact Act.does_get_bind.2 (Act.does_pure.2 .position)
  | descriptor => exact answer_does ((descriptor_does held).mono fun _ _ _ h => .descriptor h)
  | inspect => exact Act.does_get_bind.2 (Act.does_pure.2 .inspect)
  | close => exact answer_does ((close_does held).mono fun _ _ _ h => .close h)

/-- What the answer to an operation says was written, at the position from before it. -/
def written (stream : ByteStream) : Operation → Except Failure Answer → List Placed
  | .write data, .ok (.number count) => [(stream.position, data.take count.toNat)]
  | _, _ => []

/-- A stream in no state but open does nothing; an open one does what the operation is. -/
theorem WhileOpen.cases_open {α : Type} {does : Link → List Event → Except Failure α → Link → Prop}
    {r : Except Failure α} (h : WhileOpen does stream es r after) :
    (es = [] ∧ after = stream ∧ ∃ e, r = .error e) ∨
    ∃ link link', stream = .opened link ∧ after = .opened link' ∧ does link es r link' := by
  cases h with
  | refused => exact .inl ⟨rfl, rfl, _, rfl⟩
  | done operation => exact .inr ⟨_, _, rfl, rfl, operation⟩

/-- An operation that moves no payload. -/
theorem WhileOpen.evolves {α : Type} {does : Link → List Event → Except Failure α → Link → Prop}
    {r : Except Failure α} (h : WhileOpen does stream es r after)
    (moves : ∀ {link es r link'}, does link es r link' → link.Moves es [] link') :
    Evolves stream es [] after := by
  cases h with
  | refused => exact .still _
  | done operation => exact .moved (moves operation)

/-- The payload that an operation moved, against its answer: what a stream that writes moved is
what the answer says was written, and bytes in an answer are the payload that was moved. -/
structure Accounts (operation : Operation) (stream : ByteStream) (r : Except Failure Answer)
    (ps : List Placed) : Prop where
  written : stream.direction = .write → ps = stream.written operation r
  unwritten : stream.direction = .read → stream.written operation r = []
  read : ∀ bytes, r = .ok (.bytes bytes) → bytes = [] ∨ ps = [(stream.position, bytes)]

theorem Performing.evolves {operation : Operation} {r : Except Failure Answer}
    (h : Performing operation stream es r after) :
    ∃ ps, Evolves stream es ps after ∧ Accounts operation stream r ps := by
  have silent : ∀ {operation : Operation} {r : Except Failure Answer},
      stream.written operation r = [] → (∀ bytes, r ≠ .ok (.bytes bytes)) →
      Accounts operation stream r [] := fun hw hr =>
    ⟨fun _ => hw.symm, fun _ => hw, fun bytes h => absurd h (hr bytes)⟩
  cases h with
  | connect opening =>
    refine ⟨[], opening.evolves, silent rfl fun bytes => ?_⟩
    rename_i r
    cases r <;> nofun
  | unroomy => exact ⟨[], .still _, silent rfl nofun⟩
  | @read _ _ _ _ r reading =>
    obtain ⟨rfl, rfl, e, rfl⟩ | ⟨link, link', rfl, rfl, does⟩ := reading.cases_open
    · exact ⟨[], .still _, silent rfl nofun⟩
    · obtain ⟨ps, moves, gives, writes⟩ := does.moves
      refine ⟨ps, .moved moves, writes, fun _ => rfl, fun bytes hr => ?_⟩
      cases r with
      | error e => cases hr
      | ok bytes =>
        cases hr
        exact gives bytes rfl
  | @receive _ _ _ _ r receiving =>
    obtain ⟨rfl, rfl, e, rfl⟩ | ⟨link, link', rfl, rfl, does⟩ := receiving.cases_open
    · exact ⟨[], .still _, silent rfl nofun⟩
    · obtain ⟨ps, moves, gives, writes⟩ := does.moves
      refine ⟨ps, .moved moves, writes, fun _ => rfl, fun bytes hr => ?_⟩
      cases r with
      | error e => cases hr
      | ok bytes =>
        cases hr
        exact .inr (gives bytes rfl)
  | @write _ _ _ data r writing =>
    obtain ⟨rfl, rfl, e, rfl⟩ | ⟨link, link', rfl, rfl, does⟩ := writing.cases_open
    · exact ⟨[], .still _, silent rfl nofun⟩
    · obtain ⟨ps, moves, gives⟩ := does.moves
      cases r with
      | error e =>
        subst gives
        exact ⟨[], .moved moves, silent rfl nofun⟩
      | ok count =>
        obtain ⟨writes, rfl⟩ := gives
        refine ⟨_, .moved moves, fun _ => rfl, fun reads => ?_, nofun⟩
        rw [direction, session, writes] at reads
        cases reads
  | @seek _ _ _ _ _ r seeking =>
    refine ⟨[], seeking.evolves Link.Seeking.moves, silent rfl fun bytes => ?_⟩
    cases r <;> nofun
  | @stat _ _ _ r stating =>
    refine ⟨[], stating.evolves fun h => (Link.Move.stating h).moves, silent rfl fun bytes => ?_⟩
    cases r <;> nofun
  | position => exact ⟨[], .still _, silent rfl nofun⟩
  | @descriptor _ _ _ r describing =>
    refine ⟨[], describing.evolves ?_, silent rfl fun bytes => ?_⟩
    · rintro link _ _ _ ⟨rfl, -, rfl⟩
      exact .refl _
    · cases r <;> nofun
  | inspect => exact ⟨[], .still _, silent rfl nofun⟩
  | @close _ _ _ r closing =>
    refine ⟨[], closing.evolves, silent rfl fun bytes => ?_⟩
    cases r <;> nofun

end ByteStream

namespace WindowReader

/-- The stream under an operation of a reader, as it is performed. -/
inductive Performing : Operation → ByteStream → List Event → Except Failure Answer →
    ByteStream → Prop
  | fetch {start length : Int} {stream after : ByteStream} {es : List Event}
      {r : Except Failure Bytes} (fetching : Fetching start length stream es r after) :
      Performing (.fetch start length) stream es (r.map .bytes) after
  | size {stream after : ByteStream} {es : List Event} {r : Except Failure Int}
      (seeking : ByteStream.WhileOpen (Link.Seeking 0 Origin.size.code) stream es r after) :
      Performing .size stream es (r.map .number) after
  | close {stream after : ByteStream} {es : List Event} {r : Except Failure Unit}
      (closing : ByteStream.Closing stream es r after) :
      Performing .close stream es (r.map fun _ => .done) after

/-- What an operation gives is turned into its answer. -/
theorem answer_does {α : Type} {act : Act (Held WindowReader) α} {f : α → Answer}
    {held : Held WindowReader}
    {post : Except Failure Answer → List Event → Held WindowReader → Prop}
    (h : Act.Does act held fun r es after => post (r.map f) es after) :
    Act.Does (do pure (f (← act))) held post := by
  refine Act.Does.bind (h.mono fun r es t h => ?_)
  cases r with
  | ok a =>
    refine Act.does_pure.2 ?_
    rw [List.append_nil]
    exact h
  | error e => exact h

theorem perform_does (operation : Operation) (held : Held WindowReader) :
    Act.Does (perform operation) held fun r es after =>
      Performing operation held.own.stream es r after.own.stream := by
  cases operation with
  | fetch start length =>
    exact answer_does ((fetch_does held start length).mono fun _ _ _ h => .fetch h.1)
  | size => exact answer_does ((size_does held).mono fun _ _ _ h => .size h.1)
  | close => exact answer_does ((close_does held).mono fun _ _ _ h => .close h.1)

/-- A window is received piece after piece. -/
theorem Gathering.moves {start missing : Nat} {got : Bytes} {stream after : ByteStream}
    {es : List Event} {r : Except Failure Bytes}
    (h : Gathering start missing got stream es r after) {link : Link}
    (hopen : stream = .opened link) :
    ∃ link' ps, after = .opened link' ∧ link.Moves es ps link' ∧
      (∀ window, r = .ok window → window = got ++ ps.flatMap Prod.snd ∧
        window.length = got.length + missing ∧ Contiguous link.position ps) ∧
      (link.session.direction = .write → ps = []) := by
  induction h generalizing link with
  | @done got =>
    refine ⟨link, [], hopen, .refl link, ?_, fun _ => rfl⟩
    rintro window ⟨⟩
    exact ⟨(List.append_nil _).symm, rfl, trivial⟩
  | stopped _ receive =>
    subst hopen
    cases receive with
    | refused notOpen => exact absurd rfl notOpen
    | done receive =>
      obtain ⟨ps, moves, -, writes⟩ := receive.moves
      exact ⟨_, ps, rfl, moves, nofun, writes⟩
  | @more missing got chunk _ _ _ _ _ _ _ receive _ ih =>
    subst hopen
    cases receive with
    | done receive =>
      obtain ⟨ps, moves, gives, writes⟩ := receive.moves
      obtain ⟨link', qs, rfl, moves', gives', -⟩ := ih rfl
      obtain ⟨-, fits⟩ := receive.length_of_ok
      obtain rfl := gives chunk rfl
      refine ⟨link', _, rfl, moves.trans moves', fun window hr => ?_, fun hw => ?_⟩
      · obtain ⟨hbytes, hlength, hqs⟩ := gives' window hr
        refine ⟨?_, ?_, rfl, ?_⟩
        · rw [hbytes]
          simp
        · rw [hlength, List.length_append]
          omega
        · rwa [receive.position_eq] at hqs
      · cases writes hw

/-- Whatever a fetch does, a window it serves starts where it was asked to start, has the length
that was asked for, and was received piece after piece. -/
theorem Fetching.evolves {start length : Int} {stream after : ByteStream} {es : List Event}
    {r : Except Failure Bytes} (h : Fetching start length stream es r after) :
    ∃ ps, ByteStream.Evolves stream es ps after ∧ (stream.direction = .write → ps = []) ∧
      ∀ window, r = .ok window → 0 ≤ start ∧ 0 < length ∧ window = ps.flatMap Prod.snd ∧
        window.length = length.toNat ∧ Contiguous start.toNat ps := by
  cases h with
  | negativeStart => exact ⟨[], .still _, fun _ => rfl, nofun⟩
  | nonPositiveLength => exact ⟨[], .still _, fun _ => rfl, nofun⟩
  | unmoved _ _ seek => exact ⟨[], seek.evolves Link.Seeking.moves, fun _ => rfl, nofun⟩
  | unroomy _ _ seek => exact ⟨[], seek.evolves Link.Seeking.moves, fun _ => rfl, nofun⟩
  | gathered nonneg positive seek gather =>
    cases seek with
    | @done link mid _ _ seek =>
      obtain ⟨link', ps, rfl, moves, gives, writes⟩ := gather.moves rfl
      refine ⟨ps, .moved (seek.moves.trans moves), fun hw => ?_, fun window hr => ?_⟩
      · refine writes ?_
        rw [seek.session_eq]
        exact hw
      · obtain ⟨hbytes, hlength, hps⟩ := gives window hr
        refine ⟨nonneg, positive, hbytes, by simpa using hlength, ?_⟩
        rw [seek.position_of_start, Int.toNat_natCast]
        exact hps

theorem Performing.evolves {operation : Operation} {stream after : ByteStream} {es : List Event}
    {r : Except Failure Answer} (h : Performing operation stream es r after) :
    ∃ ps, ByteStream.Evolves stream es ps after ∧ (stream.direction = .write → ps = []) ∧
      ∀ start length window, operation = .fetch start length → r = .ok (.bytes window) →
        0 ≤ start ∧ 0 < length ∧ window = ps.flatMap Prod.snd ∧ window.length = length.toNat ∧
        Contiguous start.toNat ps := by
  cases h with
  | @fetch _ _ _ _ _ r fetching =>
    obtain ⟨ps, evolves, writes, gives⟩ := fetching.evolves
    refine ⟨ps, evolves, writes, ?_⟩
    rintro start length window ⟨⟩ hr
    cases r with
    | error e => cases hr
    | ok window =>
      cases hr
      exact gives window rfl
  | size seeking => exact ⟨[], seeking.evolves Link.Seeking.moves, fun _ => rfl, nofun⟩
  | close closing => exact ⟨[], closing.evolves, fun _ => rfl, nofun⟩

end WindowReader

end SessionStream
