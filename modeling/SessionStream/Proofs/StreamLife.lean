import SessionStream.Proofs.OpenStream

/-!
# What a stream and a reader can do

The operations of a stream in any state, and of a reader on one, as relations between the state
before, the events, the result and the state after. An operation of an open stream lifts to a
stream in the same way for all of them, by `ByteStream.WhileOpen`.

## Main definitions

- `ByteStream.WhileOpen` — an operation that only an open stream has
- `ByteStream.Opening`, `ByteStream.Closing` — the two changes of state
- `WindowReader.Gathering`, `WindowReader.Fetching` — serving a window
-/

namespace SessionStream

namespace ByteStream

/-- An operation of an open stream, on a stream in any state. -/
inductive WhileOpen {α : Type} (does : Link → List Event → Except Failure α → Link → Prop) :
    ByteStream → List Event → Except Failure α → ByteStream → Prop
  | refused {stream : ByteStream} (notOpen : stream.phase ≠ .opened) :
      WhileOpen does stream [] (.error (.notOpen stream.phase)) stream
  | done {link after : Link} {es : List Event} {r : Except Failure α}
      (operation : does link es r after) : WhileOpen does (.opened link) es r (.opened after)

/-- The attempt to open a stream. -/
inductive Opening : ByteStream → List Event → Except Failure Unit → ByteStream → Prop
  | again {stream : ByteStream} (before : stream.phase ≠ .unopened) :
      Opening stream [] (.error (.alreadyOpened stream.phase)) stream
  | unlocated {settings : Settings} {session : Session} {e : Failure}
      (target : settings.target.address = .error e) :
      Opening (.unopened settings session) [] (.error e) (.unopened settings session)
  | unjoined {settings : Settings} {session after : Session} {address : Address}
      {es : List Event} {e : Failure} (target : settings.target.address = .ok address)
      (join : Session.Joining settings.route address settings.timeout.effective session es
        (.error e) after) :
      Opening (.unopened settings session) es (.error e) (.unopened settings after)
  | joined {settings : Settings} {session after : Session} {address : Address}
      {es : List Event} {control : ConnectionId}
      (target : settings.target.address = .ok address)
      (join : Session.Joining settings.route address settings.timeout.effective session es
        (.ok control) after) :
      Opening (.unopened settings session) es (.ok ())
        (.opened { settings, session := after, address, control })

/-- Closing a stream. -/
inductive Closing : ByteStream → List Event → Except Failure Unit → ByteStream → Prop
  | idle {stream : ByteStream} (notOpen : stream.phase ≠ .opened) :
      Closing stream [] (.ok ()) stream
  | released {link : Link} {es : List Event} {r : Except Failure Unit}
      (release : Link.Releasing link es r) :
      Closing (.opened link) es r
        (.closed link.settings link.session link.address link.position)

theorem outcome_whileOpen_opened {α : Type} (act : Act (Held Link) α) (link : Link) (host : Host) :
    Act.outcome (whileOpen act) ⟨opened link, host⟩ =
      ((Act.outcome act ⟨link, host⟩).1, ⟨opened (Act.outcome act ⟨link, host⟩).2.own,
        (Act.outcome act ⟨link, host⟩).2.host⟩) := by
  simp only [Act.outcome, whileOpen]
  cases act ⟨link, host⟩ <;> rfl

theorem outcome_whileOpen {α : Type} (act : Act (Held Link) α) {stream : ByteStream}
    (notOpen : stream.phase ≠ .opened) (host : Host) : Act.outcome (whileOpen act) ⟨stream, host⟩ =
      (.error (.notOpen stream.phase), ⟨stream, host⟩) := by
  cases stream with
  | opened => exact absurd rfl notOpen
  | _ => rfl

theorem outcome_connect_unopened (settings : Settings) (session : Session) (host : Host) :
    Act.outcome connect ⟨unopened settings session, host⟩ =
      match Act.outcome (establish settings) ⟨session, host⟩ with
      | (.ok link, after) => (.ok (), ⟨opened link, after.host⟩)
      | (.error e, after) => (.error e, ⟨unopened settings after.own, after.host⟩) := by
  simp only [Act.outcome, connect]
  cases establish settings ⟨session, host⟩ <;> rfl

theorem outcome_close_opened (link : Link) (host : Host) :
    Act.outcome close ⟨opened link, host⟩ = ((Act.outcome link.release host).1,
      ⟨closed link.settings link.session link.address link.position,
        (Act.outcome link.release host).2⟩) := by
  simp only [Act.outcome, close, liftM, monadLift, MonadLift.monadLift, Act.zoom]
  cases link.release host <;> rfl

theorem whileOpen_does {α β : Type} {act : Act (Held Link) α}
    {g : Except Failure α → Except Failure β}
    {does : Link → List Event → Except Failure β → Link → Prop}
    (hg : ∀ e, g (.error e) = .error e)
    (h : ∀ held, Act.Does act held fun r es after => does held.own es (g r) after.own)
    (held : Held ByteStream) :
    Act.Does (whileOpen act) held fun r es after => WhileOpen does held.own es (g r) after.own := by
  obtain ⟨stream, host⟩ := held
  cases stream with
  | opened link =>
    obtain ⟨es, hext, hpost⟩ := h ⟨link, host⟩
    unfold Act.Does
    rw [outcome_whileOpen_opened]
    exact ⟨es, hext, .done hpost⟩
  | unopened settings session =>
    have h : WhileOpen does (unopened settings session) [] _ _ := .refused (by simp [phase])
    exact (Act.does_of_outcome rfl rfl).2 (hg _ ▸ h)
  | closed settings session address position =>
    have h : WhileOpen does (closed settings session address position) [] _ _ :=
      .refused (by simp [phase])
    exact (Act.does_of_outcome rfl rfl).2 (hg _ ▸ h)

variable (held : Held ByteStream)

theorem receive_does (limit : Nat) :
    Act.Does (receive limit) held fun r es after =>
      WhileOpen (Link.Receiving limit) held.own es (Subtype.val <$> r) after.own :=
  whileOpen_does (g := (Subtype.val <$> ·)) (fun _ => rfl)
    (fun held => Link.receive_does held limit) held

theorem does_reserve_bind {β : Type} {size : Nat} {f : Unit → Act (Held ByteStream) β}
    {post : Except Failure β → List Event → Held ByteStream → Prop} :
    Act.Does (reserve size >>= f) held post ↔
      match Buffer.reserve held.own.settings.memory size with
      | .ok u => Act.Does (f u) held post
      | .error e => post (.error e) [] held := by
  rw [reserve, bind_assoc, Act.does_get_bind, Act.does_ofExcept_bind]
  cases Buffer.reserve held.own.settings.memory size <;> rfl

/-- A read either finds no room for its bytes, or reads from the open stream. -/
theorem read_does (size : Option Int) :
    Act.Does (read size) held fun r es after =>
      (∃ e, Buffer.reserve held.own.settings.memory (wantedSize size) = .error e ∧ es = [] ∧
        r = .error e ∧ after.own = held.own) ∨
      WhileOpen (Link.Reading (wantedSize size)) held.own es r after.own := by
  refine (does_reserve_bind held).2 ?_
  cases hroom : Buffer.reserve held.own.settings.memory (wantedSize size) with
  | error e => exact .inl ⟨e, rfl, rfl, rfl, rfl⟩
  | ok u =>
    refine (whileOpen_does (g := id) (fun _ => rfl)
      (fun held => Link.read_does held (wantedSize size)) held).mono ?_
    exact fun r es after h => .inr h

theorem write_does (data : Bytes) :
    Act.Does (write data) held fun r es after =>
      WhileOpen (Link.Writing data) held.own es r after.own :=
  whileOpen_does (g := id) (fun _ => rfl) (fun held => Link.write_does held data) held

theorem seek_does (offset code : Int) :
    Act.Does (seek offset code) held fun r es after =>
      WhileOpen (Link.Seeking offset code) held.own es r after.own :=
  whileOpen_does (g := id) (fun _ => rfl) (fun held => Link.seek_does held offset code) held

theorem stat_does :
    Act.Does stat held fun r es after => WhileOpen Link.Stating held.own es r after.own :=
  whileOpen_does (g := id) (fun _ => rfl) Link.stat_does held

theorem descriptor_does :
    Act.Does descriptor held fun r es after =>
      WhileOpen (fun link es r after => es = [] ∧ r = .ok link.control.descriptor ∧ after = link)
        held.own es r after.own :=
  whileOpen_does (g := id) (fun _ => rfl)
    (fun _ => Act.does_get_bind.2 (Act.does_pure.2 ⟨rfl, rfl, rfl⟩)) held

theorem close_does :
    Act.Does close held fun r es after => Closing held.own es r after.own := by
  obtain ⟨stream, host⟩ := held
  cases stream with
  | opened link =>
    obtain ⟨es, hext, hpost⟩ := Link.release_does link host
    unfold Act.Does
    rw [outcome_close_opened]
    exact ⟨es, hext, .released hpost⟩
  | unopened => exact (Act.does_of_outcome rfl rfl).2 (.idle (by simp [phase]))
  | closed => exact (Act.does_of_outcome rfl rfl).2 (.idle (by simp [phase]))

theorem locate_does (target : Word) (host : Host) :
    Act.Does (locate target) host fun r es _ => es = [] ∧ r = target.address := by
  unfold locate
  rw [Act.does_ofExcept_bind]
  cases target.address with
  | error e => exact ⟨rfl, rfl⟩
  | ok address =>
    refine Host.does_write_bind.2 ?_
    by_cases h : address.isAbstract = true
    · rw [if_pos h]
      exact Host.does_write_bind.2 (Act.does_pure.2 ⟨rfl, rfl⟩)
    · rw [if_neg h]
      exact Act.does_pure.2 ⟨rfl, rfl⟩

theorem establish_does (settings : Settings) (held : Held Session) :
    Act.Does (establish settings) held fun r es after =>
      match settings.target.address with
      | .error e => es = [] ∧ r = .error e ∧ after.own = held.own
      | .ok address => ∃ r', Session.Joining settings.route address settings.timeout.effective
          held.own es r' after.own ∧
          r = r'.map fun control => { settings, session := after.own, address, control } := by
  unfold establish
  refine Act.Does.bind (Act.Does.onHeld ((locate_does _ _).mono ?_))
  rintro r es host ⟨rfl, hr⟩
  cases r with
  | error e =>
    rw [← hr]
    exact ⟨rfl, rfl, rfl⟩
  | ok address =>
    rw [← hr]
    refine Act.Does.bind ((Session.join_does _ _ _ _).mono ?_)
    rintro r es after ⟨join, -⟩
    cases r with
    | error e => exact ⟨.error e, join, rfl⟩
    | ok control =>
      refine Act.does_get_bind.2 (Act.does_pure.2 ⟨.ok control, ?_, rfl⟩)
      simpa using join

theorem connect_does :
    Act.Does connect held fun r es after => Opening held.own es r after.own := by
  obtain ⟨stream, host⟩ := held
  cases stream with
  | unopened settings session =>
    obtain ⟨es, hext, hpost⟩ := establish_does settings ⟨session, host⟩
    unfold Act.Does
    rw [outcome_connect_unopened]
    generalize Act.outcome (establish settings) ⟨session, host⟩ = o at hext hpost ⊢
    obtain ⟨r, after⟩ := o
    refine ⟨es, ?_, ?_⟩
    · cases r <;> exact hext
    cases target : settings.target.address with
    | error e =>
      rw [target] at hpost
      obtain ⟨rfl, rfl, hown⟩ := hpost
      dsimp only at hown ⊢
      rw [hown]
      exact .unlocated target
    | ok address =>
      rw [target] at hpost
      obtain ⟨r', join, hr⟩ := hpost
      dsimp only at join hr
      subst hr
      cases r' with
      | error e => exact .unjoined target join
      | ok control => exact .joined target join
  | opened => exact (Act.does_of_outcome rfl rfl).2 (.again (by simp [phase]))
  | closed => exact (Act.does_of_outcome rfl rfl).2 (.again (by simp [phase]))

end ByteStream

namespace WindowReader

/-- The end of the stream inside a window as a failure of the window. -/
def cutShort (length start got : Nat) : Failure → Failure
  | .streamEnded _ => .notEnoughData length start got
  | e => e

/-- Receiving until nothing of a window is missing. -/
inductive Gathering (start : Nat) :
    Nat → Bytes → ByteStream → List Event → Except Failure Bytes → ByteStream → Prop
  | done {got : Bytes} {stream : ByteStream} : Gathering start 0 got stream [] (.ok got) stream
  | stopped {missing : Nat} {got : Bytes} {stream after : ByteStream} {es : List Event}
      {e : Failure} (positive : missing ≠ 0)
      (receive : ByteStream.WhileOpen (Link.Receiving missing) stream es (.error e) after) :
      Gathering start missing got stream es
        (.error (cutShort (got.length + missing) start got.length e)) after
  | more {missing : Nat} {got chunk : Bytes} {stream mid after : ByteStream} {es fs : List Event}
      {r : Except Failure Bytes} (positive : missing ≠ 0)
      (receive : ByteStream.WhileOpen (Link.Receiving missing) stream es (.ok chunk) mid)
      (rest : Gathering start (missing - chunk.length) (got ++ chunk) mid fs r after) :
      Gathering start missing got stream (es ++ fs) r after

/-- Serving the window of `length` bytes at `start`. -/
inductive Fetching (start length : Int) (stream : ByteStream) :
    List Event → Except Failure Bytes → ByteStream → Prop
  | negativeStart (below : start < 0) :
      Fetching start length stream [] (.error .negativeStart) stream
  | nonPositiveLength (nonneg : 0 ≤ start) (short : length ≤ 0) :
      Fetching start length stream [] (.error .nonPositiveLength) stream
  | unmoved {es : List Event} {e : Failure} {after : ByteStream} (nonneg : 0 ≤ start)
      (positive : 0 < length)
      (seek : ByteStream.WhileOpen (Link.Seeking start Origin.start.code) stream es (.error e)
        after) :
      Fetching start length stream es (.error e) after
  | unroomy {es : List Event} {position : Int} {e : Failure} {after : ByteStream}
      (nonneg : 0 ≤ start) (positive : 0 < length)
      (seek : ByteStream.WhileOpen (Link.Seeking start Origin.start.code) stream es
        (.ok position) after)
      (room : Buffer.reserve after.settings.memory length.toNat = .error e) :
      Fetching start length stream es (.error e) after
  | gathered {es fs : List Event} {position : Int} {r : Except Failure Bytes}
      {mid after : ByteStream} (nonneg : 0 ≤ start) (positive : 0 < length)
      (seek : ByteStream.WhileOpen (Link.Seeking start Origin.start.code) stream es
        (.ok position) mid)
      (gather : Gathering start.toNat length.toNat [] mid fs r after) :
      Fetching start length stream (es ++ fs) r after

theorem gather_does (start missing : Nat) (got : Bytes) (held : Held ByteStream) :
    Act.Does (gather start missing got) held fun r es after =>
      Gathering start missing got held.own es r after.own := by
  fun_induction gather start missing got generalizing held with
  | case1 => exact Act.does_pure.2 .done
  | case2 missing got positive ih =>
    refine Act.Does.bind (Act.Does.tryCatch ((ByteStream.receive_does _ _).mono ?_))
    intro r es mid h
    cases r with
    | error e =>
      change Act.Does _ _ _
      split
      · refine Act.does_throw.2 ?_
        rw [List.append_nil]
        exact .stopped positive h
      · next he =>
        have hsame : cutShort (got.length + missing) start got.length e = e := by
          cases e <;> first | rfl | exact absurd rfl (he _)
        refine Act.does_throw.2 ?_
        rw [List.append_nil]
        have h' : Gathering start _ got _ _ _ _ := .stopped positive h
        rwa [hsame] at h'
    | ok chunk =>
      exact (ih chunk mid).mono fun r fs after rest => .more positive h rest

/-- The tally after a window that was asked for and served like this. -/
def Tally.after (tally : Tally) (r : Except Failure Bytes) : Tally where
  bytesFetched := tally.bytesFetched + ((r.toOption.map List.length).getD 0)
  requestsMade := tally.requestsMade + 1

variable (held : Held WindowReader)

theorem does_count_bind {β : Type} {f : Tally → Tally} {g : Unit → Act (Held WindowReader) β}
    {post : Except Failure β → List Event → Held WindowReader → Prop} :
    Act.Does (count f >>= g) held post ↔
      Act.Does (g ()) { held with own := { held.own with tally := f held.own.tally } } post :=
  Act.does_bind_of_outcome (s := held)
    (t := { held with own := { held.own with tally := f held.own.tally } }) rfl rfl

theorem fetch_does (start length : Int) :
    Act.Does (fetch start length) held fun r es after =>
      Fetching start length held.own.stream es r after.own.stream ∧
      after.own.tally = Tally.after held.own.tally r := by
  unfold fetch
  refine (does_count_bind held).2 ?_
  by_cases below : start < 0
  · rw [if_pos below, Act.does_throw_bind]
    exact ⟨.negativeStart below, rfl⟩
  have nonneg : 0 ≤ start := by omega
  rw [if_neg below]
  by_cases short : length ≤ 0
  · rw [if_pos short, Act.does_throw_bind]
    exact ⟨.nonPositiveLength nonneg short, rfl⟩
  have positive : 0 < length := by omega
  rw [if_neg short]
  refine Act.Does.bind (Act.Does.onPart ?_)
  refine Act.Does.bind (Act.Does.map ((ByteStream.seek_does _ _ _).mono ?_))
  intro r es mid seek
  cases r with
  | error e => exact ⟨.unmoved nonneg positive seek, rfl⟩
  | ok position =>
    refine (ByteStream.does_reserve_bind mid).2 ?_
    cases room : Buffer.reserve mid.own.settings.memory length.toNat with
    | error e =>
      dsimp only
      rw [List.append_nil]
      exact ⟨.unroomy nonneg positive seek room, rfl⟩
    | ok u =>
      refine (gather_does _ _ _ _).mono ?_
      intro r fs after gather
      cases r with
      | error e => exact ⟨.gathered nonneg positive seek gather, rfl⟩
      | ok window =>
        refine (does_count_bind _).2 (Act.does_pure.2 ?_)
        rw [List.append_nil]
        exact ⟨.gathered nonneg positive seek gather, rfl⟩

theorem size_does :
    Act.Does size held fun r es after =>
      ByteStream.WhileOpen (Link.Seeking 0 Origin.size.code) held.own.stream es r
        after.own.stream ∧ after.own.tally = held.own.tally := by
  unfold size onOwnStream
  refine Act.Does.onPart ((ByteStream.seek_does _ _ _).mono ?_)
  exact fun _ _ _ seek => ⟨seek, rfl⟩

theorem close_does :
    Act.Does close held fun r es after =>
      ByteStream.Closing held.own.stream es r after.own.stream ∧
      after.own.tally = held.own.tally := by
  unfold close onOwnStream
  refine Act.Does.onPart ((ByteStream.close_does _).mono ?_)
  exact fun _ _ _ closing => ⟨closing, rfl⟩

end WindowReader

end SessionStream
