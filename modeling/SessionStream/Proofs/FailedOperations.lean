import SessionStream.Proofs.Worlds

/-!
# Operations that fail

An operation that ends with a failure leaves the stream where it was: at the same position, in the
same phase, with the same control connection and session. Its data connection may have come or gone
on the way, and then it came for a transfer at that position, or went because its close failed. An
operation that is refused by a check of its own makes no call at all.

## Main definitions

- `ByteStream.Operation.transfers` — the operations that move payload
- `ByteStream.Refuses`, `Failure.isRefusal` — what the checks before every call refuse
- `ByteStream.PlaceKept`, `ByteStream.DataKept` — what a failed operation leaves behind
- `World.ReopensAt` — the next transfer is announced at a position

## Main results

- `World.place_kept_of_error` — every failed operation leaves the place of its stream intact
-/

namespace SessionStream

variable {c : ConnectionId} {es fs trace : List Event} {e : Failure}

/-- A call for payload that failed, or met the end of the stream. -/
inductive Event.Fruitless (c : ConnectionId) : Event → Prop
  | unreceived (limit : Nat) : Fruitless c (.receiveInto c limit none)
  | ended (limit : Nat) : Fruitless c (.receiveInto c limit (some []))
  | unsent (data : Bytes) : Fruitless c (.send c data none)

theorem Event.Fruitless.moves_nothing {event : Event} (h : event.Fruitless c) :
    SessionStream.received c [event] = [] ∧ SessionStream.accepted c [event] = [] := by
  cases h <;> simp [SessionStream.received, SessionStream.accepted, Event.received,
    Event.accepted]

/-- An exchange starts with its line. -/
theorem Wire.Exchanged.starts {line : Bytes} {r : Except Failure Bytes}
    (h : Wire.Exchanged c line es r) (hline : line ≠ []) :
    ∃ result later, es = .send c line result :: later := by
  have starts : ∀ {es : List Event} {r : Except Failure Unit}, Wire.Transmission c line es r →
      ∃ result later, es = .send c line result :: later := by
    intro es r sends
    cases sends with
    | done => exact absurd rfl hline
    | _ => exact ⟨_, _, rfl⟩
  cases h with
  | unsent sends => exact starts sends
  | sent sends =>
    obtain ⟨result, later, rfl⟩ := starts sends
    exact ⟨result, _, rfl⟩

/-- A failure of what was mapped is the failure of what it was mapped from. -/
theorem eq_error_of_map {α β : Type} {f : α → β} {r : Except Failure α}
    (h : Except.error e = r.map f) : r = .error e := by
  cases r with
  | ok => cases h
  | error => exact congrArg Except.error (Except.error.inj h).symm

namespace ByteStream

/-- The operations that move payload. -/
def Operation.transfers : Operation → Bool
  | .read size => wantedSize size ≠ 0
  | .receive _ => true
  | .write _ => true
  | _ => false

/-- What the checks of an operation refuse before its first call: to open a stream again or one that
names nothing, to use one that is not open, cannot be used or has the other direction, and a seek
from no known origin or to below the start. -/
def Refuses (stream : ByteStream) : Operation → Prop
  | .connect =>
    stream.phase ≠ .unopened ∨ ∃ e, stream.settings.target.address = .error e
  | .read size =>
    stream.phase ≠ .opened ∨ stream.outOfStep ≠ none ∨
      wantedSize size ≠ 0 ∧ stream.direction ≠ .read
  | .receive _ => stream.phase ≠ .opened ∨ stream.outOfStep ≠ none ∨ stream.direction ≠ .read
  | .write _ => stream.phase ≠ .opened ∨ stream.outOfStep ≠ none ∨ stream.direction ≠ .write
  | .seek offset code =>
    stream.phase ≠ .opened ∨ stream.outOfStep ≠ none ∨ Origin.ofCode? code = none ∨
      code = Origin.start.code ∧ offset < 0 ∨
      code = Origin.current.code ∧ stream.position + offset < 0
  | .stat => stream.phase ≠ .opened ∨ stream.outOfStep ≠ none
  | .descriptor => stream.phase ≠ .opened
  | _ => False

end ByteStream

/-- The failures of these checks. A position below the start is one of them only for a seek that
does not ask for the size first. -/
def Failure.isRefusal (operation : ByteStream.Operation) : Failure → Bool
  | alreadyOpened _ => true
  | emptyTarget => true
  | unencodable .. => true
  | notOpen _ => true
  | unusable _ => true
  | openedFor _ => true
  | unknownOrigin _ => true
  | negativePosition _ =>
    match operation with
    | .seek _ code => code ≠ Origin.finish.code
    | _ => false
  | _ => false

theorem Failure.not_isRefusal_of_ofCall {operation : ByteStream.Operation} (h : e.ofCall = true) :
    e.isRefusal operation = false := by
  cases e <;> first | rfl | cases h

-- ════════════════════════════════════════════════════════════════════════
-- Open streams
-- ════════════════════════════════════════════════════════════════════════

namespace Link

variable {link mid after : Link}

/-- A data connection that a failed operation has made: it is for a transfer at the position of the
stream, no payload has crossed it, and the last call was one on it that moved none. -/
structure Renewed (link : Link) (c : ConnectionId) (es trace : List Event) : Prop where
  without : link.data = none
  made : c ∈ opened es
  announced : transferOn link.control c trace = some (link.session.direction, link.position)
  unmoved : received c trace = [] ∧ payload c trace = []
  failed : ∃ event, es.getLast? = some event ∧ event.Fruitless c

/-- A data connection that a failed operation has dropped: the last call was its close. -/
structure Dropped (link : Link) (c : ConnectionId) (es : List Event) : Prop where
  had : link.data = some c
  unclosed : es.getLast? = some (.close c none)

theorem Connecting.data_of_error (h : Connecting link es (.error e) after) :
    after.data = link.data := by
  cases h with
  | unheard =>
    obtain ⟨outOfStep, hafter, -⟩ := afterExchange_eq link (.error e)
    rw [hafter]
  | _ => rfl

theorem Stating.keepsPlace {r : Except Failure Int} (h : Stating link es r after) :
    after.position = link.position ∧ after.data = link.data := by
  cases h with
  | unusable => exact ⟨rfl, rfl⟩
  | @exchanged _ heard =>
    obtain ⟨outOfStep, hafter, -⟩ := afterExchange_eq link heard
    rw [hafter]
    exact ⟨rfl, rfl⟩

/-- A new data connection stays made for the position while no payload crosses it. -/
theorem Connecting.announced (h : Connecting link es (.ok c) after) (without : link.data = none)
    (usable : link.outOfStep = none) (orderly : Orderly trace) (sound : link.Sound trace)
    (nodup : (opened (trace ++ es)).Nodup) (fs : List Event) :
    transferOn link.control c (trace ++ (es ++ fs)) =
      some (link.session.direction, link.position) := by
  obtain ⟨-, -, -, -, carries⟩ := h.carries without usable orderly sound nodup
  rw [← List.append_assoc, transferOn_append carries.mem_opened, carries.transfer]

/-- Behind a call for payload that came to nothing, the data connection is the one from before, or
new. -/
theorem Connecting.fruitless {event : Event} (h : Connecting link es (.ok c) after)
    (fruitless : event.Fruitless c) (usable : link.outOfStep = none) (orderly : Orderly trace)
    (sound : link.Sound trace) (nodup : (opened (trace ++ (es ++ [event]))).Nodup) :
    after.data = link.data ∨
      after.data = some c ∧ link.Renewed c (es ++ [event]) (trace ++ (es ++ [event])) := by
  rw [← List.append_assoc] at nodup
  have nodup := nodup_opened_left nodup
  have announced := fun without => h.announced without usable orderly sound nodup [event]
  cases has : link.data with
  | some k =>
    cases h with
    | kept => exact .inl has
    | joined without =>
      rw [has] at without
      cases without
  | none =>
    obtain ⟨same, made, -, -, carries⟩ := h.carries has usable orderly sound nodup
    obtain ⟨unread, unsent⟩ := fruitless.moves_nothing
    have empty := carries.position_eq
    refine .inr ⟨by rw [same], has, mem_opened_append made _, announced has, ⟨?_, ?_⟩, event, ?_,
      fruitless⟩
    · rw [← List.append_assoc, received_append, unread, List.append_nil]
      exact List.length_eq_zero_iff.1 (by omega)
    · rw [← List.append_assoc, carries.payload_append, unsent, List.append_nil]
      exact List.length_eq_zero_iff.1 (by omega)
    · exact List.getLast?_concat

theorem Receiving.fails {limit : Nat} (h : Receiving limit link es (.error e) after)
    (orderly : Orderly trace) (sound : link.Sound trace) (nodup : (opened (trace ++ es)).Nodup) :
    after.position = link.position ∧ (after.data = link.data ∨
      ∃ c, after.data = some c ∧ link.Renewed c es (trace ++ es)) := by
  generalize hr : (Except.error e : Except Failure Bytes) = r at h
  cases h with
  | unusable => exact ⟨rfl, .inl rfl⟩
  | misdirected => exact ⟨rfl, .inl rfl⟩
  | received => cases hr
  | unconnected _ _ connect => exact ⟨connect.position_eq, .inl connect.data_of_error⟩
  | failed _ usable _ connect =>
    refine ⟨connect.position_eq, ?_⟩
    exact (connect.fruitless (.unreceived limit) usable orderly sound nodup).imp_right fun new =>
      ⟨_, new⟩
  | ended usable _ connect =>
    refine ⟨connect.position_eq, ?_⟩
    exact (connect.fruitless (.ended limit) usable orderly sound nodup).imp_right
      fun new => ⟨_, new⟩

theorem Writing.fails {data : Bytes} (h : Writing data link es (.error e) after)
    (orderly : Orderly trace) (sound : link.Sound trace) (nodup : (opened (trace ++ es)).Nodup) :
    after.position = link.position ∧ (after.data = link.data ∨
      ∃ c, after.data = some c ∧ link.Renewed c es (trace ++ es)) := by
  cases h with
  | unusable => exact ⟨rfl, .inl rfl⟩
  | misdirected => exact ⟨rfl, .inl rfl⟩
  | unconnected _ _ connect => exact ⟨connect.position_eq, .inl connect.data_of_error⟩
  | failed _ usable _ connect =>
    refine ⟨connect.position_eq, ?_⟩
    exact (connect.fruitless (.unsent data) usable orderly sound nodup).imp_right fun new =>
      ⟨_, new⟩

/-- A failure of a read is not the end of the stream. -/
theorem eq_error_of_withoutEnd {r : Except Failure Bytes} (h : withoutEnd r = .error e) :
    r = .error e := by
  unfold withoutEnd at h
  split at h
  · cases h
  · exact h

theorem Moving.fails {target : Int} (h : Moving target link es (.error e) after) :
    after.position = link.position ∧ (after.data = link.data ∨
      ∃ c, after.data = none ∧ link.Dropped c es) := by
  cases h with
  | negative => exact ⟨rfl, .inl rfl⟩
  | unclosed _ _ _ has => exact ⟨rfl, .inr ⟨_, rfl, has, rfl⟩⟩

theorem Seeking.fails {offset code : Int} (h : Seeking offset code link es (.error e) after) :
    after.position = link.position ∧ (after.data = link.data ∨
      ∃ c, after.data = none ∧ link.Dropped c es) := by
  generalize hr : (Except.error e : Except Failure Int) = r at h
  cases h with
  | unusable => exact ⟨rfl, .inl rfl⟩
  | unknown => exact ⟨rfl, .inl rfl⟩
  | size _ _ stat => exact stat.keepsPlace.imp_right .inl
  | start _ _ move => exact (eq_error_of_map hr ▸ move).fails
  | current _ _ move => exact (eq_error_of_map hr ▸ move).fails
  | unsized _ _ stat => exact stat.keepsPlace.imp_right .inl
  | negativeSize _ _ stat => exact stat.keepsPlace.imp_right .inl
  | finish _ _ stat _ move =>
    obtain ⟨position, data⟩ := stat.keepsPlace
    obtain ⟨same, kept | ⟨c, without, had, unclosed⟩⟩ := (eq_error_of_map hr ▸ move).fails
    · exact ⟨same.trans position, .inl (kept.trans data)⟩
    · refine ⟨same.trans position, .inr ⟨c, without, data.symm.trans had, ?_⟩⟩
      rw [List.getLast?_append, unclosed, Option.some_or]

-- ════════════════════════════════════════════════════════════════════════
-- Refusals of open streams
-- ════════════════════════════════════════════════════════════════════════

variable {operation : ByteStream.Operation}

/-- A failure that an exchange brought about is none of the checks. -/
theorem not_isRefusal_of_exchanged {line : Bytes} (h : Wire.Exchanged c line es (.error e)) :
    e.isRefusal operation = false := by
  rcases h.ofCall with rfl | called
  · rfl
  · exact Failure.not_isRefusal_of_ofCall called

theorem Stating.silent (h : Stating link es (.error e) after)
    (refused : link.outOfStep ≠ none ∨ e.isRefusal operation = true) : es = [] := by
  generalize hr : (Except.error e : Except Failure Int) = r at h
  cases h with
  | unusable => rfl
  | @exchanged _ heard usable exchange =>
    have refusal := refused.resolve_left fun broken => broken usable
    cases heard with
    | error e' =>
      obtain rfl : e = e' := Except.error.inj hr
      rw [not_isRefusal_of_exchanged exchange] at refusal
      cases refusal
    | ok line =>
      have hr : Except.error e = Reply.size (asciiText line) := hr
      unfold Reply.size at hr
      split at hr
      · cases hr
        cases refusal
      · split at hr <;> cases hr
        cases refusal

theorem Connecting.silent (h : Connecting link es (.error e) after)
    (refusal : e.isRefusal operation = true) : es = [] := by
  cases h with
  | unwritable => rfl
  | unheard _ exchange =>
    rw [not_isRefusal_of_exchanged exchange] at refusal
    cases refusal
  | rejected => cases refusal
  | unjoined _ _ _ join =>
    rw [Failure.not_isRefusal_of_ofCall join.ofCall] at refusal
    cases refusal

theorem Receiving.silent {limit : Nat} (h : Receiving limit link es (.error e) after)
    (refused : link.outOfStep ≠ none ∨ link.session.direction ≠ .read ∨
      e.isRefusal operation = true) : es = [] := by
  have refusal : link.outOfStep = none → link.session.direction = .read →
      e.isRefusal operation = true := fun usable reads =>
    (refused.resolve_left fun broken => broken usable).resolve_left fun writes => writes reads
  generalize hr : (Except.error e : Except Failure Bytes) = r at h
  cases h with
  | unusable => rfl
  | misdirected => rfl
  | received => cases hr
  | unconnected usable reads connect =>
    cases hr
    exact connect.silent (refusal usable reads)
  | failed _ usable reads =>
    cases hr
    cases refusal usable reads
  | ended usable reads =>
    have refusal := refusal usable reads
    rw [Except.error.inj hr, endOfStream] at refusal
    rcases Failure.quoting_eq after.position (.streamEnded after.position) with same | same <;>
      rw [same] at refusal <;> cases refusal

theorem Writing.silent {data : Bytes} (h : Writing data link es (.error e) after)
    (refused : link.outOfStep ≠ none ∨ link.session.direction ≠ .write ∨
      e.isRefusal operation = true) : es = [] := by
  have refusal : link.outOfStep = none → link.session.direction = .write →
      e.isRefusal operation = true := fun usable writes =>
    (refused.resolve_left fun broken => broken usable).resolve_left fun reads => reads writes
  cases h with
  | unusable => rfl
  | misdirected => rfl
  | unconnected usable writes connect => exact connect.silent (refusal usable writes)
  | failed _ usable writes => cases refusal usable writes

/-- A seek from a known origin of a stream in step is refused only for where it would land. -/
theorem below_of_refuses {offset code : Int} {origin : Origin} (usable : link.outOfStep = none)
    (known : Origin.ofCode? code = some origin)
    (refused : (ByteStream.opened link).Refuses (.seek offset code)) :
    origin = .start ∧ offset < 0 ∨ origin = .current ∧ link.position + offset < 0 := by
  rcases refused with notOpen | broken | unknown | ⟨rfl, below⟩ | ⟨rfl, below⟩
  · exact absurd rfl notOpen
  · exact absurd usable broken
  · rw [unknown] at known
    cases known
  · exact .inl ⟨(Option.some.inj known).symm, below⟩
  · exact .inr ⟨(Option.some.inj known).symm, below⟩

theorem Moving.silent {target : Int} (h : Moving target link es (.error e) after)
    (refused : target < 0 ∨ e.isRefusal operation = true) : es = [] := by
  cases h with
  | negative => rfl
  | unclosed _ there =>
    rcases refused with below | refusal
    · omega
    · cases refusal

theorem Seeking.silent {offset code : Int} (h : Seeking offset code link es (.error e) after)
    (refused : (ByteStream.opened link).Refuses (.seek offset code) ∨
      e.isRefusal (.seek offset code) = true) : es = [] := by
  generalize hr : (Except.error e : Except Failure Int) = r at h
  cases h with
  | unusable => rfl
  | unknown => rfl
  | size usable origin stat =>
    subst hr
    refine stat.silent (.inr (refused.resolve_left fun refuses => ?_))
    obtain ⟨⟨⟩, -⟩ | ⟨⟨⟩, -⟩ := below_of_refuses usable origin refuses
  | start usable origin move =>
    refine (eq_error_of_map hr ▸ move).silent (refused.imp_left fun refuses => ?_)
    obtain ⟨-, below⟩ | ⟨⟨⟩, -⟩ := below_of_refuses usable origin refuses
    exact below
  | current usable origin move =>
    refine (eq_error_of_map hr ▸ move).silent (refused.imp_left fun refuses => ?_)
    obtain ⟨⟨⟩, -⟩ | ⟨-, below⟩ := below_of_refuses usable origin refuses
    exact below
  | unsized usable origin stat =>
    cases hr
    refine stat.silent (.inr (refused.resolve_left fun refuses => ?_))
    obtain ⟨⟨⟩, -⟩ | ⟨⟨⟩, -⟩ := below_of_refuses usable origin refuses
  | negativeSize usable origin =>
    cases hr
    have refusal := refused.resolve_left fun refuses => by
      obtain ⟨⟨⟩, -⟩ | ⟨⟨⟩, -⟩ := below_of_refuses usable origin refuses
    cases refusal
  | finish usable origin _ _ move =>
    have refusal := refused.resolve_left fun refuses => by
      obtain ⟨⟨⟩, -⟩ | ⟨⟨⟩, -⟩ := below_of_refuses usable origin refuses
    have code := Origin.ofCode?_eq_some_iff.1 origin
    have move := eq_error_of_map hr ▸ move
    cases move with
    | negative =>
      rcases Failure.quoting_eq _ _ with same | same <;> rw [same] at refusal
      · simp [Failure.isRefusal, code] at refusal
      · cases refusal
    | unclosed => cases refusal

-- ════════════════════════════════════════════════════════════════════════
-- The next transfer
-- ════════════════════════════════════════════════════════════════════════

/-- The calls of a transfer without a data connection: none, or they start with the announcement of
a transfer at the position, and a data connection that is there afterwards was made for it. -/
def Reopens (link : Link) (es trace : List Event) (data : Option ConnectionId) : Prop :=
  es = [] ∨ (∃ result later, es = .send link.control link.announcement.line result :: later) ∧
    ∀ c, data = some c →
      transferOn link.control c trace = some (link.session.direction, link.position)

theorem Connecting.starts {r : Except Failure ConnectionId} (h : Connecting link es r after)
    (without : link.data = none) :
    (es = [] ∧ ∃ e, r = .error e) ∨
      ∃ result later, es = .send link.control link.announcement.line result :: later := by
  have starts : ∀ {es fs : List Event} {heard : Except Failure Bytes},
      Wire.Exchanged link.control link.announcement.line es heard →
      ∃ result later, es ++ fs = .send link.control link.announcement.line result :: later := by
    intro es fs heard exchange
    obtain ⟨result, later, rfl⟩ := exchange.starts (Command.line_ne_nil _)
    exact ⟨result, later ++ fs, rfl⟩
  cases h with
  | kept has =>
    rw [without] at has
    cases has
  | unwritable => exact .inl ⟨rfl, _, rfl⟩
  | unheard _ exchange => exact .inr (List.append_nil es ▸ starts exchange)
  | rejected _ exchange => exact .inr (List.append_nil es ▸ starts exchange)
  | unjoined _ exchange => exact .inr (starts exchange)
  | joined _ exchange => exact .inr (starts exchange)

theorem Connecting.reopens_of_error (h : Connecting link es (.error e) after)
    (without : link.data = none) : link.Reopens es trace after.data := by
  refine (h.starts without).imp And.left fun starts => ⟨starts, fun c has => ?_⟩
  rw [h.data_of_error, without] at has
  cases has

theorem Connecting.reopens (h : Connecting link es (.ok c) after) (without : link.data = none)
    (usable : link.outOfStep = none) (orderly : Orderly trace) (sound : link.Sound trace)
    (nodup : (opened (trace ++ (es ++ fs))).Nodup) :
    link.Reopens (es ++ fs) (trace ++ (es ++ fs)) after.data := by
  rw [← List.append_assoc] at nodup
  refine (h.starts without).elim (fun none => nomatch none.2) fun starts => .inr ⟨?_, ?_⟩
  · obtain ⟨result, later, rfl⟩ := starts
    exact ⟨result, later ++ fs, rfl⟩
  · intro c' has
    obtain rfl : c = c' := Option.some.inj (h.data_eq.symm.trans has)
    exact h.announced without usable orderly sound (nodup_opened_left nodup) fs

theorem Receiving.reopens {limit : Nat} {r : Except Failure Bytes}
    (h : Receiving limit link es r after) (without : link.data = none) (orderly : Orderly trace)
    (sound : link.Sound trace) (nodup : (opened (trace ++ es)).Nodup) :
    link.Reopens es (trace ++ es) after.data := by
  cases h with
  | unusable => exact .inl rfl
  | misdirected => exact .inl rfl
  | unconnected _ _ connect => exact connect.reopens_of_error without
  | failed _ usable _ connect => exact connect.reopens without usable orderly sound nodup
  | ended usable _ connect => exact connect.reopens without usable orderly sound nodup
  | received usable _ connect => exact connect.reopens without usable orderly sound nodup

theorem Writing.reopens {data : Bytes} {r : Except Failure Nat} (h : Writing data link es r after)
    (without : link.data = none) (orderly : Orderly trace) (sound : link.Sound trace)
    (nodup : (opened (trace ++ es)).Nodup) : link.Reopens es (trace ++ es) after.data := by
  cases h with
  | unusable => exact .inl rfl
  | misdirected => exact .inl rfl
  | unconnected _ _ connect => exact connect.reopens_of_error without
  | failed _ usable _ connect => exact connect.reopens without usable orderly sound nodup
  | sent usable _ connect => exact connect.reopens without usable orderly sound nodup

end Link

-- ════════════════════════════════════════════════════════════════════════
-- Streams
-- ════════════════════════════════════════════════════════════════════════

namespace ByteStream

variable {stream after : ByteStream} {operation : Operation}

/-- What a failed operation leaves as it was. -/
structure PlaceKept (stream after : ByteStream) : Prop where
  position : after.position = stream.position
  phase : after.phase = stream.phase
  control : after.control = stream.control
  session : stream.session.assigned = true → after.session = stream.session

/-- What a failed operation leaves of the data connection: the same; or a new one where there was
none, if the transfer itself came to nothing; or none, if a seek could not close it. -/
inductive DataKept (operation : Operation) (es trace : List Event) (stream after : ByteStream) :
    Prop
  | same (data : after.data = stream.data)
  | renewed {link : Link} {c : ConnectionId} (transfers : operation.transfers = true)
      (isOpen : stream = .opened link) (renewed : link.Renewed c es trace)
      (has : after.data = some c)
  | dropped {link : Link} {c : ConnectionId} {offset code : Int}
      (seeks : operation = .seek offset code) (isOpen : stream = .opened link)
      (dropped : link.Dropped c es) (without : after.data = none)

theorem PlaceKept.refl (stream : ByteStream) : PlaceKept stream stream :=
  ⟨rfl, rfl, rfl, fun _ => rfl⟩

/-- An operation that only an open stream has keeps its place if it does so on an open one. -/
theorem WhileOpen.keepsPlace {α : Type}
    {does : Link → List Event → Except Failure α → Link → Prop}
    (h : WhileOpen does stream es (.error e) after)
    (hdoes : ∀ {link link'}, stream = .opened link → does link es (.error e) link' →
      (∃ ps, link.Moves es ps link') ∧ link'.position = link.position ∧
        DataKept operation es trace (.opened link) (.opened link')) :
    PlaceKept stream after ∧ DataKept operation es trace stream after := by
  generalize hr : (Except.error e : Except Failure α) = r at h
  cases h with
  | refused => exact ⟨.refl _, .same rfl⟩
  | done operates =>
    obtain ⟨⟨ps, moves⟩, position, data⟩ := hdoes rfl (hr ▸ operates)
    exact ⟨⟨position, rfl, congrArg some moves.keeps.1, moves.settled.2⟩, data⟩

/-- A transfer that failed: its data connection is the one from before, or new. -/
theorem dataKept_of_transfer {link link' : Link} (transfers : operation.transfers = true)
    (h : link'.data = link.data ∨ ∃ c, link'.data = some c ∧ link.Renewed c es trace) :
    DataKept operation es trace (.opened link) (.opened link') := by
  rcases h with same | ⟨c, has, renewed⟩
  · exact .same same
  · exact .renewed transfers rfl renewed has

theorem Opening.keepsPlace (h : Opening stream es (.error e) after) :
    PlaceKept stream after ∧ after.data = stream.data := by
  cases h with
  | again => exact ⟨.refl _, rfl⟩
  | unlocated => exact ⟨.refl _, rfl⟩
  | unjoined _ join => exact ⟨⟨rfl, rfl, rfl, join.eq_of_assigned⟩, rfl⟩

theorem Performing.keepsPlace (h : Performing operation stream es (.error e) after)
    (goesOn : operation ≠ .close) (orderly : Orderly trace) (sound : stream.Sound trace)
    (nodup : (SessionStream.opened (trace ++ es)).Nodup) :
    PlaceKept stream after ∧ DataKept operation es (trace ++ es) stream after := by
  generalize hr : (Except.error e : Except Failure Answer) = r at h
  cases h with
  | connect opening =>
    obtain ⟨place, data⟩ := (eq_error_of_map hr ▸ opening).keepsPlace
    exact ⟨place, .same data⟩
  | unroomy => exact ⟨.refl _, .same rfl⟩
  | read reading =>
    refine (eq_error_of_map hr ▸ reading).keepsPlace fun isOpen reads => ?_
    obtain ⟨ps, moves, -⟩ := reads.moves
    refine ⟨⟨ps, moves⟩, ?_⟩
    generalize hr' : (Except.error e : Except Failure Bytes) = r' at reads
    cases reads with
    | unusable => exact ⟨rfl, .same rfl⟩
    | nothing => cases hr'
    | once positive receives =>
      obtain ⟨position, data⟩ := (Link.eq_error_of_withoutEnd hr'.symm ▸ receives).fails orderly
        (sound _ isOpen) nodup
      exact ⟨position, dataKept_of_transfer (decide_eq_true positive) data⟩
  | receive receiving =>
    refine (eq_error_of_map hr ▸ receiving).keepsPlace fun isOpen receives => ?_
    obtain ⟨ps, moves, -⟩ := receives.moves
    obtain ⟨position, data⟩ := receives.fails orderly (sound _ isOpen) nodup
    exact ⟨⟨ps, moves⟩, position, dataKept_of_transfer rfl data⟩
  | write writing =>
    refine (eq_error_of_map hr ▸ writing).keepsPlace fun isOpen writes => ?_
    obtain ⟨ps, moves, -⟩ := writes.moves
    obtain ⟨position, data⟩ := writes.fails orderly (sound _ isOpen) nodup
    exact ⟨⟨ps, moves⟩, position, dataKept_of_transfer rfl data⟩
  | seek seeking =>
    refine (eq_error_of_map hr ▸ seeking).keepsPlace fun _ seeks => ?_
    obtain ⟨position, same | ⟨c, without, dropped⟩⟩ := seeks.fails
    · exact ⟨⟨[], seeks.moves⟩, position, .same same⟩
    · exact ⟨⟨[], seeks.moves⟩, position, .dropped rfl rfl dropped without⟩
  | stat stating =>
    refine (eq_error_of_map hr ▸ stating).keepsPlace fun _ states => ?_
    obtain ⟨position, data⟩ := states.keepsPlace
    exact ⟨⟨[], (Link.Move.stating states).moves⟩, position, .same data⟩
  | position => cases hr
  | descriptor describing =>
    exact (eq_error_of_map hr ▸ describing).keepsPlace fun _ describes => nomatch describes.2.1
  | inspect => cases hr
  | close => exact absurd rfl goesOn

theorem Opening.silent (h : Opening stream es (.error e) after)
    (refused : stream.Refuses .connect ∨ e.isRefusal .connect = true) : es = [] := by
  cases h with
  | again => rfl
  | unlocated => rfl
  | unjoined target join =>
    rcases refused with (before | ⟨e, nowhere⟩) | refusal
    · exact absurd rfl before
    · cases target.symm.trans nowhere
    · rw [Failure.not_isRefusal_of_ofCall join.ofCall] at refusal
      cases refusal

/-- An operation that only an open stream has makes no call on any other. -/
theorem WhileOpen.silent {α : Type} {does : Link → List Event → Except Failure α → Link → Prop}
    (h : WhileOpen does stream es (.error e) after)
    (hdoes : ∀ {link link'}, stream = .opened link → does link es (.error e) link' → es = []) :
    es = [] := by
  generalize hr : (Except.error e : Except Failure α) = r at h
  cases h with
  | refused => rfl
  | done operates => exact hdoes rfl (hr ▸ operates)

/-- An operation that one of its checks refuses makes no call. -/
theorem Performing.silent (h : Performing operation stream es (.error e) after)
    (goesOn : operation ≠ .close)
    (refused : stream.Refuses operation ∨ e.isRefusal operation = true) : es = [] := by
  -- The checks of an open stream are those of its link.
  have checks : ∀ {p q : Prop} {link : Link}, stream = .opened link →
      (stream.phase ≠ .opened ∨ p) ∨ q → p ∨ q := by
    rintro p q link rfl refused
    exact refused.imp_left fun refuses => refuses.resolve_left fun notOpen => notOpen rfl
  generalize hr : (Except.error e : Except Failure Answer) = r at h
  cases h with
  | connect opening => exact (eq_error_of_map hr ▸ opening).silent refused
  | unroomy => rfl
  | read reading =>
    refine (eq_error_of_map hr ▸ reading).silent fun isOpen reads => ?_
    have refused := checks isOpen refused
    subst isOpen
    generalize hr' : (Except.error e : Except Failure Bytes) = r' at reads
    cases reads with
    | unusable => rfl
    | nothing => rfl
    | once _ receives =>
      have refused := (or_assoc.1 refused).imp_right fun rest => rest.imp_left And.right
      exact (Link.eq_error_of_withoutEnd hr'.symm ▸ receives).silent refused
  | receive receiving =>
    refine (eq_error_of_map hr ▸ receiving).silent fun isOpen receives => ?_
    have refused := checks isOpen refused
    subst isOpen
    exact receives.silent (or_assoc.1 refused)
  | write writing =>
    refine (eq_error_of_map hr ▸ writing).silent fun isOpen writes => ?_
    have refused := checks isOpen refused
    subst isOpen
    exact writes.silent (or_assoc.1 refused)
  | seek seeking =>
    refine (eq_error_of_map hr ▸ seeking).silent fun isOpen seeks => ?_
    subst isOpen
    exact seeks.silent refused
  | stat stating =>
    refine (eq_error_of_map hr ▸ stating).silent fun isOpen states => ?_
    have refused := checks isOpen refused
    subst isOpen
    exact states.silent refused
  | position => rfl
  | descriptor describing =>
    exact (eq_error_of_map hr ▸ describing).silent fun _ describes => describes.1
  | inspect => rfl
  | close => exact absurd rfl goesOn

/-- A transfer of a stream without a data connection is announced before anything else. -/
theorem Performing.reopens {r : Except Failure Answer} (h : Performing operation stream es r after)
    (transfers : operation.transfers = true) (without : stream.data = none)
    (orderly : Orderly trace) (sound : stream.Sound trace)
    (nodup : (SessionStream.opened (trace ++ es)).Nodup) :
    es = [] ∨ ∃ link, stream = .opened link ∧ link.Reopens es (trace ++ es) after.data := by
  cases h with
  | unroomy => exact .inl rfl
  | read reading =>
    cases reading with
    | refused => exact .inl rfl
    | done reads =>
      cases reads with
      | unusable => exact .inl rfl
      | nothing => exact .inl rfl
      | once _ receives =>
        exact .inr ⟨_, rfl, receives.reopens without orderly (sound _ rfl) nodup⟩
  | receive receiving =>
    cases receiving with
    | refused => exact .inl rfl
    | done receives => exact .inr ⟨_, rfl, receives.reopens without orderly (sound _ rfl) nodup⟩
  | write writing =>
    cases writing with
    | refused => exact .inl rfl
    | done writes => exact .inr ⟨_, rfl, writes.reopens without orderly (sound _ rfl) nodup⟩
  | _ => cases transfers

end ByteStream

namespace World

variable {world next : World} {number : Nat} {operation : ByteStream.Operation}

/-- The next transfer of the stream, if there is any call in it, is announced at this position
before anything else, and a data connection that the stream holds afterwards was made for it. -/
def ReopensAt (number position : Nat) (world : World) : Prop :=
  ∀ stream, world.streams[number]? = some stream → ∀ operation, operation.transfers = true →
    let next := (World.step (.onStream number operation) world).2
    next.trace = world.trace ∨ ∃ control result later, stream.control = some control ∧
      next.trace = world.trace ++
        .send control (Command.transfer stream.direction position).line result :: later ∧
      ∀ stream' c, next.streams[number]? = some stream' → stream'.data = some c →
        transferOn control c next.trace = some (stream.direction, position)

/-- A stream without a data connection makes its next one for a transfer at its position. -/
theorem Sound.reopensAt (sound : world.Sound) {stream : ByteStream}
    (has : world.streams[number]? = some stream) (without : stream.data = none) :
    ReopensAt number stream.position world := by
  intro stream' has' operation transfers
  obtain rfl := Option.some.inj (has.symm.trans has')
  intro next
  obtain ⟨es, grows, turn⟩ := step_turn (.onStream number operation) world
  obtain ⟨after, performs, becomes⟩ := turn.performs has
  obtain ⟨htrace, nodup⟩ := sound.extends grows
  have htrace : next.trace = world.trace ++ es := htrace
  rcases performs.reopens transfers without sound.orderly (sound.streams _ _ has) nodup with
    rfl | ⟨link, rfl, rfl | ⟨⟨result, later, starts⟩, made⟩⟩
  · exact .inl (htrace.trans (List.append_nil _))
  · exact .inl (htrace.trans (List.append_nil _))
  · refine .inr ⟨link.control, result, later, rfl, by rw [htrace, starts]; rfl, ?_⟩
    intro stream' c has holds
    obtain rfl := Option.some.inj (becomes.symm.trans has)
    rw [htrace]
    exact made c holds

/-- **Failed operations leave the place of a stream intact.** In every state that a run reaches, an
operation of a stream that is no close and ends with a failure leaves the position, the phase, the
control connection and an assigned session as they were. It leaves the data connection as it was,
but for two cases: a transfer that itself came to nothing may have made one where there was none,
for a transfer at that position, and no payload has crossed it; and a seek that could not close the
data connection leaves none. Whenever there is none, the next transfer is announced at that
position. If a check of the operation refused it, there was no call at all. -/
theorem place_kept_of_error {firstId : Int} {waiting : List Peer}
    (start : begin firstId waiting = .ok world) (before : List Step) {stream : ByteStream}
    (has : (after before world).streams[number]? = some stream) {e : Failure}
    (raised : (World.step (.onStream number operation) (after before world)).1 = .error e)
    (goesOn : operation ≠ .close) :
    let next := after (before ++ [.onStream number operation]) world
    ∃ stream' calls, next.streams[number]? = some stream' ∧
      next.trace = (after before world).trace ++ calls ∧ stream.PlaceKept stream' ∧
      stream.DataKept operation calls next.trace stream' ∧
      (stream'.data = none → ReopensAt number stream.position next) ∧
      (stream.Refuses operation ∨ e.isRefusal operation = true → calls = []) := by
  intro next
  have sound := sound_after before (sound_begin start)
  have hnext : next = (World.step (.onStream number operation) (after before world)).2 :=
    after_append ..
  obtain ⟨es, grows, turn⟩ := step_turn (.onStream number operation) (after before world)
  rw [← hnext] at grows turn
  obtain ⟨htrace, nodup⟩ := sound.extends grows
  obtain ⟨stream', performs, becomes⟩ := turn.performs has
  rw [raised] at performs
  obtain ⟨place, data⟩ :=
    performs.keepsPlace goesOn sound.orderly (sound.streams _ _ has) nodup
  refine ⟨stream', es, becomes, htrace, place, htrace ▸ data, fun without => ?_,
    performs.silent goesOn⟩
  rw [← place.position]
  exact (turn.sound grows sound).reopensAt becomes without

/-- The first receive on a new data connection takes too long. The connection stays. -/
theorem place_kept_of_error_late :
    let settings : Settings := { target := "/run/letters", route := ⟨.direct, .given⟩ }
    let waiting : List Peer := [{ incoming := [.bytes (utf8 "ok\n")] },
      { incoming := [.fault (.timeout "timed out")] }]
    let world : World := { host := { network := { waiting } } }
    let before : List Step := [.start settings "r"]
    let next := after (before ++ [.onStream 0 (.receive 2)]) world
    (World.step (.onStream 0 (.receive 2)) (after before world)).1 =
        .error (.fault (.timeout "timed out")) ∧
      ∃ stream stream' calls, (after before world).streams[0]? = some stream ∧
        next.streams[0]? = some stream' ∧ stream.PlaceKept stream' ∧
        stream.DataKept (.receive 2) calls next.trace stream' ∧
        stream.data = none ∧ stream'.data = some ⟨1⟩ := by
  intro settings waiting world before next
  have start : begin 1 waiting = .ok world := rfl
  have raised : (World.step (.onStream 0 (.receive 2)) (after before world)).1 =
      .error (.fault (.timeout "timed out")) := by decide +kernel
  have without : ∀ stream ∈ (after before world).streams, stream.data = none := by decide +kernel
  have holds : ∀ stream ∈ next.streams, stream.data = some ⟨1⟩ := by decide +kernel
  have inside : 0 < (after before world).streams.length := by decide +kernel
  have has := List.getElem?_eq_getElem inside
  obtain ⟨stream', calls, becomes, -, place, data, -⟩ :=
    place_kept_of_error start before has raised (by decide)
  exact ⟨raised, _, stream', calls, has, becomes, place, data,
    without _ (List.mem_of_getElem? has), holds _ (List.mem_of_getElem? becomes)⟩

end World

end SessionStream
