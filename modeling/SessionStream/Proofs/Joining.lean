import SessionStream.Proofs.LineExchange

/-!
# The events of joining a session

Making a connection for a session takes three parts: reaching the address, putting the connection
into blocking mode, and the line that binds it to the session. The relations here list what each
part can do, so that a failed attempt is described as exactly as one that succeeds.

## Main definitions

- `GivenUp` — what happens to a connection whose making failed
- `Dialing` — how a connection comes about
- `Session.Introduced` — the command for the next connection, and the session after it
- `Session.Joining` — all of it
- `Failure.ofCall` — the failures that calls on the network bring about
- `Act.KeepsIds` — an action takes no id from a counter
- `Session.Numbering` — what an attempt does to the counter of ids
-/

namespace SessionStream

/-- A connection on which a step ended with `cause`. After a system failure it is closed and
`final` is passed on, or the failure of that close. Any other failure leaves it open. -/
inductive GivenUp (c : ConnectionId) (cause final : Failure) : List Event → Failure → Prop
  | closed (system : cause.isSystem = true) : GivenUp c cause final [.close c (some ())] final
  | closeFailed (system : cause.isSystem = true) (fault : Fault) :
      GivenUp c cause final [.close c none] (.fault fault)
  | left (misuse : cause.isSystem = false) : GivenUp c cause final [] cause

/-- The calls that reach an address, and how they end. -/
inductive Dialing (address : Address) (timeout : Int) :
    Dialer → List Event → Except Failure ConnectionId → Prop
  | connected (c : ConnectionId) :
      Dialing address timeout .direct [.connect address.target timeout (some c)] (.ok c)
  | refused (fault : Fault) :
      Dialing address timeout .direct [.connect address.target timeout none] (.error (.fault fault))
  | noSocket {range : Timeout.Range} (fault : Fault) :
      Dialing address timeout (.socket range) [.socket none]
        (.error (if fault.isSystem then .noSocket (.fault fault) else .fault fault))
  | unsettable {range : Timeout.Range} (c : ConnectionId)
      (large : ¬Timeout.Representable timeout) :
      Dialing address timeout (.socket range) [.socket (some c)] (.error .timeoutTooLarge)
  | unset {range : Timeout.Range} (c : ConnectionId) {e : Failure}
      (small : Timeout.Representable timeout) (refused : range.refusal? timeout = some e) :
      Dialing address timeout (.socket range) [.socket (some c), .setTimeout c timeout none]
        (.error e)
  | socketConnected {range : Timeout.Range} (c : ConnectionId)
      (settable : Timeout.Settable range timeout) :
      Dialing address timeout (.socket range)
        [.socket (some c), .setTimeout c timeout (some ()),
          .connectSocket c address.socketName (some ())]
        (.ok c)
  | socketRefused {range : Timeout.Range} (c : ConnectionId)
      (settable : Timeout.Settable range timeout) (fault : Fault) {fs : List Event} {e : Failure}
      (gone : GivenUp c (.fault fault) (.cannotConnect address.target (.fault fault)) fs e) :
      Dialing address timeout (.socket range)
        ([.socket (some c), .setTimeout c timeout (some ()),
          .connectSocket c address.socketName none] ++ fs)
        (.error e)

/-- A failure on the way to an address: a system failure says that the address cannot be connected
to. -/
def unreached (address : Address) (e : Failure) : Failure :=
  if e.isSystem && !e.isUnreachable then .cannotConnect address.target e else e

namespace Session

/-- The command for the next connection of a session, and the session after it: an id is handed
out where there is none. -/
inductive Introduced : Session → Command → Session → Prop
  | resumed {session : Session} {id : Int} (known : session.id = some id) :
      Introduced session (.runSession id) session
  | created {session : Session} (unknown : session.id = none) (id : Int) :
      Introduced session (.newSession session.direction id) { session with id := some id }

/-- The calls that make a connection for a session, how they end, and the session after them. -/
inductive Joining (route : Route) (address : Address) (timeout : Int) (session : Session) :
    List Event → Except Failure ConnectionId → Session → Prop
  | undialed {es : List Event} {e : Failure}
      (dial : Dialing address timeout route.dialer es (.error e)) :
      Joining route address timeout session es (.error (unreached address e)) session
  | unset {es fs : List Event} {c : ConnectionId} {fault : Fault} {e : Failure}
      (dial : Dialing address timeout route.dialer es (.ok c))
      (gone : GivenUp c (.fault fault) (.fault fault) fs e) :
      Joining route address timeout session (es ++ .setBlocking c none :: fs) (.error e) session
  | unwritable {es : List Event} {c : ConnectionId} {command : Command} {after : Session}
      (dial : Dialing address timeout route.dialer es (.ok c))
      (introduced : Introduced session command after) (long : ¬command.Writable) :
      Joining route address timeout session (es ++ [.setBlocking c (some ())])
        (.error .numberTooLong) after
  | unsent {es fs gs : List Event} {c : ConnectionId} {command : Command} {after : Session}
      {cause e : Failure} (dial : Dialing address timeout route.dialer es (.ok c))
      (introduced : Introduced session command after)
      (sends : Wire.Transmission c command.line fs (.error cause))
      (gone : GivenUp c cause cause gs e) (writable : command.Writable) :
      Joining route address timeout session (es ++ .setBlocking c (some ()) :: (fs ++ gs))
        (.error e) after
  | joined {es fs : List Event} {c : ConnectionId} {command : Command} {after : Session}
      (dial : Dialing address timeout route.dialer es (.ok c))
      (introduced : Introduced session command after)
      (sends : Wire.Transmission c command.line fs (.ok ())) (writable : command.Writable) :
      Joining route address timeout session (es ++ .setBlocking c (some ()) :: fs) (.ok c) after

/-- What happens to the counter behind a source of ids while a session is joined: nothing, and the
session stays as it is or had its id before; or the session takes the next id. -/
inductive Numbering (source : IdSource) (before after : Held Session) : Prop
  | kept (own : after.own = before.own) (ids : after.host.ids source = before.host.ids source)
  | taken (unknown : before.own.id = none)
      (id : after.own = { before.own with id := some (before.host.ids source).next })
      (ids : after.host.ids source = (before.host.ids source).advance)

end Session

-- ════════════════════════════════════════════════════════════════════════
-- Counters
-- ════════════════════════════════════════════════════════════════════════

/-- The action leaves the counters of ids as they are. -/
def Act.KeepsIds {α : Type} (act : Act Host α) : Prop :=
  ∀ (host : Host) (source : IdSource), (Act.outcome act host).2.ids source = host.ids source

section KeepsIds

variable {α β : Type}

theorem Act.keepsIds_throw (e : Failure) : Act.KeepsIds (throw e : Act Host α) :=
  fun _ _ => rfl

theorem Act.keepsIds_pure (a : α) : Act.KeepsIds (pure a : Act Host α) :=
  fun _ _ => rfl

theorem Act.keepsIds_ofExcept (r : Except Failure α) :
    Act.KeepsIds (Act.ofExcept r : Act Host α) := by
  intro host source
  cases r <;> rfl

theorem Host.keepsIds_write (level : Log.Level) (source : Log.Source) (message : String) :
    Act.KeepsIds (Host.write level source message) :=
  fun _ _ => rfl

/-- The counters are no part of the network. -/
theorem Act.keepsIds_network (act : Act Network α) : Act.KeepsIds (liftM act : Act Host α) := by
  intro host source
  change (Act.outcome (Act.zoom _ _ act) host).2.ids source = _
  rw [Act.outcome_zoom]
  rfl

theorem Act.KeepsIds.bind {act : Act Host α} {f : α → Act Host β} (h : Act.KeepsIds act)
    (hf : ∀ a, Act.KeepsIds (f a)) : Act.KeepsIds (act >>= f) := by
  intro host source
  have first := h host source
  rw [Act.outcome_bind]
  split
  · next a t hout =>
    rw [hout] at first
    exact (hf a t source).trans first
  · next e t hout =>
    rw [hout] at first
    exact first

theorem Act.KeepsIds.rescue {act : Act Host α} {answer : Failure → Act Host α}
    (h : Act.KeepsIds act) (hanswer : ∀ e, Act.KeepsIds (answer e)) :
    Act.KeepsIds (act.rescue answer) := by
  intro host source
  have first := h host source
  rw [Act.outcome_rescue]
  split
  · next a t hout =>
    rw [hout] at first
    exact first
  · next e t hout =>
    rw [hout] at first
    split
    · exact (hanswer e t source).trans first
    · exact first

/-- What an action does, and that it keeps the counters. -/
theorem Act.Does.keepingIds {act : Act Host α} {host : Host}
    {post : Except Failure α → List Event → Host → Prop} (h : Act.Does act host post)
    (keeps : Act.KeepsIds act) : Act.Does act host fun r es after =>
      post r es after ∧ ∀ source, after.ids source = host.ids source := by
  obtain ⟨es, grows, hpost⟩ := h
  exact ⟨es, grows, hpost, keeps host⟩

theorem Dialer.keepsIds_dial (dialer : Dialer) (address : Address) (timeout : Int) :
    Act.KeepsIds (dialer.dial address timeout) := by
  have connects : ∀ c, Act.KeepsIds (Act.rescue
      (Network.connectSocket c address.socketName : Act Network Unit) fun cause => do
        Host.write .debug .dialer s!"Close {c.descriptor}"
        Network.close c
        throw (.cannotConnect address.target cause)) := fun c =>
    .rescue (Act.keepsIds_network _) fun _ => .bind (Host.keepsIds_write _ _ _) fun _ =>
      .bind (Act.keepsIds_network _) fun _ => Act.keepsIds_throw _
  cases dialer with
  | direct => exact Act.keepsIds_network _
  | socket =>
    refine .bind (.rescue (Act.keepsIds_network _) fun _ => Act.keepsIds_throw _) fun c => ?_
    split
    · exact .bind (Act.keepsIds_throw _) fun _ => .bind (Act.keepsIds_network _) fun _ =>
        .bind (connects c) fun _ => Act.keepsIds_pure c
    · exact .bind (Act.keepsIds_network _) fun _ => .bind (connects c) fun _ => Act.keepsIds_pure c

theorem keepsIds_reach (dialer : Dialer) (address : Address) (timeout : Int) :
    Act.KeepsIds (reach dialer address timeout) :=
  .rescue (dialer.keepsIds_dial address timeout) fun _ => Act.keepsIds_throw _

theorem keepsIds_orGiveUp {c : ConnectionId} {step : String} {act : Act Host Unit}
    (h : Act.KeepsIds act) : Act.KeepsIds (orGiveUp c step act) :=
  .rescue h fun e => .bind (Host.keepsIds_write _ _ _) fun _ =>
    .bind (Act.keepsIds_network _) fun _ => Act.keepsIds_throw e

end KeepsIds

/-- Closing a connection and passing a failure on. -/
theorem close_throw_does {c : ConnectionId} {cause final : Failure}
    (system : cause.isSystem = true) {level : Log.Level} {source : Log.Source} {message : String}
    {α : Type} (host : Host) :
    Act.Does (do Host.write level source message; Network.close c; throw final : Act Host α) host
      fun r es _ => ∃ e, GivenUp c cause final es e ∧ r = .error e := by
  refine Host.does_write_bind.2 (Act.Does.bind (Act.Does.onHost (Network.close_does.mono ?_)))
  intro r es t h
  cases h with
  | answered => exact Act.does_throw.2 ⟨final, .closed system, rfl⟩
  | failed fault => exact ⟨.fault fault, .closeFailed system fault, rfl⟩

theorem orGiveUp_does {c : ConnectionId} {step : String} {act : Act Host Unit} {host : Host}
    {post : Except Failure Unit → List Event → Prop}
    (h : Act.Does act host fun r es _ => post r es) :
    Act.Does (orGiveUp c step act) host fun r es _ =>
      (r = .ok () ∧ post r es) ∨
      ∃ cause e es₀ fs, post (.error cause) es₀ ∧ GivenUp c cause cause fs e ∧
        es = es₀ ++ fs ∧ r = .error e := by
  refine Act.Does.rescue (h.mono fun r es t h => ?_)
  cases r with
  | ok u => exact .inl ⟨rfl, h⟩
  | error cause =>
    constructor
    · intro hs
      refine (close_throw_does hs t).mono ?_
      rintro r fs u ⟨e, gone, rfl⟩
      exact .inr ⟨cause, e, es, fs, h, gone, rfl, rfl⟩
    · intro hs
      exact .inr ⟨cause, cause, es, [], h, .left hs, (List.append_nil es).symm, rfl⟩

theorem Dialer.dialSocket_does (range : Timeout.Range) (address : Address) (timeout : Int)
    (host : Host) : Act.Does (dialSocket range address timeout) host fun r es _ =>
      Dialing address timeout (.socket range) es r := by
  unfold dialSocket
  refine Act.Does.bind (Act.Does.rescue (Act.Does.onHost (Network.openSocket_does.mono ?_)))
  intro r es t h
  cases h with
  | failed fault =>
    have h : Dialing address timeout (.socket range) _ _ := .noSocket fault
    constructor
    · intro hs
      have hs : fault.isSystem = true := hs
      simpa [hs] using h
    · intro hs
      have hs : fault.isSystem = false := hs
      simpa [hs] using h
  | @answered c =>
    by_cases hrep : Timeout.Representable timeout
    · simp only [hrep, not_true_eq_false, if_false]
      refine Act.Does.bind (Act.Does.onHost ((Network.setTimeout_does range timeout).mono ?_))
      intro r es t set
      cases taken : range.refusal? timeout with
      | some e =>
        rw [taken] at set
        obtain ⟨rfl, rfl⟩ := set
        exact .unset c hrep taken
      | none =>
        rw [taken] at set
        obtain ⟨rfl, rfl⟩ := set
        refine Act.Does.bind
          (Act.Does.rescue (Act.Does.onHost ((Network.connectSocket_does _).mono ?_)))
        intro r es t h
        cases h with
        | answered => exact Act.does_pure.2 (.socketConnected c ⟨hrep, taken⟩)
        | failed fault =>
          constructor
          · intro hs
            refine (close_throw_does hs _).mono ?_
            rintro r fs u ⟨e, gone, rfl⟩
            exact .socketRefused c ⟨hrep, taken⟩ fault gone
          · intro hs
            exact .socketRefused c ⟨hrep, taken⟩ fault (.left hs)
    · simp only [hrep, not_false_eq_true, if_true, Act.does_throw_bind]
      exact .unsettable c hrep

theorem Dialer.dial_does (dialer : Dialer) (address : Address) (timeout : Int) (host : Host) :
    Act.Does (dialer.dial address timeout) host fun r es _ =>
      Dialing address timeout dialer es r := by
  cases dialer with
  | socket range => exact dialSocket_does range address timeout host
  | direct =>
    refine Act.Does.onHost ((Network.connect_does address timeout).mono fun r es t h => ?_)
    cases h with
    | @answered c => exact .connected c
    | failed fault => exact .refused fault

theorem reach_does (dialer : Dialer) (address : Address) (timeout : Int) (host : Host) :
    Act.Does (reach dialer address timeout) host fun r es _ =>
      ∃ r₀, Dialing address timeout dialer es r₀ ∧ r = r₀.mapError (unreached address) := by
  refine Act.Does.rescue ((dialer.dial_does address timeout host).mono fun r es t h => ?_)
  cases r with
  | ok c => exact ⟨.ok c, h, rfl⟩
  | error e =>
    constructor
    · intro hs
      refine Act.does_throw.2 ⟨.error e, by simpa using h, ?_⟩
      change _ = Except.error (unreached address e)
      cases hu : e.isUnreachable <;> simp [unreached, hs, hu]
    · intro hs
      refine ⟨.error e, h, ?_⟩
      change _ = Except.error (unreached address e)
      simp [unreached, hs]

namespace Session

/-- A command is handed on if its number can be written down. -/
theorem handOn_does {command : Command} {message : String} (held : Held Session) :
    Act.Does (do
      Act.ofExcept command.requireWritable
      Host.write .info .joining message
      pure command : Act (Held Session) Command) held fun r es after =>
        es = [] ∧ after.own = held.own ∧ (r = command.requireWritable.map fun _ => command) ∧
          ∀ source, after.host.ids source = held.host.ids source := by
  rw [Act.does_ofExcept_bind]
  cases command.requireWritable with
  | ok u => exact Held.does_write_bind.2 (Act.does_pure.2 ⟨rfl, rfl, rfl, fun _ => rfl⟩)
  | error e => exact ⟨rfl, rfl, rfl, fun _ => rfl⟩

theorem introduction_does (source : IdSource) (held : Held Session) :
    Act.Does (introduction source) held fun r es after =>
      es = [] ∧ Numbering source held after ∧ ∃ command, Introduced held.own command after.own ∧
        r = command.requireWritable.map fun _ => command := by
  unfold introduction
  rw [Act.does_get_bind]
  cases hid : held.own.id with
  | some id =>
    simp only [hid]
    refine (handOn_does held).mono ?_
    rintro r es after ⟨hes, hown, hr, kept⟩
    refine ⟨hes, .kept hown (kept source), .runSession id, ?_, hr⟩
    rw [hown]
    exact .resumed hid
  | none =>
    simp only [hid]
    let id := (held.host.ids source).next
    let host := held.host.setIds source (held.host.ids source).advance
    let session : Session := { held.own with id := some id }
    have hnet : host.network = held.host.network := by cases source <;> rfl
    have advanced : host.ids source = (held.host.ids source).advance := by cases source <;> rfl
    refine (Act.does_bind_of_outcome (s := held) (t := ⟨held.own, host⟩) rfl hnet).2 ?_
    refine (Act.does_bind_of_outcome (s := Held.mk held.own host) (t := Held.mk session host)
      rfl rfl).2 ?_
    refine (handOn_does _).mono ?_
    rintro r es after ⟨hes, hown, hr, kept⟩
    refine ⟨hes, .taken hid hown ((kept source).trans advanced),
      .newSession held.own.direction id, ?_, hr⟩
    rw [hown]
    exact .created hid id

/-- Counters and sessions that stay as they are add nothing to what happened to them. -/
theorem Numbering.trans_eq {source : IdSource} {before mid after : Held Session}
    (h : Numbering source before mid) (own : after.own = mid.own)
    (ids : ∀ source, after.host.ids source = mid.host.ids source) :
    Numbering source before after := by
  cases h with
  | kept own' ids' => exact .kept (own.trans own') ((ids source).trans ids')
  | taken unknown id ids' => exact .taken unknown (own.trans id) ((ids source).trans ids')

theorem Numbering.eq_trans {source : IdSource} {before mid after : Held Session}
    (own : mid.own = before.own) (ids : ∀ source, mid.host.ids source = before.host.ids source)
    (h : Numbering source mid after) : Numbering source before after := by
  cases h with
  | kept own' ids' => exact .kept (own'.trans own) (ids'.trans (ids source))
  | taken unknown id ids' =>
    rw [own] at unknown
    rw [own, ids source] at id
    rw [ids source] at ids'
    exact .taken unknown id ids'

theorem join_does (route : Route) (address : Address) (timeout : Int) (held : Held Session) :
    Act.Does (join route address timeout) held fun r es after =>
      Joining route address timeout held.own es r after.own ∧
        Numbering route.ids held after := by
  unfold join
  refine Held.does_write_bind.2 (Act.Does.bind (Act.Does.onHeld (((reach_does _ _ _ _).keepingIds
    (keepsIds_reach _ _ _)).mono ?_)))
  rintro r es host ⟨⟨r, dial, rfl⟩, kept⟩
  cases r with
  | error e => exact ⟨.undialed dial, .kept rfl (kept _)⟩
  | ok c =>
    refine Act.Does.bind (Act.Does.onHeld (((orGiveUp_does
      (Act.Does.onHost Network.setBlocking_does)).keepingIds
        (keepsIds_orGiveUp (Act.keepsIds_network _))).mono ?_))
    rintro r fs host' ⟨⟨rfl, called⟩ | ⟨cause, e, _, fs, called, gone, rfl, rfl⟩, kept'⟩
    · cases called
      refine Act.Does.bind ((introduction_does _ _).mono ?_)
      rintro r _ mid ⟨rfl, numbering, command, introduced, hr⟩
      have numbering : Numbering route.ids held mid :=
        .eq_trans (by rfl) (fun source => (kept' source).trans (kept source)) numbering
      by_cases hw : command.Writable
      · simp only [Command.requireWritable, hw, if_true, Except.map] at hr
        subst hr
        refine Act.Does.bind (Act.Does.onHeld (((orGiveUp_does
          (Act.Does.onHost (Wire.transmit_does _ _))).keepingIds
            (keepsIds_orGiveUp (Act.keepsIds_network _))).mono ?_))
        rintro r fs last ⟨⟨rfl, sends⟩ | ⟨cause, e, fs, gs, sends, gone, rfl, rfl⟩, kept⟩
        · refine Held.does_write_bind.2 (Act.does_pure.2 ⟨?_, numbering.trans_eq rfl kept⟩)
          simpa using Joining.joined dial introduced sends hw
        · refine ⟨?_, numbering.trans_eq rfl kept⟩
          simpa using Joining.unsent dial introduced sends gone hw
      · simp only [Command.requireWritable, hw, if_false, Except.map] at hr
        subst hr
        refine ⟨?_, numbering⟩
        simpa using Joining.unwritable dial introduced hw
    · cases called
      exact ⟨.unset dial gone, .kept rfl ((kept' _).trans (kept _))⟩

/-- The direction of a session never changes. -/
theorem Introduced.direction_eq {session after : Session} {command : Command}
    (h : Introduced session command after) : after.direction = session.direction := by
  cases h <;> rfl

/-- Once a session is introduced it has an id. -/
theorem Introduced.assigned {session after : Session} {command : Command}
    (h : Introduced session command after) : after.assigned = true := by
  cases h with
  | resumed known => simp [Session.assigned, known]
  | created => rfl

/-- A session with an id is resumed, and stays as it is. -/
theorem Introduced.of_id_eq_some {session after : Session} {command : Command} {id : Int}
    (h : Introduced session command after) (known : session.id = some id) :
    command = .runSession id ∧ after = session := by
  cases h with
  | resumed known' =>
    obtain rfl : _ = id := Option.some.inj (known'.symm.trans known)
    exact ⟨rfl, rfl⟩
  | created unknown => rw [unknown] at known; cases known

section Joined

variable {route : Route} {address : Address} {timeout : Int} {session after : Session}
  {es : List Event} {r : Except Failure ConnectionId}

theorem Joining.direction_eq (h : Joining route address timeout session es r after) :
    after.direction = session.direction := by
  cases h with
  | undialed => rfl
  | unset => rfl
  | unwritable _ introduced => exact introduced.direction_eq
  | unsent _ introduced => exact introduced.direction_eq
  | joined _ introduced => exact introduced.direction_eq

/-- A session with an id stays as it is. -/
theorem Joining.eq_of_assigned (h : Joining route address timeout session es r after)
    (assigned : session.assigned = true) : after = session := by
  obtain ⟨id, known⟩ := Option.isSome_iff_exists.1 assigned
  cases h with
  | undialed => rfl
  | unset => rfl
  | unwritable _ introduced => exact (introduced.of_id_eq_some known).2
  | unsent _ introduced => exact (introduced.of_id_eq_some known).2
  | joined _ introduced => exact (introduced.of_id_eq_some known).2

end Joined

end Session

-- ════════════════════════════════════════════════════════════════════════
-- Failures of calls
-- ════════════════════════════════════════════════════════════════════════

/-- The failures that calls on the network bring about, and a number that has no place in one. -/
def Failure.ofCall : Failure → Bool
  | fault _ => true
  | noSocket _ => true
  | cannotConnect _ _ => true
  | peerClosed => true
  | replyCut => true
  | timeoutTooLarge => true
  | timeoutBeyondClock => true
  | negativeTimeout => true
  | numberTooLong => true
  | _ => false

section OfCall

variable {c : ConnectionId} {cause final e : Failure} {address : Address} {timeout : Int}
  {es : List Event}

theorem GivenUp.ofCall (h : GivenUp c cause final es e) (hcause : cause.ofCall = true)
    (hfinal : final.ofCall = true) : e.ofCall = true := by
  cases h with
  | closed => exact hfinal
  | closeFailed => rfl
  | left => exact hcause

theorem Dialing.ofCall {dialer : Dialer} (h : Dialing address timeout dialer es (.error e)) :
    e.ofCall = true := by
  cases h with
  | refused => rfl
  | noSocket fault => split <;> rfl
  | unsettable => rfl
  | unset _ _ refused => rcases Timeout.Range.refusal?_cases refused with rfl | rfl <;> rfl
  | socketRefused _ _ _ gone => exact gone.ofCall rfl rfl

theorem ofCall_unreached (h : e.ofCall = true) : (unreached address e).ofCall = true := by
  unfold unreached
  split
  · rfl
  · exact h

theorem Wire.Transmission.ofCall {data : Bytes} (h : Wire.Transmission c data es (.error e)) :
    e.ofCall = true := by
  rcases h.error_cases with rfl | ⟨fault, rfl⟩ <;> rfl

theorem Wire.Hearing.ofCall {limit : Int} {room : Nat} {line : Bytes}
    (h : Wire.Hearing c (.replyTooLong limit) room line es (.error e)) :
    e = .replyTooLong limit ∨ e.ofCall = true := by
  generalize hr : (Except.error e : Except Failure Bytes) = r at h
  induction h with
  | overflowed => exact .inl (Except.error.inj hr)
  | ended => cases hr
  | advanced _ _ ih => exact ih hr
  | cut => exact .inr (Except.error.inj hr ▸ rfl)
  | failed fault => exact .inr (Except.error.inj hr ▸ rfl)

/-- An exchange without a reply ends with a failure of a call, or with a reply that is too long. -/
theorem Wire.Exchanged.ofCall {line : Bytes} (h : Wire.Exchanged c line es (.error e)) :
    e = .replyTooLong Reply.limit ∨ e.ofCall = true := by
  cases h with
  | unsent sends => exact .inr sends.ofCall
  | sent _ receives => exact receives.ofCall

theorem Session.Joining.ofCall {route : Route} {session after : Session}
    (h : Session.Joining route address timeout session es (.error e) after) :
    e.ofCall = true := by
  cases h with
  | undialed dial => exact ofCall_unreached dial.ofCall
  | unset _ gone => exact gone.ofCall rfl rfl
  | unwritable => rfl
  | unsent _ _ sends gone => exact gone.ofCall sends.ofCall sends.ofCall

end OfCall

end SessionStream
