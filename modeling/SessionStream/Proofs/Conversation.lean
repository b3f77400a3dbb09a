import SessionStream.Proofs.Dialogue
import SessionStream.Proofs.OpenStream

/-!
# What exchanges and new connections leave on record

An exchange adds one entry to the dialogue of its connection and touches no other connection. The
making of a connection for a session either makes none, or makes one that is called on from then on
alone; what that connection accepts is the line that binds it to the session, or a part of the line
that has no end.

## Main definitions

- `Outward`, `Mute` — calls that receive nothing, and calls that move no bytes at all
- `Exchange.Over` — an exchange that is over
- `Exchange.Records` — the exchange that a command leaves on record
- `Made` — the calls on a new connection
-/

namespace SessionStream

variable {c k : ConnectionId} {es fs trace : List Event}

/-- Whether a call asks for bytes. -/
def Event.incoming : Event → Bool
  | .receive .. => true
  | .receiveInto .. => true
  | _ => false

/-- Whether a call offers bytes. -/
def Event.outgoing : Event → Bool
  | .send .. => true
  | _ => false

/-- None of these calls asks for bytes. -/
def Outward (es : List Event) : Prop :=
  ∀ e ∈ es, e.incoming = false

/-- None of these calls asks for bytes or offers any. -/
def Mute (es : List Event) : Prop :=
  ∀ e ∈ es, e.incoming = false ∧ e.outgoing = false

theorem Outward.nil : Outward [] :=
  fun _ h => absurd h List.not_mem_nil

theorem Mute.outward (h : Mute es) : Outward es :=
  fun e he => (h e he).1

theorem Outward.append (h : Outward es) (h' : Outward fs) : Outward (es ++ fs) :=
  fun e he => (List.mem_append.1 he).elim (h e) (h' e)

theorem Mute.append (h : Mute es) (h' : Mute fs) : Mute (es ++ fs) :=
  fun e he => (List.mem_append.1 he).elim (h e) (h' e)

theorem Outward.received_eq_nil (h : Outward es) (c : ConnectionId) : received c es = [] := by
  refine List.flatMap_eq_nil_iff.2 fun e he => ?_
  have calm := h e he
  cases e <;> first | rfl | cases calm

theorem Outward.delivered_eq_nil (h : Outward es) (c : ConnectionId) : delivered c es = [] := by
  refine List.flatMap_eq_nil_iff.2 fun e he => ?_
  have calm := h e he
  cases e <;> first | rfl | cases calm

theorem Mute.accepted_eq_nil (h : Mute es) (c : ConnectionId) : accepted c es = [] := by
  refine List.flatMap_eq_nil_iff.2 fun e he => ?_
  have calm := (h e he).2
  cases e <;> first | rfl | cases calm

theorem Mute.foldl_converse (h : Mute es) (k : ConnectionId) (xs : List Exchange) :
    es.foldl (converse k) xs = xs := by
  induction es generalizing xs with
  | nil => rfl
  | cons e es ih =>
    obtain ⟨hin, hout⟩ := h e (List.mem_cons_self ..)
    have same : converse k xs e = xs := by
      cases e with
      | send => cases hout
      | receive => cases hin
      | receiveInto => cases hin
      | _ => rfl
    rw [List.foldl_cons, same]
    exact ih (fun e he => h e (List.mem_cons_of_mem _ he)) xs

/-- Behind a call that receives nothing, nothing has just been admitted. -/
theorem Outward.settled (h : Outward es) (hes : es ≠ []) (trace : List Event) :
    Settled (trace ++ es) := by
  intro k
  have calm := h _ (List.getLast_mem hes)
  unfold admission?
  rw [List.getLast?_append, List.getLast?_eq_some_getLast hes, Option.some_or]
  split
  · next last =>
    rw [Option.some.inj last] at calm
    cases calm
  · rfl

-- ════════════════════════════════════════════════════════════════════════
-- Lines
-- ════════════════════════════════════════════════════════════════════════

/-- The latest exchange, if there is one, is not in the middle of its line. -/
def Paused (xs : List Exchange) : Prop :=
  ∀ x ∈ xs.head?, x.sending = false

/-- Whether a result leaves nothing of a line. -/
def Leaves {α : Type} (left : Bytes) : Except Failure α → Prop
  | .ok _ => left = []
  | .error _ => left ≠ []

namespace Wire

theorem Transmission.outward {data : Bytes} {r : Except Failure Unit}
    (h : Transmission c data es r) : Outward es := by
  induction h with
  | done => exact fun _ h => absurd h List.not_mem_nil
  | advanced _ _ ih =>
    intro e he
    rcases List.mem_cons.1 he with rfl | he
    · rfl
    · exact ih e he
  | refused =>
    intro e he
    rw [List.mem_singleton.1 he]
    rfl
  | failed =>
    intro e he
    rw [List.mem_singleton.1 he]
    rfl

/-- What was accepted of a line is its beginning. -/
theorem Transmission.accepted {data : Bytes} {r : Except Failure Unit}
    (h : Transmission c data es r) :
    ∃ left, data = SessionStream.accepted c es ++ left ∧ Leaves left r := by
  induction h with
  | done => exact ⟨[], rfl, rfl⟩
  | @advanced b later count es r fits _ ih =>
    obtain ⟨left, hdata, hleft⟩ := ih
    refine ⟨left, ?_, hleft⟩
    have first : SessionStream.accepted c (.send c (b :: later) (some (count + 1)) :: es) =
        b :: later.take count ++ SessionStream.accepted c es := by
      simp
    rw [first, List.append_assoc, ← hdata, List.cons_append, List.take_append_drop]
  | @refused b later =>
    refine ⟨b :: later, ?_, List.cons_ne_nil _ _⟩
    simp
  | failed => exact ⟨_, rfl, List.cons_ne_nil _ _⟩

/-- The sends of a line go on with the exchange that is in the middle of it. -/
theorem Transmission.foldl_offer {data : Bytes} {r : Except Failure Unit}
    (h : Transmission c data es r) {x : Exchange} (hleft : x.left = data)
    (hsending : x.sending = !data.isEmpty) (xs : List Exchange) :
    ∃ left, es.foldl (converse c) (x :: xs) = { x with left, sending := false } :: xs ∧
      Leaves left r := by
  induction h generalizing x with
  | done =>
    refine ⟨[], ?_, rfl⟩
    obtain ⟨line, left, sending, heard⟩ := x
    subst hleft hsending
    rfl
  | @advanced b later count es r fits _ ih =>
    have hdrop : (x.offer (some (count + 1))).left = later.drop count := by
      simp [Exchange.offer, hleft]
    obtain ⟨left, hfold, hleaves⟩ := ih hdrop (by simp [Exchange.offer, hleft])
    refine ⟨left, ?_, hleaves⟩
    have step : converse c (x :: xs) (.send c (b :: later) (some (count + 1))) =
        x.offer (some (count + 1)) :: xs := by
      simp [converse, hsending]
    rw [List.foldl_cons, step, hfold]
    rfl
  | @refused b later =>
    refine ⟨b :: later, ?_, List.cons_ne_nil _ _⟩
    simp [converse, hsending, Exchange.offer, hleft]
  | @failed b later fault =>
    refine ⟨b :: later, ?_, List.cons_ne_nil _ _⟩
    simp [converse, hsending, Exchange.offer, hleft]

/-- The sends of a line are a new exchange. -/
theorem Transmission.foldl_converse {data : Bytes} {r : Except Failure Unit}
    (h : Transmission c data es r) (nonempty : data ≠ []) {xs : List Exchange}
    (paused : Paused xs) :
    ∃ left, es.foldl (converse c) xs = { line := data, left, sending := false } :: xs ∧
      Leaves left r := by
  have hsending : (Exchange.start data).sending = !data.isEmpty := by
    cases data with
    | nil => exact absurd rfl nonempty
    | cons => rfl
  have begins : ∀ result, converse c xs (.send c data result) =
      converse c (Exchange.start data :: xs) (.send c data result) := by
    intro result
    cases xs with
    | nil => simp [converse, Exchange.start]
    | cons x earlier =>
      have pausing : x.sending = false := paused x rfl
      simp [converse, pausing, Exchange.start]
  have same : es.foldl (converse c) xs = es.foldl (converse c) (Exchange.start data :: xs) := by
    cases h with
    | done => exact absurd rfl nonempty
    | advanced => rw [List.foldl_cons, List.foldl_cons, begins]
    | refused => rw [List.foldl_cons, List.foldl_cons, begins]
    | failed => rw [List.foldl_cons, List.foldl_cons, begins]
  rw [same]
  exact h.foldl_offer rfl hsending xs

end Wire

-- ════════════════════════════════════════════════════════════════════════
-- Replies
-- ════════════════════════════════════════════════════════════════════════

/-- An exchange that is over: nothing is received after a line that was not accepted whole, and
nothing behind the end of a reply. -/
structure Exchange.Over (x : Exchange) : Prop where
  paused : x.sending = false
  silent : ¬x.Sent → x.heard = []
  reply : Reply.lineEnd ∉ x.heard ∨ ∃ reply, x.heard = reply ++ [Reply.lineEnd] ∧
    Reply.lineEnd ∉ reply

/-- The exchange that a command leaves on record, when the exchange ended like this. -/
structure Exchange.Records (x : Exchange) (line : Bytes) (r : Except Failure Bytes) : Prop where
  line_eq : x.line = line
  ended : x.Over
  answered : ∀ reply, r = .ok reply → x.Sent ∧ x.heard = reply ++ [Reply.lineEnd]
  unanswered : ∀ e, r = .error e → ¬x.Answered
  short : ∀ e, r = .error e →
    ((∀ limit, e ≠ .replyTooLong limit) ↔ x.heard.length < Reply.limit)

namespace Wire

/-- All that is asked for while a reply is read is bytes of the reply. -/
theorem Hearing.isReceive {overflow : Failure} {room : Nat} {line : Bytes}
    {r : Except Failure Bytes} (h : Hearing c overflow room line es r) :
    ∀ e ∈ es, ∃ result, e = .receive c 1 result := by
  induction h with
  | overflowed => exact fun _ h => absurd h List.not_mem_nil
  | advanced _ _ ih =>
    intro e he
    rcases List.mem_cons.1 he with rfl | he
    · exact ⟨_, rfl⟩
    · exact ih e he
  | ended => exact fun e he => ⟨_, List.mem_singleton.1 he⟩
  | cut => exact fun e he => ⟨_, List.mem_singleton.1 he⟩
  | failed => exact fun e he => ⟨_, List.mem_singleton.1 he⟩

/-- What is received while a reply is read belongs to the latest exchange. -/
theorem Hearing.foldl_converse {overflow : Failure} {room : Nat} {line : Bytes}
    {r : Except Failure Bytes} (h : Hearing c overflow room line es r) (x : Exchange)
    (xs : List Exchange) :
    es.foldl (converse c) (x :: xs) = { x with heard := x.heard ++ delivered c es } :: xs := by
  have reads : ∀ e ∈ es, ∃ result, e = .receive c 1 result := h.isReceive
  clear h
  induction es generalizing x with
  | nil =>
    rw [List.foldl_nil, delivered, List.flatMap_nil, List.append_nil]
  | cons e es ih =>
    obtain ⟨result, rfl⟩ := reads e (List.mem_cons_self ..)
    have step : converse c (x :: xs) (.receive c 1 result) =
        { x with heard := x.heard ++ Event.delivered c (.receive c 1 result) } :: xs := by
      cases result with
      | none => simp [converse, Event.delivered]
      | some bytes => simp [converse, Event.delivered]
    rw [List.foldl_cons, step, ih _ fun e he => reads e (List.mem_cons_of_mem _ he)]
    simp only [delivered, List.flatMap_cons, List.append_assoc]

/-- What is received while a reply is read: the rest of the line and its end, or a text without an
end that fills the room exactly if the reply is too long. -/
theorem Hearing.delivered {limit : Int} {room : Nat} {line : Bytes} {r : Except Failure Bytes}
    (h : Hearing c (.replyTooLong limit) room line es r) :
    match r with
    | .ok whole => ∃ rest, SessionStream.delivered c es = rest ++ [Reply.lineEnd] ∧
        whole = line ++ rest ∧ Reply.lineEnd ∉ rest
    | .error e => Reply.lineEnd ∉ SessionStream.delivered c es ∧
        ((∀ limit, e ≠ .replyTooLong limit) ↔ (SessionStream.delivered c es).length < room) := by
  have one : ∀ {b : UInt8} {es : List Event},
      SessionStream.delivered c (.receive c 1 (some [b]) :: es) =
        b :: SessionStream.delivered c es := by
    intro b es
    simp
  induction h with
  | overflowed =>
    exact ⟨List.not_mem_nil, fun other => absurd rfl (other _), fun h => absurd h (Nat.lt_irrefl 0)⟩
  | ended => exact ⟨[], one, (List.append_nil _).symm, List.not_mem_nil⟩
  | @advanced room line b es r inside _ ih =>
    rw [one]
    cases r with
    | ok whole =>
      obtain ⟨rest, hrest, rfl, hend⟩ := ih
      refine ⟨b :: rest, by rw [hrest]; rfl, by simp, ?_⟩
      exact fun hmem => (List.mem_cons.1 hmem).elim (fun heq => inside heq.symm) hend
    | error e =>
      obtain ⟨hend, hshort⟩ := ih
      refine ⟨?_, hshort.trans ?_⟩
      · exact fun hmem => (List.mem_cons.1 hmem).elim (fun heq => inside heq.symm) hend
      · exact Nat.succ_lt_succ_iff.symm
  | cut => simp
  | failed => simp

/-- The last call for a reply received the end of it. -/
theorem Hearing.getLast? {overflow : Failure} {room : Nat} {line whole : Bytes}
    (h : Hearing c overflow room line es (.ok whole)) :
    es.getLast? = some (.receive c 1 (some [Reply.lineEnd])) := by
  generalize hr : (Except.ok whole : Except Failure Bytes) = r at h
  induction h with
  | overflowed => cases hr
  | ended => rfl
  | advanced _ _ ih =>
    rw [List.getLast?_cons, ih hr]
    rfl
  | cut => cases hr
  | failed => cases hr

/-- An exchange is recorded in front of the earlier ones. -/
theorem Exchanged.foldl_converse {line : Bytes} {r : Except Failure Bytes}
    (h : Exchanged c line es r) (nonempty : line ≠ []) {xs : List Exchange} (paused : Paused xs) :
    ∃ x : Exchange, es.foldl (converse c) xs = x :: xs ∧ SessionStream.delivered c es = x.heard ∧
      x.Records line r := by
  cases h with
  | unsent sends =>
    obtain ⟨left, hfold, hleft⟩ := sends.foldl_converse nonempty paused
    refine ⟨_, hfold, sends.outward.delivered_eq_nil c, rfl,
      ⟨rfl, fun _ => rfl, .inl List.not_mem_nil⟩, nofun, ?_, ?_⟩
    · exact fun _ _ => List.not_mem_nil
    · rintro e ⟨⟩
      refine ⟨fun _ => (by decide : 0 < Reply.limit), fun _ => ?_⟩
      rcases sends.error_cases with rfl | ⟨fault, rfl⟩ <;> exact nofun
  | sent sends receives =>
    obtain ⟨left, hfold, hleft⟩ := sends.foldl_converse nonempty paused
    have hleft : left = [] := hleft
    subst hleft
    have hrest := receives.delivered
    rw [List.foldl_append, hfold, receives.foldl_converse, delivered_append,
      sends.outward.delivered_eq_nil]
    refine ⟨_, rfl, rfl, rfl, ?_, ?_, ?_, ?_⟩
    · refine ⟨rfl, fun unsent => absurd rfl unsent, ?_⟩
      cases r with
      | ok whole =>
        obtain ⟨rest, hrest, -, hend⟩ := hrest
        exact .inr ⟨rest, hrest, hend⟩
      | error e => exact .inl hrest.1
    · rintro whole rfl
      obtain ⟨rest, hrest, rfl, -⟩ := hrest
      exact ⟨rfl, hrest⟩
    · rintro e rfl
      exact hrest.1
    · rintro e rfl
      exact hrest.2

/-- An exchange that is answered ends with a receive. -/
theorem Exchanged.getLast? {line reply : Bytes} (h : Exchanged c line es (.ok reply)) :
    es.getLast? = some (.receive c 1 (some [Reply.lineEnd])) := by
  cases h with
  | sent _ receives => rw [List.getLast?_append, receives.getLast?, Option.some_or]

/-- A command is not silent. -/
theorem Exchanged.ne_nil {line : Bytes} {r : Except Failure Bytes} (h : Exchanged c line es r)
    (nonempty : line ≠ []) : es ≠ [] := by
  have sends : ∀ {es : List Event} {r : Except Failure Unit}, Transmission c line es r →
      es ≠ [] := by
    intro es r sends
    cases sends with
    | done => exact absurd rfl nonempty
    | _ => exact List.cons_ne_nil _ _
  cases h with
  | unsent transmission => exact sends transmission
  | sent transmission => exact fun hnil => sends transmission (List.append_eq_nil_iff.1 hnil).1

end Wire

-- ════════════════════════════════════════════════════════════════════════
-- New connections
-- ════════════════════════════════════════════════════════════════════════

/-- Every call of these is on a connection that they have made. -/
def SelfContained (es : List Event) : Prop :=
  ∀ e ∈ es, ∀ c, e.target? = some c → c ∈ opened es

theorem SelfContained.nil : SelfContained [] :=
  fun _ h => absurd h List.not_mem_nil

/-- Calls on connections that they have made are on no connection that was there before. -/
theorem SelfContained.untouched (h : SelfContained es) (hc : c ∉ opened es) : Untouched c es :=
  fun e he htarget => hc (h e he c htarget)

/-- The calls that make a connection `c`, and those on it that follow. -/
structure Made (c : ConnectionId) (es : List Event) : Prop where
  opening : ∃ e later, es = e :: later ∧ e.opened? = some c
  target : ∀ e ∈ es, e.target? = some c
  opened_eq : opened es = [c]
  outward : Outward es

/-- Calls that try to make a connection, and make none. -/
structure Unmade (es : List Event) : Prop where
  ne_nil : es ≠ []
  target : ∀ e ∈ es, e.target? = none
  outward : Outward es

theorem Made.selfContained (h : Made c es) : SelfContained es := by
  intro e he c' hc'
  rw [h.target e he, Option.some.injEq] at hc'
  rw [h.opened_eq]
  exact List.mem_singleton.2 hc'.symm

theorem Unmade.selfContained (h : Unmade es) : SelfContained es := by
  intro e he c hc
  rw [h.target e he] at hc
  cases hc

theorem Made.append (h : Made c es) (htarget : ∀ e ∈ fs, e.target? = some c)
    (hopened : opened fs = []) (houtward : Outward fs) : Made c (es ++ fs) where
  opening := by
    obtain ⟨e, later, rfl, he⟩ := h.opening
    exact ⟨e, later ++ fs, rfl, he⟩
  target e he := (List.mem_append.1 he).elim (h.target e) (htarget e)
  opened_eq := by rw [opened_append, h.opened_eq, hopened, List.append_nil]
  outward := h.outward.append houtward

theorem GivenUp.mute {cause final e : Failure} (h : GivenUp c cause final es e) : Mute es := by
  cases h with
  | left => exact fun _ h => absurd h List.not_mem_nil
  | closed =>
    intro e he
    rw [List.mem_singleton.1 he]
    exact ⟨rfl, rfl⟩
  | closeFailed =>
    intro e he
    rw [List.mem_singleton.1 he]
    exact ⟨rfl, rfl⟩

theorem GivenUp.target? {cause final e : Failure} (h : GivenUp c cause final es e) :
    ∀ e ∈ es, e.target? = some c := by
  cases h with
  | left => exact fun _ h => absurd h List.not_mem_nil
  | closed =>
    intro e he
    rw [List.mem_singleton.1 he]
    rfl
  | closeFailed =>
    intro e he
    rw [List.mem_singleton.1 he]
    rfl

theorem GivenUp.opened_eq_nil {cause final e : Failure} (h : GivenUp c cause final es e) :
    opened es = [] := by
  cases h <;> rfl

theorem Wire.Transmission.opened_eq_nil {data : Bytes} {r : Except Failure Unit}
    (h : Transmission c data es r) : opened es = [] := by
  induction h with
  | done => rfl
  | advanced _ _ ih => exact ih
  | refused => rfl
  | failed => rfl

/-- Reaching an address makes no connection, or makes one and moves no bytes on it. -/
theorem Dialing.made {address : Address} {timeout : Int} {dialer : Dialer}
    {r : Except Failure ConnectionId} (h : Dialing address timeout dialer es r) :
    (Unmade es ∧ ∃ e, r = .error e) ∨
    ∃ c, Made c es ∧ Mute es ∧ (r = .ok c ∨ ∃ e, r = .error e) := by
  cases h with
  | refused fault =>
    refine .inl ⟨⟨List.cons_ne_nil _ _, ?_, ?_⟩, _, rfl⟩
    · simp [Event.target?]
    · simp [Outward, Event.incoming]
  | noSocket fault =>
    refine .inl ⟨⟨List.cons_ne_nil _ _, ?_, ?_⟩, _, rfl⟩
    · simp [Event.target?]
    · simp [Outward, Event.incoming]
  | connected c =>
    refine .inr ⟨c, ⟨⟨_, _, rfl, rfl⟩, ?_, rfl, ?_⟩, ?_, .inl rfl⟩
    · simp [Event.target?]
    · simp [Outward, Event.incoming]
    · simp [Mute, Event.incoming, Event.outgoing]
  | unsettable c =>
    refine .inr ⟨c, ⟨⟨_, _, rfl, rfl⟩, ?_, rfl, ?_⟩, ?_, .inr ⟨_, rfl⟩⟩
    · simp [Event.target?]
    · simp [Outward, Event.incoming]
    · simp [Mute, Event.incoming, Event.outgoing]
  | unset c =>
    refine .inr ⟨c, ⟨⟨_, _, rfl, rfl⟩, ?_, rfl, ?_⟩, ?_, .inr ⟨_, rfl⟩⟩
    · simp [Event.target?]
    · simp [Outward, Event.incoming]
    · simp [Mute, Event.incoming, Event.outgoing]
  | socketConnected c =>
    refine .inr ⟨c, ⟨⟨_, _, rfl, rfl⟩, ?_, rfl, ?_⟩, ?_, .inl rfl⟩
    · simp [Event.target?]
    · simp [Outward, Event.incoming]
    · simp [Mute, Event.incoming, Event.outgoing]
  | socketRefused c _ fault gone =>
    have first : Made c [.socket (some c), .setTimeout c timeout (some ()),
        .connectSocket c address.socketName none] := by
      refine ⟨⟨_, _, rfl, rfl⟩, ?_, rfl, ?_⟩
      · simp [Event.target?]
      · simp [Outward, Event.incoming]
    refine .inr ⟨c, first.append gone.target? gone.opened_eq_nil gone.mute.outward, ?_,
      .inr ⟨_, rfl⟩⟩
    refine Mute.append ?_ gone.mute
    simp [Mute, Event.incoming, Event.outgoing]

/-- A connection that is reached is the one that was made. -/
theorem Dialing.made_of_ok {address : Address} {timeout : Int} {dialer : Dialer}
    (h : Dialing address timeout dialer es (.ok c)) : Made c es ∧ Mute es := by
  obtain ⟨-, e, he⟩ | ⟨c', made, mute, he | ⟨e, he⟩⟩ := h.made
  · cases he
  · cases he
    exact ⟨made, mute⟩
  · cases he

namespace Session

/-- How the line that binds a connection to a session ended up: accepted whole, or not to its
end. -/
inductive Bound (session : Session) (c : ConnectionId) (es : List Event) :
    Except Failure ConnectionId → Session → Prop
  | unbound {e : Failure} {after : Session} (unended : Reply.lineEnd ∉ accepted c es) :
      Bound session c es (.error e) after
  | bound {command : Command} {after : Session} (introduced : Introduced session command after)
      (line : accepted c es = command.line)
      (conversation : es.foldl (converse c) [] =
        [{ line := command.line, left := [], sending := false }]) :
      Bound session c es (.ok c) after

/-- Joining a session makes no connection, or makes one and tries to bind it. -/
theorem Joining.made {route : Route} {address : Address} {timeout : Int} {session after : Session}
    {r : Except Failure ConnectionId} (h : Joining route address timeout session es r after) :
    (Unmade es ∧ ∃ e, r = .error e) ∨ ∃ c, Made c es ∧ Bound session c es r after := by
  have blocked : ∀ {c : ConnectionId} {es : List Event} (result : Option Unit), Made c es →
      Mute es → Made c (es ++ [.setBlocking c result]) ∧ Mute (es ++ [.setBlocking c result]) := by
    intro c es result made mute
    refine ⟨made.append ?_ rfl ?_, mute.append ?_⟩
    · simp [Event.target?]
    · simp [Outward, Event.incoming]
    · simp [Mute, Event.incoming, Event.outgoing]
  cases h with
  | undialed dial =>
    obtain ⟨unmade, -⟩ | ⟨c, made, mute, -⟩ := dial.made
    · exact .inl ⟨unmade, _, rfl⟩
    · refine .inr ⟨c, made, .unbound ?_⟩
      rw [mute.accepted_eq_nil]
      exact List.not_mem_nil
  | @unset es fs c fault e dial gone =>
    obtain ⟨made, mute⟩ := dial.made_of_ok
    obtain ⟨made, mute⟩ := blocked none made mute
    rw [List.append_cons]
    refine .inr ⟨c, made.append gone.target? gone.opened_eq_nil gone.mute.outward, .unbound ?_⟩
    rw [(mute.append gone.mute).accepted_eq_nil]
    exact List.not_mem_nil
  | unwritable dial =>
    obtain ⟨made, mute⟩ := dial.made_of_ok
    obtain ⟨made, mute⟩ := blocked (some ()) made mute
    refine .inr ⟨_, made, .unbound ?_⟩
    rw [mute.accepted_eq_nil]
    exact List.not_mem_nil
  | @unsent es fs gs c command after cause e dial introduced sends gone =>
    obtain ⟨made, mute⟩ := dial.made_of_ok
    obtain ⟨made, mute⟩ := blocked (some ()) made mute
    have made := (made.append sends.target? sends.opened_eq_nil sends.outward).append gone.target?
      gone.opened_eq_nil gone.mute.outward
    obtain ⟨left, hline, hleft⟩ := sends.accepted
    rw [List.append_cons, ← List.append_assoc]
    refine .inr ⟨c, made, .unbound ?_⟩
    rw [accepted_append, accepted_append, mute.accepted_eq_nil, gone.mute.accepted_eq_nil,
      List.append_nil, List.nil_append]
    exact Command.lineEnd_not_mem_of_line_eq hline hleft
  | @joined es fs c command after dial introduced sends =>
    obtain ⟨made, mute⟩ := dial.made_of_ok
    obtain ⟨made, mute⟩ := blocked (some ()) made mute
    have made := made.append sends.target? sends.opened_eq_nil sends.outward
    obtain ⟨left, hline, hleft⟩ := sends.accepted
    have silent : Paused [] := by simp [Paused]
    obtain ⟨left', hfold, hleft'⟩ := sends.foldl_converse command.line_ne_nil silent
    have hleft : left = [] := hleft
    have hleft' : left' = [] := hleft'
    subst hleft hleft'
    rw [List.append_cons]
    refine .inr ⟨c, made, .bound introduced ?_ ?_⟩
    · rw [accepted_append, mute.accepted_eq_nil, List.nil_append, hline, List.append_nil]
    · rw [List.foldl_append, mute.foldl_converse, hfold]

end Session

end SessionStream
