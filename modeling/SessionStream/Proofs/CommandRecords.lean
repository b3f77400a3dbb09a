import SessionStream.Proofs.Commands

/-!
# What commands leave on record

The calls of a command are those of its opening, of its work and of its close. The opening makes
the control connection and creates the session on it. The work makes at most one connection more,
for which a transfer is announced on the control connection, and the close moves no bytes at all.

## Main definitions

- `Traffic` — calls on a connection that was made before and is kept
- `Link.Negotiating` — what the making of the first data connection leaves on record
- `Link.Visited` — what the opening and the close of a stream leave around its work

## Main results

- `payload_mono` — the payload of a connection grows with the record
- `Session.Joining.greeting_of_ok` — what opening a stream leaves on record
- `Link.Connecting.negotiating` — a first data connection, or the failure to make one
- `Link.Releasing.ok_iff` — a stream is closed well exactly if its control connection is
- `Link.Releasing.visited` — opening, work and close put together
-/

namespace SessionStream

variable {c : ConnectionId} {es fs : List Event}

-- ════════════════════════════════════════════════════════════════════════
-- Parts of a record
-- ════════════════════════════════════════════════════════════════════════

theorem accepted_mono {moment trace : List Event} (h : moment <+: trace) (c : ConnectionId) :
    accepted c moment <+: accepted c trace := by
  obtain ⟨later, rfl⟩ := h
  rw [accepted_append]
  exact List.prefix_append ..

theorem behindLine_mono {bytes more : Bytes} (h : bytes <+: more) :
    behindLine bytes <+: behindLine more := by
  obtain ⟨later, rfl⟩ := h
  unfold behindLine
  rw [List.dropWhile_append]
  cases found : bytes.dropWhile (· ≠ Reply.lineEnd) with
  | nil => exact List.nil_prefix
  | cons b behind => exact List.prefix_append ..

/-- The payload of a connection grows with the record. -/
theorem payload_mono {moment trace : List Event} (h : moment <+: trace) (c : ConnectionId) :
    payload c moment <+: payload c trace :=
  behindLine_mono (accepted_mono h c)

theorem Untouched.append (h : Untouched c es) (h' : Untouched c fs) : Untouched c (es ++ fs) :=
  fun e he => (List.mem_append.1 he).elim (h e) (h' e)

theorem mem_closed_of_mem {result : Option Unit} (h : .close c result ∈ es) : c ∈ closed es :=
  List.mem_filterMap.2 ⟨_, h, rfl⟩

/-- A connection that was given up was called on. -/
theorem Untouched.not_mem_closed (h : Untouched c es) : c ∉ closed es := by
  intro gone
  obtain ⟨e, he, close⟩ := List.mem_filterMap.1 gone
  cases e with
  | close c' result => exact h _ he close
  | _ => cases close

/-- These calls are on one connection, which they neither make nor give up. -/
def Traffic (c : ConnectionId) (es : List Event) : Prop :=
  ∀ e ∈ es, e.target? = some c ∧ e.opened? = none ∧ e.closed? = none

namespace Traffic

theorem nil (c : ConnectionId) : Traffic c [] :=
  fun _ he => absurd he List.not_mem_nil

theorem send (c : ConnectionId) (offered : Bytes) (result : Option Nat) :
    Traffic c [.send c offered result] := by
  intro e he
  rw [List.mem_singleton.1 he]
  exact ⟨rfl, rfl, rfl⟩

theorem append (h : Traffic c es) (h' : Traffic c fs) : Traffic c (es ++ fs) :=
  fun e he => (List.mem_append.1 he).elim (h e) (h' e)

theorem target? (h : Traffic c es) : ∀ e ∈ es, e.target? = some c :=
  fun e he => (h e he).1

theorem opened_eq_nil (h : Traffic c es) : opened es = [] :=
  List.filterMap_eq_nil_iff.2 fun e he => (h e he).2.1

theorem closed_eq_nil (h : Traffic c es) : closed es = [] :=
  List.filterMap_eq_nil_iff.2 fun e he => (h e he).2.2

end Traffic

/-- Connections are made once. -/
theorem Network.Numbered.nodup {net : Network} (numbered : net.Numbered) :
    (opened net.trace).Nodup :=
  @World.nodup_of_numbered { host := { network := net } } numbered

/-- Connections have the first numbers there are. -/
theorem Network.Numbered.opened_eq {net : Network} {cs : List ConnectionId}
    (numbered : net.Numbered) (made : opened net.trace = cs) :
    cs = (List.range cs.length).map ConnectionId.mk := by
  subst made
  have numbers : opened net.trace = _ := numbered
  have count := congrArg List.length numbers
  rw [List.length_map, List.length_range] at count
  rw [count]
  exact numbers

/-- Nothing is left of a line exactly if it was sent without a failure. -/
theorem Leaves.ok_iff {left : Bytes} {r : Except Failure Unit} (h : Leaves left r) :
    r = .ok () ↔ left = [] := by
  cases r with
  | ok u => exact ⟨fun _ => h, fun _ => rfl⟩
  | error e => exact ⟨fun fine => (by cases fine), fun none => absurd none h⟩

-- ════════════════════════════════════════════════════════════════════════
-- Opening
-- ════════════════════════════════════════════════════════════════════════

/-- A connection that was reached has not been given up. -/
theorem Dialing.closed_eq_nil {address : Address} {timeout : Int} {dialer : Dialer}
    (h : Dialing address timeout dialer es (.ok c)) : closed es = [] := by
  cases h <;> rfl

/-- A session that was joined: the calls are on one new connection, which accepted the line that
binds it, and it has not been given up. -/
theorem Session.Joining.greeting_of_ok {route : Route} {address : Address} {timeout : Int}
    {session after : Session} (h : Joining route address timeout session es (.ok c) after) :
    Made c es ∧ closed es = [] ∧
      ∃ command, Introduced session command after ∧ accepted c es = command.line := by
  have kept : closed es = [] := by
    cases h with
    | joined dial _ sends =>
      rw [closed_append, dial.closed_eq_nil]
      exact sends.closed_eq_nil
  obtain ⟨-, e, he⟩ | ⟨c', made, bound⟩ := h.made
  · cases he
  · cases bound with
    | bound introduced line => exact ⟨made, kept, _, introduced, line⟩

/-- An open stream of a command: its control connection is new and has created the first session. -/
theorem Link.Serves.greeting {invocation : Invocation} {link : Link} {route : Route}
    {address : Address} {timeout : Int} {range : Timeout.Range}
    (serves : link.Serves invocation range)
    (join : Session.Joining route address timeout { direction := invocation.direction } es
      (.ok link.control) link.session) :
    Made link.control es ∧ closed es = [] ∧
      accepted link.control es = (Command.newSession invocation.direction 1).line := by
  obtain ⟨made, kept, command, introduced, line⟩ := join.greeting_of_ok
  refine ⟨made, kept, line.trans ?_⟩
  rw [serves.session] at introduced
  cases introduced with
  | created => rfl

/-- A session that could not be joined: at most one connection was made, and it accepted no whole
line. -/
theorem Session.Joining.unended_of_error {route : Route} {address : Address} {timeout : Int}
    {session after : Session} {e : Failure}
    (h : Joining route address timeout session es (.error e) after) :
    (opened es = [] ∧ ∀ c, Untouched c es) ∨
      ∃ c, Made c es ∧ Reply.lineEnd ∉ accepted c es := by
  obtain ⟨unmade, -⟩ | ⟨c, made, bound⟩ := h.made
  · left
    have untouched : ∀ c, Untouched c es := by
      intro c e he
      rw [unmade.target e he]
      exact nofun
    refine ⟨List.eq_nil_iff_forall_not_mem.2 fun c => (untouched c).not_mem_opened, untouched⟩
  · cases bound with
    | unbound unended => exact .inr ⟨c, made, unended⟩

-- ════════════════════════════════════════════════════════════════════════
-- Exchanges
-- ════════════════════════════════════════════════════════════════════════

/-- To read a reply offers no bytes. -/
theorem Wire.Hearing.accepted_eq_nil {overflow : Failure} {room : Nat} {line : Bytes}
    {r : Except Failure Bytes} (h : Hearing c overflow room line es r) (k : ConnectionId) :
    accepted k es = [] := by
  refine List.flatMap_eq_nil_iff.2 fun e he => ?_
  obtain ⟨result, rfl⟩ := h.isReceive e he
  rfl

namespace Wire.Exchanged

variable {line : Bytes}

/-- What a connection accepts in an exchange is the beginning of the line. -/
theorem accepted_prefix {r : Except Failure Bytes} (h : Exchanged c line es r) :
    accepted c es <+: line := by
  cases h with
  | unsent sends =>
    obtain ⟨left, whole, -⟩ := sends.accepted
    exact ⟨left, whole.symm⟩
  | sent sends receives =>
    obtain ⟨left, whole, -⟩ := sends.accepted
    refine ⟨left, ?_⟩
    rw [accepted_append, receives.accepted_eq_nil, List.append_nil]
    exact whole.symm

/-- A command that was answered was accepted whole. -/
theorem accepted_of_ok {reply : Bytes} (h : Exchanged c line es (.ok reply)) :
    accepted c es = line := by
  cases h with
  | sent sends receives =>
    obtain ⟨left, whole, none⟩ := sends.accepted
    obtain rfl : left = [] := none
    rw [accepted_append, receives.accepted_eq_nil, whole]

/-- A connection that is made behind an answered command. -/
theorem then_made {k : ConnectionId} {reply : Bytes} (h : Exchanged k line es (.ok reply))
    (made : Made c fs) (apart : k ∉ opened (es ++ fs)) :
    opened (es ++ fs) = [c] ∧ accepted k (es ++ fs) = line ∧
      accepted c (es ++ fs) = accepted c fs ∧ k ∉ closed (es ++ fs) := by
  rw [opened_append, h.opened_eq_nil, List.nil_append] at apart ⊢
  have other : c ≠ k := by
    rintro rfl
    rw [made.opened_eq] at apart
    exact apart (List.mem_singleton.2 rfl)
  have away : Untouched k fs := made.selfContained.untouched apart
  refine ⟨made.opened_eq, ?_, ?_, ?_⟩
  · rw [accepted_append, away.accepted_eq_nil, List.append_nil, h.accepted_of_ok]
  · rw [accepted_append, (untouched_of_target h.target? other).accepted_eq_nil, List.nil_append]
  · rw [closed_append, h.closed_eq_nil]
    exact away.not_mem_closed

end Wire.Exchanged

-- ════════════════════════════════════════════════════════════════════════
-- The first data connection
-- ════════════════════════════════════════════════════════════════════════

namespace Link

variable {link after : Link} {session : Session}

/-- What the making of the first data connection leaves on record, for the session with this id: the
control connection, which is kept, accepts the announcement or a part of it, and only behind a
whole announcement a connection is made, which accepts the line that binds it or a part without its
end. -/
inductive Negotiating (link : Link) (id : Int) : List Event → Except Failure ConnectionId → Prop
  | unmade {es : List Event} {e : Failure} (made : opened es = [])
      (line : accepted link.control es <+: link.announcement.line)
      (others : ∀ c, c ≠ link.control → Untouched c es) (kept : link.control ∉ closed es) :
      Negotiating link id es (.error e)
  | unbound {es : List Event} {c : ConnectionId} {e : Failure} (made : opened es = [c])
      (announced : accepted link.control es = link.announcement.line)
      (unended : Reply.lineEnd ∉ accepted c es) (kept : link.control ∉ closed es) :
      Negotiating link id es (.error e)
  | bound {es : List Event} {c : ConnectionId} (made : opened es = [c])
      (announced : accepted link.control es = link.announcement.line)
      (line : accepted c es = (Command.runSession id).line) (kept : link.control ∉ closed es) :
      Negotiating link id es (.ok c)

/-- Without a call, nothing was made. -/
theorem Negotiating.silent (link : Link) (id : Int) (e : Failure) :
    Negotiating link id [] (.error e) :=
  .unmade rfl List.nil_prefix (fun c _ => .nil c) List.not_mem_nil

/-- A command that was not answered as it has to be. -/
theorem Negotiating.of_exchange {heard : Except Failure Bytes} (id : Int) (e : Failure)
    (exchange : Wire.Exchanged link.control link.announcement.line es heard) :
    Negotiating link id es (.error e) := by
  refine .unmade exchange.opened_eq_nil exchange.accepted_prefix ?_ ?_
  · exact fun c other => untouched_of_target exchange.target? other
  · rw [exchange.closed_eq_nil]
    exact List.not_mem_nil

theorem Connecting.negotiating {r : Except Failure ConnectionId} {id : Int}
    (h : Connecting link es r after) (without : link.data = none)
    (known : link.session.id = some id) (apart : link.control ∉ opened es) :
    Negotiating link id es r := by
  cases h with
  | kept has =>
    rw [without] at has
    cases has
  | unwritable => exact .silent link id _
  | unheard _ exchange => exact .of_exchange id _ exchange
  | rejected _ exchange => exact .of_exchange id _ exchange
  | @unjoined es fs line e session _ exchange _ join =>
    rcases join.unended_of_error with ⟨none, untouched⟩ | ⟨c, made, unended⟩
    · refine .unmade ?_ ?_ ?_ ?_
      · rw [opened_append, exchange.opened_eq_nil, none]
        rfl
      · rw [accepted_append, (untouched _).accepted_eq_nil, List.append_nil]
        exact exchange.accepted_prefix
      · intro c other
        exact (untouched_of_target exchange.target? other).append (untouched c)
      · rw [closed_append, exchange.closed_eq_nil]
        exact (untouched _).not_mem_closed
    · obtain ⟨made, announced, new, kept⟩ := exchange.then_made made apart
      exact .unbound made announced (new ▸ unended) kept
  | @joined es fs line c session _ exchange _ join =>
    obtain ⟨made, -, command, introduced, line⟩ := join.greeting_of_ok
    obtain ⟨made, announced, new, kept⟩ := exchange.then_made made apart
    obtain ⟨rfl, -⟩ := introduced.of_id_eq_some known
    exact .bound made announced (new ▸ line) kept

-- ════════════════════════════════════════════════════════════════════════
-- The close
-- ════════════════════════════════════════════════════════════════════════

/-- A stream is closed without a failure exactly if the close of its control connection succeeds. -/
theorem Releasing.ok_iff {r : Except Failure Unit} (h : Releasing link es r)
    (apart : link.data ≠ some link.control) :
    r = .ok () ↔ .close link.control (some ()) ∈ es := by
  have last {r : Except Failure Unit} {es : List Event}
      (called : Called (.close link.control) (fun _ => True) r es) :
      r = .ok () ↔ .close link.control (some ()) ∈ es := by
    cases called with
    | answered => simp
    | failed => simp
  cases h with
  | single _ called => exact last called
  | @both c result _ _ has called =>
    rw [last called, List.mem_cons, or_iff_right]
    intro same
    cases same
    exact apart has
  | misused => simp

/-- Only a fault of the network keeps a stream from being closed. -/
theorem Releasing.exists_fault {e : Failure} (h : Releasing link es (.error e)) :
    ∃ f, e = .fault f := by
  have last {e : Failure} {es : List Event}
      (called : Called (.close link.control) (fun _ => True) (.error e : Except Failure Unit) es) :
      ∃ f, e = .fault f := by
    cases called with
    | failed f => exact ⟨f, rfl⟩
  cases h with
  | single _ called => exact last called
  | both _ called => exact last called
  | misused fault => exact ⟨fault, rfl⟩

/-- A command ends well exactly if its work and the close of its stream do. -/
theorem closing_bind_eq_ok_iff {closing r : Except Failure Unit} :
    (closing >>= fun _ => r) = .ok () ↔ closing = .ok () ∧ r = .ok () := by
  cases closing with
  | ok u => exact ⟨fun fine => ⟨rfl, fine⟩, And.right⟩
  | error e => exact ⟨fun fine => (by cases fine), fun fine => (by cases fine.1)⟩

/-- The close of a stream is the only one of its control connection. -/
theorem Releasing.mem_iff {r : Except Failure Unit} {gs : List Event} (h : Releasing link gs r)
    (es fs : List Event) (apart : link.data ≠ some link.control) (kept : link.control ∉ closed es)
    (kept' : link.control ∉ closed fs) :
    .close link.control (some ()) ∈ es ++ (fs ++ gs) ↔ r = .ok () := by
  rw [h.ok_iff apart, List.mem_append, List.mem_append, or_iff_right, or_iff_right]
  · exact fun closed => kept' (mem_closed_of_mem closed)
  · exact fun closed => kept (mem_closed_of_mem closed)

/-- What the opening and the close of a stream add to the calls `fs` of the work between them: one
connection, the line that binds it, and its close. -/
structure Visited (control : ConnectionId) (greeting : Bytes) (fs trace : List Event)
    (closing : Except Failure Unit) : Prop where
  connections : opened trace = control :: opened fs
  greeted : accepted control trace = greeting ++ accepted control fs
  others : ∀ c, c ≠ control → accepted c trace = accepted c fs
  closes : control ∉ closed fs → (.close control (some ()) ∈ trace ↔ closing = .ok ())

theorem Releasing.visited {es gs : List Event} {control : ConnectionId} {greeting : Bytes}
    {closing : Except Failure Unit} (h : Releasing after gs closing)
    (same : after.control = control) (apart : after.data ≠ some after.control)
    (made : Made control es) (kept : closed es = []) (greeted : accepted control es = greeting)
    (fs : List Event) : Visited control greeting fs (es ++ (fs ++ gs)) closing where
  connections := by
    rw [opened_append, opened_append, made.opened_eq, h.opened_eq_nil, List.append_nil]
    rfl
  greeted := by
    rw [accepted_append, accepted_append, greeted, h.mute.1.accepted_eq_nil, List.append_nil]
  others c other := by
    rw [accepted_append, accepted_append, h.mute.1.accepted_eq_nil, List.append_nil,
      (untouched_of_target made.target other).accepted_eq_nil, List.nil_append]
  closes kept' := by
    have only := h.mem_iff es fs apart (kept ▸ List.not_mem_nil)
    rw [same] at only
    exact only kept'

/-- **The connections of a stream stay apart**: whatever a stream does that was opened and moved to
its start, its data connection is not its control connection. -/
theorem Moves.apart {ps : List Placed} {offset : Nat} (fresh : link.Fresh)
    (join : Session.Joining link.settings.route link.address link.settings.timeout.effective
      session es (.ok link.control) link.session)
    (moves : Moves { link with position := offset } fs ps after)
    (nodup : (opened (es ++ fs)).Nodup) :
    after.control = link.control ∧ after.data ≠ some after.control := by
  have start : Moves link [] [] { link with position := offset } := by
    by_cases stays : offset = link.position
    · subst stays
      exact .refl link
    · exact (Move.moving (.moved rfl stays fresh.data)).moves
  have whole : Moves link fs ps after := start.trans moves
  obtain ⟨made, -, -⟩ := join.greeting_of_ok
  obtain ⟨e, later, called, -⟩ := made.opening
  have orderly : Orderly es :=
    ⟨made.selfContained, made.outward.settled (called ▸ List.cons_ne_nil e later) []⟩
  have sound : link.Sound es := by
    obtain ⟨settings, session', address, control, data, position, outOfStep⟩ := link
    obtain ⟨rfl, rfl, rfl⟩ := fresh
    exact sound_of_joining join ⟨.nil, fun _ => rfl⟩ (nodup_opened_left nodup)
  have later := (whole.sound orderly sound nodup).2
  refine ⟨whole.keeps.1, fun has => ?_⟩
  obtain ⟨_, carries⟩ := later.carries _ has
  exact later.control_ne carries rfl

end Link

end SessionStream
