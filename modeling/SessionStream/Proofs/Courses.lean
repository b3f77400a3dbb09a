import Mathlib.Logic.Function.Basic
import SessionStream.Proofs.Histories

/-!
# The course of a connection

What may be called on a connection, and in which order, depends on what the connection is for. Every
connection is reached, put into blocking mode and bound by one line; behind that line a control
connection carries commands and replies, and a data connection carries payload in the one direction
of its stream. A close ends it. This file states that order as a grammar of the calls on one
connection, and proves that every connection keeps to it in every run.

## Main definitions

- `Role` — what a connection is for
- `Stage` — how far a connection has got
- `Course` — the calls on a connection that keep to its role
- `ByteStream.Assigns` — the role that a stream gives to a connection that it holds

## Main results

- `ByteStream.Evolves.charted` — whatever a stream does, all connections keep to their roles
- `World.course_of_role` — they do so in every run, with one role for the whole of it

## Design notes

A line is sent in the same way wherever it is sent, so both kinds of lines share the stage in which
a part of a line is left. They differ in what a send that takes nothing means: without its first
line a connection is of no use, while a control connection waits for the next command.
-/

namespace SessionStream

variable {c k : ConnectionId} {es fs trace : List Event} {ps : List Placed}

/-- What a connection is for, once it is bound. -/
inductive Role where
  /-- The commands of a stream of this direction, and the replies to them. -/
  | control (direction : Direction)
  /-- The payload of a stream of this direction. -/
  | data (direction : Direction)
  /-- Nothing that a stream does. -/
  | idle
  deriving DecidableEq, Repr

/-- How far a connection has got. -/
inductive Stage where
  /-- A socket was made. -/
  | made
  /-- It has its connect timeout. -/
  | timed
  /-- It is connected. -/
  | reached
  /-- It is in blocking mode. -/
  | blocking
  /-- A line, the first one or a later one, is on its way, and this is left of it. -/
  | sending (first : Bool) (left : Bytes)
  /-- The first line was accepted whole, and no line is on its way. -/
  | bound
  /-- It cannot be bound any more. -/
  | failed
  /-- It was given up. -/
  | closed
  deriving DecidableEq, Repr

/-- The stage after a send of all that is left of a line. -/
def Stage.offered (first : Bool) (left : Bytes) : Option Nat → Stage
  | some (count + 1) =>
    if left.drop (count + 1) = [] then .bound else .sending first (left.drop (count + 1))
  | _ => if first then .failed else .bound

/-- The lines that bind a connection to a session. -/
def Command.Binds : Command → Prop
  | .newSession .. => True
  | .runSession _ => True
  | _ => False

/-- The commands on the control connection of a stream of this direction. -/
def Command.Asks (direction : Direction) (command : Command) : Prop :=
  command = .stat ∨ ∃ offset : Nat, command = .transfer direction offset

/-- The calls on a connection, from the one that made it on, that keep to its role. -/
inductive Course (role : Role) (c : ConnectionId) : Stage → List Event → Prop
  | connected (target : String) (timeout : Int) :
      Course role c .reached [.connect target timeout (some c)]
  | socket : Course role c .made [.socket (some c)]
  | timed {es : List Event} (so : Course role c .made es) (timeout : Int) :
      Course role c .timed (es ++ [.setTimeout c timeout (some ())])
  | untimed {es : List Event} (so : Course role c .made es) (timeout : Int) :
      Course role c .failed (es ++ [.setTimeout c timeout none])
  | socketConnected {es : List Event} (so : Course role c .timed es) (name : SocketName) :
      Course role c .reached (es ++ [.connectSocket c name (some ())])
  | socketRefused {es : List Event} (so : Course role c .timed es) (name : SocketName) :
      Course role c .failed (es ++ [.connectSocket c name none])
  | set {es : List Event} (so : Course role c .reached es) :
      Course role c .blocking (es ++ [.setBlocking c (some ())])
  | unset {es : List Event} (so : Course role c .reached es) :
      Course role c .failed (es ++ [.setBlocking c none])
  | binds {es : List Event} {command : Command} (so : Course role c .blocking es)
      (binds : command.Binds) (result : Option Nat) :
      Course role c (.offered true command.line result) (es ++ [.send c command.line result])
  | asks {es : List Event} {direction : Direction} {command : Command}
      (so : Course role c .bound es) (control : role = .control direction)
      (asks : command.Asks direction) (result : Option Nat) :
      Course role c (.offered false command.line result) (es ++ [.send c command.line result])
  | goesOn {es : List Event} {first : Bool} {left : Bytes}
      (so : Course role c (.sending first left) es) (result : Option Nat) :
      Course role c (.offered first left result) (es ++ [.send c left result])
  | hears {es : List Event} {direction : Direction} (so : Course role c .bound es)
      (control : role = .control direction) (result : Option Bytes) :
      Course role c .bound (es ++ [.receive c 1 result])
  | receives {es : List Event} (so : Course role c .bound es) (data : role = .data .read)
      (limit : Nat) (result : Option Bytes) :
      Course role c .bound (es ++ [.receiveInto c limit result])
  | sends {es : List Event} (so : Course role c .bound es) (data : role = .data .write)
      (payload : Bytes) (result : Option Nat) :
      Course role c .bound (es ++ [.send c payload result])
  | closed {es : List Event} {stage : Stage} (so : Course role c stage es)
      (unclosed : stage ≠ .closed) (result : Option Unit) :
      Course role c .closed (es ++ [.close c result])

namespace Course

variable {role : Role} {stage : Stage}

/-- A course is that of the one connection which its first call has made. -/
theorem on_one (h : Course role c stage es) :
    opened es = [c] ∧ ∀ e ∈ es, e.target? = some c := by
  have concat : ∀ {es : List Event} (e : Event), (opened es = [c] ∧ ∀ e ∈ es, e.target? = some c) →
      e.opened? = none → e.target? = some c →
      opened (es ++ [e]) = [c] ∧ ∀ e' ∈ es ++ [e], e'.target? = some c := by
    intro es e ⟨hopened, htarget⟩ unopened target
    refine ⟨by simp [hopened, unopened], fun e' he => ?_⟩
    rcases List.mem_append.1 he with he | he
    · exact htarget e' he
    · rwa [List.mem_singleton.1 he]
  induction h with
  | connected => simp [Event.opened?, Event.target?]
  | socket => simp [Event.opened?, Event.target?]
  | _ => exact concat _ (by assumption) rfl rfl

theorem offered_ne_closed (first : Bool) (left : Bytes) (result : Option Nat) :
    Stage.offered first left result ≠ .closed := by
  unfold Stage.offered
  split <;> split <;> simp

/-- A line that the connection may be offered goes out send by send. It is accepted whole, or no
more of it is offered. -/
theorem transmission {first : Bool} {data : Bytes} {r : Except Failure Unit}
    (sends : Wire.Transmission c data fs r) (nonempty : data ≠ [])
    (offers : ∀ result, Course role c (.offered first data result) (es ++ [.send c data result])) :
    ∃ after, Course role c after (es ++ fs) ∧ after ≠ .closed ∧
      (first = false ∨ r = .ok () → after = .bound) := by
  induction sends generalizing es with
  | done => exact absurd rfl nonempty
  | @advanced b later count fs r fits rest ih =>
    have sent := offers (some (count + 1))
    rw [List.append_cons]
    by_cases whole : later.drop count = []
    · rw [whole] at rest
      cases rest
      refine ⟨.bound, ?_, Stage.noConfusion, fun _ => rfl⟩
      simpa [Stage.offered, whole] using sent
    · refine ih whole fun result => ?_
      refine .goesOn ?_ result
      simpa [Stage.offered, whole] using sent
  | refused =>
    exact ⟨_, offers (some 0), offered_ne_closed _ _ _, by simp [Stage.offered]⟩
  | failed =>
    exact ⟨_, offers none, offered_ne_closed _ _ _, by simp [Stage.offered]⟩

/-- The bytes of a reply come in one by one. -/
theorem hearing {direction : Direction} {overflow : Failure} {room : Nat} {line : Bytes}
    {r : Except Failure Bytes} (so : Course role c .bound es) (control : role = .control direction)
    (receives : Wire.Hearing c overflow room line fs r) : Course role c .bound (es ++ fs) := by
  induction receives generalizing es with
  | overflowed => rwa [List.append_nil]
  | advanced _ _ ih =>
    rw [List.append_cons]
    exact ih (.hears so control _)
  | _ => exact .hears so control _

/-- A command and its reply leave a control connection bound. -/
theorem exchange {direction : Direction} {command : Command} {r : Except Failure Bytes}
    (so : Course role c .bound es) (control : role = .control direction)
    (asks : command.Asks direction) (exchange : Wire.Exchanged c command.line fs r) :
    Course role c .bound (es ++ fs) := by
  have offers := Course.asks so control asks
  cases exchange with
  | unsent sends =>
    obtain ⟨after, so, -, bound⟩ := transmission sends command.line_ne_nil offers
    exact bound (.inl rfl) ▸ so
  | sent sends receives =>
    obtain ⟨after, so, -, bound⟩ := transmission sends command.line_ne_nil offers
    obtain rfl := bound (.inl rfl)
    rw [← List.append_assoc]
    exact so.hearing control receives

/-- A connection whose making failed is closed, or nothing more is called on it. -/
theorem givenUp {cause final e : Failure} (so : Course role c stage es) (unclosed : stage ≠ .closed)
    (gone : GivenUp c cause final fs e) : ∃ after, Course role c after (es ++ fs) := by
  cases gone with
  | closed => exact ⟨_, so.closed unclosed _⟩
  | closeFailed => exact ⟨_, so.closed unclosed _⟩
  | left => exact ⟨stage, by rwa [List.append_nil]⟩

end Course

-- ════════════════════════════════════════════════════════════════════════
-- Making connections
-- ════════════════════════════════════════════════════════════════════════

/-- A connection was made and keeps to the role, and has got as far as `stage` if there is a result;
or none was made. -/
def Embarks (role : Role) (stage : Stage) (es : List Event) (r : Except Failure ConnectionId) :
    Prop :=
  (opened es = [] ∧ (∀ c, Untouched c es) ∧ ∃ e, r = .error e) ∨
    ∃ c stage', Course role c stage' es ∧ ∀ c', r = .ok c' → c' = c ∧ stage' = stage

theorem Dialing.embarks {address : Address} {timeout : Int} {dialer : Dialer}
    {r : Except Failure ConnectionId} (h : Dialing address timeout dialer es r) (role : Role) :
    Embarks role .reached es r := by
  have asked : ∀ c : ConnectionId,
      Course role c .timed [.socket (some c), .setTimeout c timeout (some ())] :=
    fun c => Course.socket.timed timeout
  cases h with
  | connected c => exact .inr ⟨c, _, .connected _ _, by simp⟩
  | refused fault => exact .inl ⟨rfl, by simp [Untouched, Event.target?], _, rfl⟩
  | noSocket fault => exact .inl ⟨rfl, by simp [Untouched, Event.target?], _, rfl⟩
  | unsettable c => exact .inr ⟨c, _, .socket, by simp⟩
  | unset c => exact .inr ⟨c, _, Course.socket.untimed timeout, by simp⟩
  | socketConnected c => exact .inr ⟨c, _, (asked c).socketConnected _, by simp⟩
  | socketRefused c _ fault gone =>
    obtain ⟨after, so⟩ := ((asked c).socketRefused _).givenUp Stage.noConfusion gone
    exact .inr ⟨c, after, so, by simp⟩

theorem Session.Introduced.binds {session after : Session} {command : Command}
    (h : Introduced session command after) : command.Binds := by
  cases h <;> trivial

theorem Dialing.reached {address : Address} {timeout : Int} {dialer : Dialer}
    (h : Dialing address timeout dialer es (.ok c)) (role : Role) :
    Course role c .reached es := by
  obtain ⟨-, -, e, he⟩ | ⟨c', stage, so, ends⟩ := h.embarks role
  · cases he
  · obtain ⟨rfl, rfl⟩ := ends c rfl
    exact so

/-- **Step lemma**: joining a session, a connection keeps to any role that it will have. -/
theorem Session.Joining.embarks {route : Route} {address : Address} {timeout : Int}
    {session after : Session} {r : Except Failure ConnectionId}
    (h : Joining route address timeout session es r after) (role : Role) :
    Embarks role .bound es r := by
  cases h with
  | undialed dial =>
    obtain ⟨unopened, untouched, -⟩ | ⟨c, stage, so, -⟩ := dial.embarks role
    · exact .inl ⟨unopened, untouched, _, rfl⟩
    · exact .inr ⟨c, stage, so, nofun⟩
  | @unset _ _ c _ _ dial gone =>
    rw [List.append_cons]
    obtain ⟨stage, so⟩ := (dial.reached role).unset.givenUp Stage.noConfusion gone
    exact .inr ⟨c, stage, so, nofun⟩
  | @unwritable _ c _ _ dial => exact .inr ⟨c, _, (dial.reached role).set, nofun⟩
  | @unsent _ _ _ c command _ _ _ dial introduced sends gone =>
    obtain ⟨stage, so, unclosed, -⟩ := Course.transmission sends command.line_ne_nil
      ((dial.reached role).set.binds introduced.binds)
    obtain ⟨stage, so⟩ := so.givenUp unclosed gone
    rw [List.append_cons, ← List.append_assoc]
    exact .inr ⟨c, stage, so, nofun⟩
  | @joined _ _ c command _ dial introduced sends =>
    obtain ⟨stage, so, -, bound⟩ := Course.transmission sends command.line_ne_nil
      ((dial.reached role).set.binds introduced.binds)
    rw [List.append_cons]
    refine .inr ⟨c, stage, so, fun c' hc => ?_⟩
    cases hc
    exact ⟨rfl, bound (.inr rfl)⟩

-- ════════════════════════════════════════════════════════════════════════
-- Streams
-- ════════════════════════════════════════════════════════════════════════

/-- The role that a stream gives to a connection that it holds. -/
inductive ByteStream.Assigns (stream : ByteStream) (c : ConnectionId) : Role → Prop
  | control (held : stream.control = some c) : Assigns stream c (.control stream.direction)
  | data (held : stream.data = some c) : Assigns stream c (.data stream.direction)

/-- Every connection keeps to its role. -/
def Charted (roles : ConnectionId → Role) (trace : List Event) : Prop :=
  ∀ c ∈ opened trace, ∃ stage, Course (roles c) c stage (callsOn c trace)

/-- The connections that are held are bound, and have the roles that they are held for. -/
def Bound (roles : ConnectionId → Role) (trace : List Event)
    (held : ConnectionId → Role → Prop) : Prop :=
  ∀ c role, held c role →
    c ∈ opened trace ∧ roles c = role ∧ Course role c .bound (callsOn c trace)

/-- Connections on record keep their roles. -/
def Agree (trace : List Event) (roles roles' : ConnectionId → Role) : Prop :=
  ∀ c ∈ opened trace, roles' c = roles c

theorem callsOn_of_target (target : ∀ e ∈ es, e.target? = some c) : callsOn c es = es :=
  List.filter_eq_self.2 fun e he => by simp [target e he]

theorem callsOn_append_untouched (untouched : Untouched c es) (trace : List Event) :
    callsOn c (trace ++ es) = callsOn c trace := by
  rw [callsOn_append, callsOn_eq_nil_iff.2 untouched, List.append_nil]

variable {roles roles' : ConnectionId → Role}

theorem Agree.refl (trace : List Event) (roles : ConnectionId → Role) : Agree trace roles roles :=
  fun _ _ => rfl

theorem Agree.trans {roles'' : ConnectionId → Role} (h : Agree trace roles roles')
    (h' : Agree (trace ++ es) roles' roles'') : Agree trace roles roles'' :=
  fun c hc => (h' c (mem_opened_append hc es)).trans (h c hc)

/-- With these calls all connections still keep to their roles, and those that are held for one
afterwards are bound. -/
def Keeps (roles : ConnectionId → Role) (trace es : List Event)
    (after : ConnectionId → Role → Prop) : Prop :=
  ∃ roles', Agree trace roles roles' ∧ Charted roles' (trace ++ es) ∧
    Bound roles' (trace ++ es) after

theorem ByteStream.mem_connections_of_assigns {stream : ByteStream} {role : Role}
    (h : stream.Assigns c role) :
    c ∈ stream.connections := by
  cases stream with
  | unopened => cases h <;> contradiction
  | closed => cases h <;> contradiction
  | opened link =>
    rcases h with held | held
    · obtain rfl := Option.some.inj held
      exact List.mem_cons_self
    · have held : link.data = some c := held
      exact List.mem_cons_of_mem _ (by simp [held])

section Keeping

variable {held after : ConnectionId → Role → Prop}

/-- **Frame**: calls on none of the connections that are held leave them bound. -/
theorem Bound.frame (h : Bound roles trace held) (agree : Agree trace roles roles')
    (untouched : ∀ c role, held c role → Untouched c es) : Bound roles' (trace ++ es) held := by
  intro c role holds
  obtain ⟨old, fits, so⟩ := h c role holds
  refine ⟨mem_opened_append old es, (agree c old).trans fits, ?_⟩
  rwa [callsOn_append_untouched (untouched c role holds)]

/-- Calls on one connection that is on record. -/
theorem keeps_calls {stage : Stage} (charted : Charted roles trace)
    (bound : Bound roles trace held) (target : ∀ e ∈ es, e.target? = some c)
    (unopened : opened es = []) (so : Course (roles c) c stage (callsOn c trace ++ es))
    (less : ∀ k role, after k role → held k role ∧ (k = c → stage = .bound)) :
    Keeps roles trace es after := by
  have here : callsOn c (trace ++ es) = callsOn c trace ++ es := by
    rw [callsOn_append, callsOn_of_target target]
  refine ⟨roles, .refl _ _, fun k hk => ?_, fun k role assigns => ?_⟩
  · rw [opened_append, unopened, List.append_nil] at hk
    by_cases same : k = c
    · subst same
      exact ⟨stage, here ▸ so⟩
    · rw [callsOn_append_untouched (untouched_of_target target same)]
      exact charted k hk
  · obtain ⟨assigned, stays⟩ := less k role assigns
    obtain ⟨old, fits, was⟩ := bound k role assigned
    refine ⟨mem_opened_append old es, fits, ?_⟩
    by_cases same : k = c
    · subst same
      obtain rfl := stays rfl
      rwa [here, ← fits]
    · rwa [callsOn_append_untouched (untouched_of_target target same)]

/-- A connection that is made, or the attempt to make one. -/
theorem keeps_embarks {role : Role} {r : Except Failure ConnectionId}
    (charted : Charted roles trace) (bound : Bound roles trace held)
    (contained : SelfContained trace) (nodup : (opened (trace ++ es)).Nodup)
    (h : Embarks role .bound es r)
    (more : ∀ k role', after k role' → held k role' ∨ r = .ok k ∧ role' = role) :
    Keeps roles trace es after := by
  rcases h with ⟨unopened, untouched, e, rfl⟩ | ⟨c, stage, so, ends⟩
  · refine ⟨roles, .refl _ _, fun k hk => ?_, fun k role' assigns => ?_⟩
    · rw [opened_append, unopened, List.append_nil] at hk
      rw [callsOn_append_untouched (untouched k)]
      exact charted k hk
    · rcases more k role' assigns with assigned | ⟨made, -⟩
      · obtain ⟨old, fits, was⟩ := bound k role' assigned
        refine ⟨mem_opened_append old es, fits, ?_⟩
        rwa [callsOn_append_untouched (untouched k)]
      · cases made
  · obtain ⟨opened_eq, target⟩ := so.on_one
    have new : c ∉ opened trace :=
      not_mem_opened_of_nodup nodup (opened_eq ▸ List.mem_singleton.2 rfl)
    have here : callsOn c (trace ++ es) = es := by
      rw [callsOn_append, callsOn_of_target target, callsOn_eq_nil_iff.2 (contained.untouched new),
        List.nil_append]
    have elsewhere : ∀ k ∈ opened trace, k ≠ c := fun k hk same => new (same ▸ hk)
    refine ⟨Function.update roles c role, fun k hk => Function.update_of_ne (elsewhere k hk) _ _,
      fun k hk => ?_, fun k role' assigns => ?_⟩
    · by_cases same : k = c
      · subst same
        rw [Function.update_self, here]
        exact ⟨stage, so⟩
      · rw [opened_append, opened_eq, List.mem_append, List.mem_singleton, or_iff_left same] at hk
        rw [Function.update_of_ne same, callsOn_append_untouched (untouched_of_target target same)]
        exact charted k hk
    · rcases more k role' assigns with assigned | ⟨made, rfl⟩
      · obtain ⟨old, fits, was⟩ := bound k role' assigned
        refine ⟨mem_opened_append old es, ?_, ?_⟩
        · rwa [Function.update_of_ne (elsewhere k old)]
        · rwa [callsOn_append_untouched (untouched_of_target target (elsewhere k old))]
      · obtain ⟨rfl, rfl⟩ := ends k made
        refine ⟨?_, Function.update_self .., by rwa [here]⟩
        rw [opened_append, opened_eq]
        exact List.mem_append_right _ (List.mem_singleton.2 rfl)

theorem Keeps.still (charted : Charted roles trace) (bound : Bound roles trace after) :
    Keeps roles trace [] after :=
  ⟨roles, .refl _ _, by rwa [List.append_nil], by rwa [List.append_nil]⟩

/-- **Sequencing**: the roles that one part leaves are those that the next one starts with. -/
theorem Keeps.trans {mid : ConnectionId → Role → Prop} (h : Keeps roles trace es mid)
    (h' : ∀ roles', Charted roles' (trace ++ es) → Bound roles' (trace ++ es) mid →
      Keeps roles' (trace ++ es) fs after) : Keeps roles trace (es ++ fs) after := by
  obtain ⟨roles', agree, charted, bound⟩ := h
  obtain ⟨roles'', agree', charted', bound'⟩ := h' roles' charted bound
  rw [List.append_assoc] at charted' bound'
  exact ⟨roles'', agree.trans agree', charted', bound'⟩

end Keeping

/-- Calls on connections that were held or are made keep all calls on connections on record. -/
theorem Footprint.selfContained {before held : List ConnectionId} (h : Footprint before es held)
    (contained : SelfContained trace) (old : before ⊆ opened trace) :
    SelfContained (trace ++ es) := by
  intro e he c hc
  rw [opened_append]
  rcases List.mem_append.1 he with he | he
  · exact List.mem_append_left _ (contained e he c hc)
  · rcases h.target e he c hc with held | made
    · exact List.mem_append_left _ (old held)
    · exact List.mem_append_right _ made

namespace Link

variable {link mid after : Link}

/-- The role that an open stream gives to a connection that it holds. -/
abbrev Assigns (link : Link) : ConnectionId → Role → Prop :=
  (ByteStream.opened link).Assigns

/-- While control connection and direction stay, and no data connection comes, every connection
keeps the role that it has. -/
theorem assigns_of_less {role : Role} (assigns : after.Assigns c role)
    (control : after.control = link.control)
    (direction : after.session.direction = link.session.direction)
    (data : ∀ c, after.data = some c → link.data = some c) :
    link.Assigns c role := by
  have same : (ByteStream.opened after).direction = (ByteStream.opened link).direction := direction
  cases assigns with
  | control held =>
    rw [same]
    exact .control ((congrArg some control).symm.trans held)
  | data held =>
    rw [same]
    exact .data (data c held)

theorem connections_subset_of_bound (bound : Bound roles trace link.Assigns) :
    link.connections ⊆ opened trace := by
  intro c hc
  rcases List.mem_cons.1 hc with rfl | hc
  · exact (bound _ _ (.control rfl)).1
  · exact (bound c _ (.data (Option.mem_toList.1 hc))).1

/-- The two connections of a stream have different roles. -/
theorem control_ne_of_bound (bound : Bound roles trace link.Assigns) (has : link.data = some c) :
    link.control ≠ c := by
  intro same
  have control := (bound _ _ (.control rfl)).2.1
  have data := (bound c _ (.data has)).2.1
  rw [same, data] at control
  cases control

theorem keeps_exchange {command : Command} {heard : Except Failure Bytes}
    (exchange : Wire.Exchanged link.control command.line es heard)
    (asks : command.Asks link.session.direction) (outOfStep : Option Failure)
    (charted : Charted roles trace) (bound : Bound roles trace link.Assigns) :
    Keeps roles trace es (Assigns { link with outOfStep }) := by
  obtain ⟨-, fits, so⟩ := bound _ _ (.control rfl)
  refine keeps_calls charted bound exchange.target? exchange.opened_eq_nil
    (fits ▸ so.exchange rfl asks exchange) fun k role assigns => ⟨?_, fun _ => rfl⟩
  exact assigns_of_less assigns rfl rfl fun _ h => h

theorem Stating.keepsRoles {r : Except Failure Int} (h : Stating link es r after)
    (charted : Charted roles trace) (bound : Bound roles trace link.Assigns) :
    Keeps roles trace es after.Assigns := by
  cases h with
  | unusable => exact .still charted bound
  | @exchanged _ heard _ exchange =>
    obtain ⟨outOfStep, eq, -⟩ := link.afterExchange_eq heard
    rw [eq]
    exact keeps_exchange exchange (.inl rfl) outOfStep charted bound

/-- One more connection of the session, for payload. -/
theorem keeps_joining {route : Route} {address : Address} {timeout : Int} {session : Session}
    {r : Except Failure ConnectionId} {data : Option ConnectionId}
    (join : Session.Joining route address timeout link.session es r session)
    (made : ∀ c, data = some c → link.data = some c ∨ r = .ok c) (charted : Charted roles trace)
    (bound : Bound roles trace link.Assigns) (contained : SelfContained trace)
    (nodup : (opened (trace ++ es)).Nodup) :
    Keeps roles trace es (Assigns { link with session, data }) := by
  refine keeps_embarks charted bound contained nodup
    (join.embarks (.data link.session.direction)) fun k role assigns => ?_
  have same : (ByteStream.opened { link with session, data }).direction = link.session.direction :=
    join.direction_eq
  cases assigns with
  | control held =>
    rw [same]
    exact .inl (.control held)
  | data held =>
    rw [same]
    exact (made k held).imp .data fun h => ⟨h, rfl⟩

theorem Connecting.keepsRoles {r : Except Failure ConnectionId} (h : Connecting link es r after)
    (charted : Charted roles trace) (bound : Bound roles trace link.Assigns)
    (contained : SelfContained trace) (nodup : (opened (trace ++ es)).Nodup) :
    Keeps roles trace es after.Assigns := by
  have asks : link.announcement.Asks link.session.direction := .inr ⟨_, rfl⟩
  -- Between the admission and the new connection the stream is as it was.
  have admitted : ∀ {es fs : List Event} {line : Bytes} {r : Except Failure ConnectionId}
      {session : Session} {data : Option ConnectionId},
      Wire.Exchanged link.control link.announcement.line es (.ok line) →
      Session.Joining link.settings.route link.address link.settings.timeout.effective
        link.session fs r session → (∀ c, data = some c → link.data = some c ∨ r = .ok c) →
      (opened (trace ++ (es ++ fs))).Nodup →
      Keeps roles trace (es ++ fs) (Assigns { link with session, data }) := by
    intro es fs line r session data exchange join made nodup
    refine (keeps_exchange exchange asks link.outOfStep charted bound).trans
      fun roles' charted' bound' => ?_
    refine keeps_joining join made charted' bound' ?_ (by rwa [List.append_assoc])
    exact contained.append_of_target (bound _ _ (.control rfl)).1 exchange.target?
  cases h with
  | kept => exact .still charted bound
  | unwritable => exact .still charted bound
  | @unheard _ e _ exchange =>
    obtain ⟨outOfStep, eq, -⟩ := link.afterExchange_eq (.error e)
    rw [eq]
    exact keeps_exchange exchange asks outOfStep charted bound
  | rejected _ exchange => exact keeps_exchange exchange asks _ charted bound
  | unjoined _ exchange _ join => exact admitted exchange join (fun _ => .inl) nodup
  | joined _ exchange _ join =>
    refine admitted exchange join (fun _ has => .inr ?_) nodup
    exact congrArg Except.ok (Option.some.inj has)

/-- Giving up the data connection. -/
theorem keeps_close (has : link.data = some c) (result : Option Unit) (position : Nat)
    (charted : Charted roles trace) (bound : Bound roles trace link.Assigns) :
    Keeps roles trace [.close c result] (Assigns { link with position, data := none }) := by
  obtain ⟨-, fits, so⟩ := bound c _ (.data has)
  have ended : Course (roles c) c .closed (callsOn c trace ++ [.close c result]) :=
    fits ▸ so.closed Stage.noConfusion result
  refine keeps_calls charted bound (by simp [Event.target?]) rfl ended
    fun k role assigns => ⟨?_, ?_⟩
  · exact assigns_of_less assigns rfl rfl (by simp)
  · rintro rfl
    cases assigns with
    | control held =>
      have held : link.control = k := Option.some.inj held
      exact absurd held (control_ne_of_bound bound has)
    | data held => cases held

/-- **Step lemma**: each of the smallest steps of an open stream keeps to the roles. -/
theorem Move.keepsRoles (h : Move link es ps after) (charted : Charted roles trace)
    (bound : Bound roles trace link.Assigns) (contained : SelfContained trace)
    (nodup : (opened (trace ++ es)).Nodup) : Keeps roles trace es after.Assigns := by
  cases h with
  | stating stat => exact stat.keepsRoles charted bound
  | connecting _ connect => exact connect.keepsRoles charted bound contained nodup
  | @receiving c limit result reads has =>
    obtain ⟨-, fits, so⟩ := bound c _ (.data has)
    have role : Role.data (ByteStream.opened link).direction = .data .read := congrArg _ reads
    refine keeps_calls (c := c) charted bound (by simp [Event.target?]) rfl
      (fits ▸ so.receives role limit result) fun k role assigns => ⟨?_, fun _ => rfl⟩
    exact assigns_of_less assigns rfl rfl fun _ h => h
  | @sending c data result writes has =>
    obtain ⟨-, fits, so⟩ := bound c _ (.data has)
    have role : Role.data (ByteStream.opened link).direction = .data .write := congrArg _ writes
    refine keeps_calls (c := c) charted bound (by simp [Event.target?]) rfl
      (fits ▸ so.sends role data result) fun k role assigns => ⟨?_, fun _ => rfl⟩
    exact assigns_of_less assigns rfl rfl fun _ h => h
  | moving move =>
    cases move with
    | negative => exact .still charted bound
    | stayed => exact .still charted bound
    | moved =>
      refine .still charted fun k role assigns => bound k role ?_
      exact assigns_of_less assigns rfl rfl fun _ h => h
    | dropped _ _ has => exact keeps_close has _ _ charted bound
    | unclosed _ _ _ has => exact keeps_close has _ _ charted bound

/-- **Run lemma**: and so do any number of them. -/
theorem Moves.keepsRoles (h : Moves link es ps after) (charted : Charted roles trace)
    (bound : Bound roles trace link.Assigns) (contained : SelfContained trace)
    (nodup : (opened (trace ++ es)).Nodup) : Keeps roles trace es after.Assigns := by
  induction h generalizing roles trace with
  | refl => exact .still charted bound
  | @step link mid after es fs ps qs move rest ih =>
    rw [← List.append_assoc] at nodup
    refine (move.keepsRoles charted bound contained (nodup_opened_left nodup)).trans
      fun roles' charted' bound' => ih charted' bound' ?_ nodup
    exact move.footprint.selfContained contained (connections_subset_of_bound bound)

theorem Releasing.keepsRoles {r : Except Failure Unit} {settings : Settings} {session : Session}
    {address : Address} {position : Nat} (h : Releasing link es r) (charted : Charted roles trace)
    (bound : Bound roles trace link.Assigns) :
    Keeps roles trace es (ByteStream.closed settings session address position).Assigns := by
  have none_left : ∀ {k role},
      ¬(ByteStream.closed settings session address position).Assigns k role :=
    fun assigns => nomatch assigns
  -- The control connection goes last, whatever has become of the data connection.
  have control : ∀ {link : Link} {trace es : List Event} {roles : ConnectionId → Role},
      Charted roles trace → Bound roles trace link.Assigns →
      Called (.close link.control) (fun _ => True) r es →
      Keeps roles trace es (ByteStream.closed settings session address position).Assigns := by
    intro link trace es roles charted bound closes
    obtain ⟨-, fits, so⟩ := bound _ _ (.control rfl)
    have target : ∀ e ∈ es, e.target? = some link.control := by
      cases closes <;> simp [Event.target?]
    cases closes <;> exact keeps_calls charted bound target rfl
      (fits ▸ so.closed Stage.noConfusion _) fun _ _ assigns => (none_left assigns).elim
  cases h with
  | single _ closes => exact control charted bound closes
  | both has closes =>
    exact (keeps_close has _ link.position charted bound).trans
      fun _ charted' bound' => control charted' bound' closes
  | misused _ has =>
    obtain ⟨roles', agree, charted', -⟩ := keeps_close has none link.position charted bound
    exact ⟨roles', agree, charted', fun _ _ assigns => (none_left assigns).elim⟩

end Link

/-- **Step lemma**: whatever a stream does, all connections keep to their roles. -/
theorem ByteStream.Evolves.charted {stream after : ByteStream} (h : Evolves stream es ps after)
    (charted : Charted roles trace) (bound : Bound roles trace stream.Assigns)
    (contained : SelfContained trace) (nodup : (SessionStream.opened (trace ++ es)).Nodup) :
    Keeps roles trace es after.Assigns := by
  cases h with
  | still => exact .still charted bound
  | moved moves => exact moves.keepsRoles charted bound contained nodup
  | unjoined join =>
    exact keeps_embarks charted bound contained nodup (join.embarks .idle)
      fun _ _ assigns => nomatch assigns
  | @joined _ session _ _ _ _ join =>
    refine keeps_embarks charted bound contained nodup
      (join.embarks (.control session.direction)) fun k role assigns => .inr ?_
    cases assigns with
    | control held =>
      exact ⟨congrArg Except.ok (Option.some.inj held), congrArg Role.control join.direction_eq⟩
    | data held => cases held
  | released release => exact release.keepsRoles charted bound

-- ════════════════════════════════════════════════════════════════════════
-- Runs
-- ════════════════════════════════════════════════════════════════════════

namespace World

variable {world next : World} {step : Step}

/-- The role that one of the streams gives to a connection that it holds. -/
def Assigns (world : World) (c : ConnectionId) (role : Role) : Prop :=
  ∃ (number : Nat) (stream : ByteStream),
    world.streams[number]? = some stream ∧ stream.Assigns c role

theorem Sound.mem_opened_of_assigns (sound : world.Sound) {role : Role}
    (assigns : world.Assigns c role) : c ∈ opened world.trace := by
  obtain ⟨number, stream, has, assigns⟩ := assigns
  exact (sound.streams number stream has).connections_subset
    (ByteStream.mem_connections_of_assigns assigns)

/-- **Step lemma**: a step of a world keeps to the roles of all connections. -/
theorem Turn.charted {r : Except Failure Answer} (h : Turn world step es r next)
    (grows : world.host.network.Extends es next.host.network) (sound : world.Sound)
    (charted : Charted roles world.trace) (bound : Bound roles world.trace world.Assigns) :
    Keeps roles world.trace es next.Assigns := by
  obtain ⟨-, nodup⟩ := sound.extends grows
  rcases h.changes with ⟨attempt, streams, -⟩ | ⟨number, before, ps, after, changes, -⟩
  · have same : ∀ c role, next.Assigns c role → world.Assigns c role := by
      rintro c role ⟨number, stream, has, assigns⟩
      exact ⟨number, stream, streams ▸ has, assigns⟩
    cases attempt with
    | idle => exact .still charted fun c role assigns => bound c role (same c role assigns)
    | joining join =>
      exact keeps_embarks charted bound sound.orderly.contained nodup (join.embarks .idle)
        fun c role assigns => .inl (same c role assigns)
  · have own : Bound roles world.trace before.Assigns := by
      intro c role assigns
      rcases changes.before_eq with has | ⟨-, unopened⟩
      · exact bound c role ⟨number, before, has, assigns⟩
      · cases before with
        | unopened => cases assigns <;> contradiction
        | opened => cases unopened
        | closed => cases unopened
    obtain ⟨roles', agree, charted', own'⟩ :=
      changes.evolves.charted charted own sound.orderly.contained nodup
    refine ⟨roles', agree, charted', ?_⟩
    rintro c role ⟨j, stream, has, assigns⟩
    by_cases here : j = number
    · subst here
      obtain rfl := Option.some.inj (changes.here.symm.trans has)
      exact own' c role assigns
    · rw [changes.elsewhere j here] at has
      have others : Bound roles world.trace stream.Assigns :=
        fun c role assigns => bound c role ⟨j, stream, has, assigns⟩
      refine others.frame agree (fun c role assigns => ?_) c role assigns
      exact changes.untouched sound nodup here has c (ByteStream.mem_connections_of_assigns assigns)

/-- **Run lemma**: every run keeps to the roles of all connections, and the role that a stream gave
to a connection is the role of that connection from then on. -/
theorem charted_after (sound : world.Sound) (charted : Charted roles world.trace)
    (bound : Bound roles world.trace world.Assigns) (steps : List Step) :
    ∃ roles', Agree world.trace roles roles' ∧ Charted roles' (after steps world).trace ∧
      Bound roles' (after steps world).trace (after steps world).Assigns ∧
      ∀ before later, steps = before ++ later →
        ∀ c role, (after before world).Assigns c role → roles' c = role := by
  induction steps generalizing world roles with
  | nil =>
    refine ⟨roles, .refl _ _, charted, bound, fun before later split c role assigns => ?_⟩
    obtain ⟨rfl, -⟩ := List.append_eq_nil_iff.1 split.symm
    exact (bound c role assigns).2.1
  | cons step steps ih =>
    obtain ⟨es, grows, turn⟩ := step_turn step world
    obtain ⟨roles₁, agree₁, charted₁, bound₁⟩ := turn.charted grows sound charted bound
    have htrace := (sound.extends grows).1
    rw [← htrace] at charted₁ bound₁
    obtain ⟨roles₂, agree₂, charted₂, bound₂, given⟩ := ih (turn.sound grows sound) charted₁ bound₁
    rw [htrace] at agree₂
    have agree := agree₁.trans agree₂
    refine ⟨roles₂, agree, charted₂, bound₂, fun before later split c role assigns => ?_⟩
    cases before with
    | nil =>
      have assigns : world.Assigns c role := assigns
      rw [agree c (sound.mem_opened_of_assigns assigns)]
      exact (bound c role assigns).2.1
    | cons first before =>
      obtain ⟨rfl, rest⟩ := List.cons.inj split
      exact given before later rest c role assigns

/-- **Every connection keeps to its role.** In every run there is one role for each connection, such
that all calls on it, from the one that made it to the end of the run, keep to that role. At every
moment of the run the control connection of a stream has the role to carry commands, and its data
connection the role to carry payload in the direction of the stream. -/
theorem course_of_role {firstId : Int} {waiting : List Peer}
    (start : begin firstId waiting = .ok world) (steps : List Step) :
    ∃ roles : ConnectionId → Role,
      (∀ c ∈ opened (after steps world).trace,
        ∃ stage, Course (roles c) c stage (callsOn c (after steps world).trace)) ∧
      ∀ before later, steps = before ++ later →
        ∀ (number : Nat) (stream : ByteStream),
          (after before world).streams[number]? = some stream →
          ∀ c, (stream.control = some c → roles c = .control stream.direction) ∧
            (stream.data = some c → roles c = .data stream.direction) := by
  have empty : Charted (fun _ => .idle) world.trace := by
    rw [(fresh_begin start 0).2]
    exact fun c hc => absurd hc List.not_mem_nil
  have nobody : Bound (fun _ => .idle) world.trace world.Assigns := by
    rintro c role ⟨number, stream, has, -⟩
    rw [(fresh_begin start number).1] at has
    cases has
  obtain ⟨roles, -, charted, -, given⟩ := charted_after (sound_begin start) empty nobody steps
  refine ⟨roles, charted, fun before later split number stream has c => ⟨fun held => ?_, ?_⟩⟩
  · exact given before later split c _ ⟨number, stream, has, .control held⟩
  · exact fun held => given before later split c _ ⟨number, stream, has, .data held⟩

/-- Two letters are read, the stream moves on and is closed: the control connection and the data
connection that was given up. -/
theorem course_of_role_letters :
    let settings : Settings := { target := "/run/letters", route := ⟨.socket .clock, .given⟩ }
    let waiting : List Peer :=
      [{ incoming := [.bytes (utf8 "ok\n")], acceptances := [.upTo 4] },
        { incoming := [.bytes (utf8 "abc")] }]
    let world : World := { host := { network := { waiting } } }
    let steps : List Step := [.start settings "r", .onStream 0 (.receive 2),
      .onStream 0 (.seek 5 0), .onStream 0 .close]
    begin 1 waiting = .ok world ∧
      (∃ stage, Course (.control .read) ⟨0⟩ stage (callsOn ⟨0⟩ (after steps world).trace)) ∧
      ∃ stage, Course (.data .read) ⟨1⟩ stage (callsOn ⟨1⟩ (after steps world).trace) := by
  intro settings waiting world steps
  have start : begin 1 waiting = .ok world := rfl
  obtain ⟨roles, courses, given⟩ := course_of_role start steps
  have holds : ∀ stream ∈ (after (steps.take 2) world).streams[0]?,
      stream.control = some ⟨0⟩ ∧ stream.data = some ⟨1⟩ ∧ stream.direction = .read := by
    decide +kernel
  have made : (after (steps.take 2) world).streams[0]?.isSome = true := by decide +kernel
  obtain ⟨stream, has⟩ := Option.isSome_iff_exists.1 made
  obtain ⟨control, data, reads⟩ := holds stream has
  obtain ⟨hcontrol, -⟩ := given _ _ (List.take_append_drop 2 steps).symm 0 stream has ⟨0⟩
  obtain ⟨-, hdata⟩ := given _ _ (List.take_append_drop 2 steps).symm 0 stream has ⟨1⟩
  refine ⟨start, ?_, ?_⟩
  · have so := courses ⟨0⟩ (by decide +kernel)
    rwa [hcontrol control, reads] at so
  · have so := courses ⟨1⟩ (by decide +kernel)
    rwa [hdata data, reads] at so

end World

end SessionStream
