import SessionStream.Proofs.CommandRecords
import SessionStream.Proofs.Sending
import SessionStream.Proofs.Spending
import SessionStream.Proofs.WillingPeers

/-!
# How an attempt to join a session ends

What comes of an attempt is laid down with the next peer that waits: the address may be refused, the
connection may not let itself be put into blocking mode, the line of the session may not be taken to
its end, and the close of the connection may fail on top of that. For each of these cases this file
says how the attempt ends, what has been sent then, and what has become of the connection, the
session and the counter of ids.

## Main definitions

- `Dialer.Refused` — the next attempt to connect meets a fault
- `stopped?` — what stops the sends of a line
- `Session.joinOver`, `Session.present` — what is left of an attempt once the address has been
  reached, and once the line is known
- `BlockingMode` — the last call that set the mode of a connection set it to blocking

## Main results

- `outcome_reach_of_refused`, `outcome_reach_of_accepted` — the connect
- `outcome_orGiveUp_of_error` — a step that fails, with the close of the connection
- `Session.outcome_introduction` — the line of the session
- `Session.join_by_script` — the whole attempt
- `Session.join_exceptions` — two attempts that fail although nothing is refused
-/

namespace SessionStream

variable {c : ConnectionId} {host : Host} {peer : Peer} {net : Network} {es fs : List Event}

-- ════════════════════════════════════════════════════════════════════════
-- What the peer has laid down
-- ════════════════════════════════════════════════════════════════════════

/-- The next attempt to connect meets a fault of the system, in the making of a socket or in the
connect itself. -/
def Dialer.Refused (timeout : Int) (peer : Peer) : Dialer → Prop
  | .direct => peer.connectFault ≠ none
  | .socket range =>
    peer.socketFault ≠ none ∨ Timeout.Settable range timeout ∧ peer.connectFault ≠ none

/-- What stops the sends of so many bytes that meet these outcomes, if anything does. -/
def stopped? : Nat → List Acceptance → Option Failure
  | 0, _ => none
  | _ + 1, [] => none
  | _ + 1, .fault f :: _ => some (.fault f)
  | _ + 1, .upTo 0 :: _ => some .peerClosed
  | length + 1, .upTo (count + 1) :: later => stopped? (length - count) later

/-- Sends are stopped by a peer that is gone, or by a fault that is laid down for one of them. -/
theorem stopped?_cases {length : Nat} {outcomes : List Acceptance} {e : Failure}
    (h : stopped? length outcomes = some e) :
    e = .peerClosed ∨ ∃ f, .fault f ∈ outcomes ∧ e = .fault f := by
  fun_induction stopped? length outcomes with
  | case1 => cases h
  | case2 => cases h
  | case3 length f later => exact .inr ⟨f, List.mem_cons_self .., (Option.some.inj h).symm⟩
  | case4 => exact .inl (Option.some.inj h).symm
  | case5 length count later ih =>
    rcases ih h with gone | ⟨f, mem, fault⟩
    · exact .inl gone
    · exact .inr ⟨f, List.mem_cons_of_mem _ mem, fault⟩

theorem isSystem_of_stopped? {length : Nat} {e : Failure}
    (proper : ∀ f ∈ peer.faults, f.isSystem = true)
    (h : stopped? length peer.acceptances = some e) : e.isSystem = true := by
  rcases stopped?_cases h with rfl | ⟨f, mem, rfl⟩
  · rfl
  · refine proper f ?_
    have there : f ∈ peer.acceptances.filterMap Acceptance.fault? :=
      List.mem_filterMap.2 ⟨_, mem, rfl⟩
    simp [Peer.faults, there]

/-- The mode that a call gives to a connection: whether it is the blocking one. -/
def Event.mode? (c : ConnectionId) : Event → Option Bool
  | .setTimeout c' _ (some ()) => if c' = c then some false else none
  | .setBlocking c' (some ()) => if c' = c then some true else none
  | _ => none

/-- The last call that set the mode of a connection set it to blocking. -/
def BlockingMode (c : ConnectionId) (es : List Event) : Prop :=
  (es.filterMap (Event.mode? c)).getLast? = some true

-- ════════════════════════════════════════════════════════════════════════
-- A new connection
-- ════════════════════════════════════════════════════════════════════════

namespace Network

/-- The network in which the next peer has become a connection, with this to come on it and with
these calls. -/
def arrived (peer : Peer) (es : List Event) (net : Network) : Network where
  waiting := net.waiting.tail
  connections := net.connections ++ [peer]
  trace := net.trace ++ es

theorem peer_arrived (net : Network) (peer : Peer) (es : List Event) :
    (net.arrived peer es).peer net.nextId = peer := by
  simp [arrived, Network.peer, nextId]

/-- More calls on a new connection. -/
theorem arrived_called (net : Network) (peer peer' : Peer) (es fs : List Event) :
    (net.arrived peer es).called net.nextId peer' fs = net.arrived peer' (es ++ fs) := by
  simp [arrived, called, nextId]

/-- A call that changes nothing, and fails if there is a fault for it. -/
theorem outcome_comply (c : ConnectionId) (event : Option Unit → Event)
    (fault? : Peer → Option Fault) (net : Network) :
    Act.outcome (call c event (Peer.comply fault?)) net =
      match fault? (net.peer c) with
      | none => (.ok (), net.called c (net.peer c) [event (some ())])
      | some f => (.error (.fault f), net.called c (net.peer c) [event none]) := by
  unfold Act.outcome call Peer.comply
  cases fault? (net.peer c) <;> rfl

/-- Such a call on a new connection. -/
theorem outcome_comply_arrived (event : Option Unit → Event) (fault? : Peer → Option Fault)
    (peer : Peer) (es : List Event) (net : Network) :
    Act.outcome (call net.nextId event (Peer.comply fault?)) (net.arrived peer es) =
      match fault? peer with
      | none => (.ok (), net.arrived peer (es ++ [event (some ())]))
      | some f => (.error (.fault f), net.arrived peer (es ++ [event none])) := by
  rw [outcome_comply, peer_arrived]
  cases fault? peer <;> simp only [arrived_called]

end Network

-- ════════════════════════════════════════════════════════════════════════
-- The connect
-- ════════════════════════════════════════════════════════════════════════

section Reaching

variable {dialer : Dialer} {timeout : Int}

/-- Where nothing is refused, the next peer becomes a connection. -/
theorem outcome_reach_of_accepted (address : Address) (host : Host) (takes : dialer.Takes timeout)
    (accepted : ¬dialer.Refused timeout host.network.nextPeer) :
    ∃ es, Act.outcome (reach dialer address timeout) host = (.ok host.network.nextId,
        { host with network := host.network.arrived host.network.nextPeer es }) ∧
      Dialing address timeout dialer es (.ok host.network.nextId) := by
  rw [outcome_reach]
  cases dialer with
  | direct =>
    have accepted : host.network.nextPeer.connectFault = none := Classical.not_not.1 accepted
    refine ⟨_, ?_, .connected _⟩
    simp only [Dialer.dial, Act.outcome_onHost, Network.outcome_connect, accepted]
    rfl
  | socket range =>
    obtain ⟨made, accepted⟩ := not_or.1 accepted
    have made : host.network.nextPeer.socketFault = none := Classical.not_not.1 made
    have accepted : host.network.nextPeer.connectFault = none :=
      Classical.not_not.1 fun refused => accepted ⟨takes, refused⟩
    refine ⟨_, ?_, .socketConnected _ takes⟩
    simp only [Dialer.dial, Dialer.dialSocket_accepted takes made accepted]
    rfl

namespace Dialer

/-- No socket was made. -/
theorem dialSocket_unmade (range : Timeout.Range) (address : Address) {f : Fault}
    (unmade : host.network.nextPeer.socketFault = some f) (system : f.isSystem = true) :
    Act.outcome (dialSocket range address timeout) host = (.error (.noSocket (.fault f)),
      { host with network := host.network.dropPeer.record (.socket none) }) := by
  have asked : Act.outcome Network.openSocket host.network =
      (.error (.fault f), host.network.dropPeer.record (.socket none)) := by
    simp only [Act.outcome, Network.openSocket, unmade]
  unfold dialSocket
  rw [Act.outcome_bind, Act.outcome_rescue, Act.outcome_onHost, asked]
  dsimp only
  rw [if_pos (show (Failure.fault f).isSystem = true from system)]
  rfl

/-- A socket whose connect failed is closed, and a failure of that close takes the place of the
first one. -/
theorem dialSocket_closed {range : Timeout.Range} (address : Address) {f : Fault}
    (settable : Timeout.Settable range timeout)
    (made : host.network.nextPeer.socketFault = none)
    (refused : host.network.nextPeer.connectFault = some f) (system : f.isSystem = true) :
    ∃ result log, Act.outcome (dialSocket range address timeout) host =
      (.error (host.network.nextPeer.closeFault.elim
          (.cannotConnect address.target (.fault f)) .fault),
        { host with
          network := host.network.dialed timeout
            [.connectSocket host.network.nextId address.socketName none,
              .close host.network.nextId result]
          log }) := by
  have closing := Network.outcome_call_dialed (.close host.network.nextId) Peer.closeFault timeout
    [.connectSocket host.network.nextId address.socketName none] host.network
  rw [outcome_dialSocket settable made, Act.outcome_bind, Act.outcome_rescue, Act.outcome_onHost,
    Network.connectSocket, Network.outcome_call_dialed, refused]
  dsimp only
  rw [if_pos (show (Failure.fault f).isSystem = true from system), Act.outcome_bind,
    Host.outcome_write]
  dsimp only [Host.logged]
  rw [Act.outcome_bind, Act.outcome_onHost]
  dsimp only [Network.close, List.nil_append]
  rw [closing]
  cases host.network.nextPeer.closeFault with
  | none => exact ⟨_, _, rfl⟩
  | some g => exact ⟨_, _, rfl⟩

end Dialer

/-- A failure of the system on the way to an address says that it cannot be reached. -/
theorem isUnreachable_unreached (address : Address) {e : Failure} (system : e.isSystem = true) :
    (unreached address e).isUnreachable = true := by
  unfold unreached
  cases unreachable : e.isUnreachable
  · rw [system]
    rfl
  · simpa using unreachable

/-- Where something is refused, the failure says that the address cannot be reached, and a socket
that was made is closed. -/
theorem outcome_reach_of_refused (address : Address) (host : Host)
    (proper : ∀ f ∈ host.network.nextPeer.faults, f.isSystem = true)
    (refused : dialer.Refused timeout host.network.nextPeer) :
    ∃ e es after log, Act.outcome (reach dialer address timeout) host =
        (.error e, { host with network := after, log }) ∧
      after.trace = host.network.trace ++ es ∧ e.isUnreachable = true ∧ Mute es ∧
      closed es = opened es := by
  rw [outcome_reach]
  cases dialer with
  | direct =>
    obtain ⟨f, fault⟩ := Option.ne_none_iff_exists'.1 refused
    have system : f.isSystem = true := proper f (Peer.connectFault_mem fault)
    refine ⟨unreached address (.fault f), [.connect address.target timeout none],
      host.network.dropPeer.record (.connect address.target timeout none), host.log, ?_, rfl,
      isUnreachable_unreached address system, by simp [Mute, Event.incoming, Event.outgoing], rfl⟩
    simp only [Dialer.dial, Act.outcome_onHost, Network.outcome_connect, fault]
    rfl
  | socket range =>
    cases unmade : host.network.nextPeer.socketFault with
    | some f =>
      have system : f.isSystem = true := proper f (Peer.socketFault_mem unmade)
      refine ⟨unreached address (.noSocket (.fault f)), [.socket none],
        host.network.dropPeer.record (.socket none), host.log, ?_, rfl,
        isUnreachable_unreached address rfl, by simp [Mute, Event.incoming, Event.outgoing], rfl⟩
      rw [Dialer.dial, Dialer.dialSocket_unmade range address unmade system]
      rfl
    | none =>
      obtain ⟨settable, refused⟩ := refused.resolve_left (Classical.not_not.2 unmade)
      obtain ⟨f, fault⟩ := Option.ne_none_iff_exists'.1 refused
      obtain ⟨result, log, ended⟩ := Dialer.dialSocket_closed address settable unmade fault
        (proper f (Peer.connectFault_mem fault))
      have system : (host.network.nextPeer.closeFault.elim
          (.cannotConnect address.target (.fault f)) Failure.fault).isSystem = true := by
        cases failing : host.network.nextPeer.closeFault with
        | none => rfl
        | some g => exact proper g (Peer.closeFault_mem failing)
      refine ⟨_, _, _, log, by rw [Dialer.dial, ended]; rfl, rfl,
        isUnreachable_unreached address system, by simp [Mute, Event.incoming, Event.outgoing], rfl⟩

end Reaching

-- ════════════════════════════════════════════════════════════════════════
-- Steps that fail
-- ════════════════════════════════════════════════════════════════════════

section GivingUp

variable {step : String} {act : Act Host Unit} {after : Host} {e : Failure}

theorem Held.outcome_write_bind {σ α : Type} {level : Log.Level} {source : Log.Source}
    {message : String} (f : Unit → Act (Held σ) α) (held : Held σ) :
    Act.outcome ((liftM (Host.write level source message) : Act (Held σ) Unit) >>= f) held =
      Act.outcome (f ()) (held.logged ⟨level, source, message⟩) :=
  rfl

theorem outcome_orGiveUp_of_ok (ended : Act.outcome act host = (.ok (), after)) :
    Act.outcome (orGiveUp c step act) host = (.ok (), after) := by
  unfold orGiveUp
  rw [Act.outcome_rescue, ended]

/-- Where a step fails, the connection is closed; if the close fails too, its failure is the one
that is passed on. -/
theorem outcome_orGiveUp_of_error (step : String) (ended : Act.outcome act host = (.error e, after))
    (system : e.isSystem = true) :
    ∃ result log, Act.outcome (orGiveUp c step act) host =
      (.error ((after.network.peer c).closeFault.elim e .fault), { after with
        network := after.network.called c (after.network.peer c) [.close c result], log }) := by
  unfold orGiveUp
  rw [Act.outcome_rescue, ended]
  dsimp only
  rw [if_pos system, Act.outcome_bind, Host.outcome_write]
  dsimp only [Host.logged]
  rw [Act.outcome_bind, Act.outcome_onHost, Network.close, Network.outcome_comply]
  dsimp only
  cases (after.network.peer c).closeFault with
  | none => exact ⟨_, _, rfl⟩
  | some g => exact ⟨_, _, rfl⟩

end GivingUp

-- ════════════════════════════════════════════════════════════════════════
-- The line of the session
-- ════════════════════════════════════════════════════════════════════════

namespace Wire

/-- The sends of some bytes succeed if nothing stops them. -/
theorem fst_outcome_transmit (c : ConnectionId) (data : Bytes) (net : Network) :
    (Act.outcome (transmit c data) net).1 =
      (stopped? data.length (net.peer c).acceptances).elim (.ok ()) .error := by
  fun_induction transmit c data generalizing net with
  | case1 =>
    rw [List.length_nil, stopped?]
    rfl
  | case2 b later ih =>
    have sent := Network.outcome_send c (b :: later) net
    have left := net.peer_called_tail c
    dsimp only at sent left
    generalize outcomes : (net.peer c).acceptances = acceptances at sent left ⊢
    rw [Act.outcome_bind, sent]
    cases acceptances with
    | nil =>
      refine (ih later.length _).trans ?_
      rw [List.drop_length, List.length_cons, stopped?, List.length_nil, stopped?]
    | cons first rest =>
      cases first with
      | fault f => rfl
      | upTo count =>
        cases count with
        | zero =>
          have none : Acceptance.answer (b :: later).length (some (.upTo 0)) = .ok 0 :=
            congrArg Except.ok (Nat.zero_min _)
          rw [List.head?_cons, none]
          rfl
        | succ count =>
          have some : Acceptance.answer (b :: later).length (some (.upTo (count + 1))) =
              .ok (min count later.length + 1) := congrArg Except.ok (Nat.succ_min_succ ..)
          rw [List.head?_cons, some]
          refine (ih (min count later.length) _).trans ?_
          rw [left, List.length_drop, List.length_cons, stopped?,
            show later.length - min count later.length = later.length - count by omega]
          rfl

/-- The sends of some bytes on a new connection. -/
theorem outcome_transmit_arrived (data : Bytes) (peer : Peer) (es : List Event) (net : Network) :
    ∃ fs, Act.outcome (transmit net.nextId data) (net.arrived peer es) =
        ((stopped? data.length peer.acceptances).elim (.ok ()) .error,
          net.arrived { peer with acceptances := peer.acceptances.drop fs.length } (es ++ fs)) ∧
      Sends net.nextId data peer.acceptances fs
        ((stopped? data.length peer.acceptances).elim (.ok ()) .error) := by
  have first := fst_outcome_transmit net.nextId data (net.arrived peer es)
  obtain ⟨fs, r, ended, sends⟩ := outcome_transmit_sends net.nextId data (net.arrived peer es)
  rw [Network.peer_arrived] at first ended sends
  rw [ended] at first
  obtain rfl : r = _ := first
  rw [Network.arrived_called] at ended
  exact ⟨fs, ended, sends⟩

namespace Sends

variable {data : Bytes} {outcomes : List Acceptance} {r : Except Failure Unit}

theorem opened_eq_nil (h : Sends c data outcomes es r) : opened es = [] := by
  refine List.filterMap_eq_nil_iff.2 fun e mem => ?_
  obtain ⟨offered, result, rfl⟩ := h.eq_send mem
  rfl

theorem closed_eq_nil (h : Sends c data outcomes es r) : closed es = [] := by
  refine List.filterMap_eq_nil_iff.2 fun e mem => ?_
  obtain ⟨offered, result, rfl⟩ := h.eq_send mem
  rfl

/-- Sends, and the close of the connection behind them. -/
theorem given_up (h : Sends c data outcomes es r) (result : Option Unit) :
    opened (es ++ [.close c result]) = [] ∧ closed (es ++ [.close c result]) = [c] ∧
      accepted c (es ++ [.close c result]) = accepted c es := by
  rw [opened_append, closed_append, accepted_append, h.opened_eq_nil, h.closed_eq_nil]
  exact ⟨rfl, rfl, List.append_nil _⟩

/-- Sends leave a connection in the mode that it was put into. -/
theorem blockingMode (h : Sends c data outcomes fs r) (es : List Event) :
    BlockingMode c (es ++ .setBlocking c (some ()) :: fs) := by
  have still : fs.filterMap (Event.mode? c) = [] := by
    refine List.filterMap_eq_nil_iff.2 fun e mem => ?_
    obtain ⟨offered, result, rfl⟩ := h.eq_send mem
    rfl
  unfold BlockingMode
  rw [List.filterMap_append, List.filterMap_cons, still]
  simp [Event.mode?]

end Sends

end Wire

namespace Session

variable {session : Session} {id : Int} {source : IdSource}

/-- A command is handed on if its number can be written down. -/
theorem outcome_handOn {command : Command} (writable : command.Writable) (message : String)
    (held : Held Session) :
    Act.outcome (do
      Act.ofExcept command.requireWritable
      Host.write .info .joining message
      pure command : Act (Held Session) Command) held =
        (.ok command, held.logged ⟨.info, .joining, message⟩) := by
  rw [show command.requireWritable = .ok () from if_pos writable]
  rfl

/-- The session gets the id if it has none, and its line is handed on if the id can be written
down. -/
theorem outcome_introduction (source : IdSource) (host : Host)
    (expects : id = session.id.getD (host.ids source).next) (writable : Text.Writable id) :
    ∃ after, Act.outcome (introduction source) ⟨session, host⟩ =
        (.ok (session.nextCommand id), ⟨{ session with id := some id }, after⟩) ∧
      after.network = host.network ∧ after.ids source =
        if session.id = none then (host.ids source).advance else host.ids source := by
  unfold introduction nextCommand
  rw [Act.outcome_get_bind]
  dsimp only
  cases known : session.id with
  | some own =>
    rw [known] at expects
    obtain rfl : id = own := expects
    obtain ⟨direction, known⟩ := session
    subst known
    have writable : (Command.runSession id).Writable := writable
    exact ⟨_, outcome_handOn writable _ _, rfl, rfl⟩
  | none =>
    rw [known] at expects
    subst expects
    have writable : (Command.newSession session.direction (host.ids source).next).Writable :=
      writable
    let advanced := host.setIds source (host.ids source).advance
    have handed : Act.outcome (Host.nextSessionId source) host =
      (.ok (host.ids source).next, advanced) := rfl
    dsimp only
    rw [Act.outcome_bind, Act.outcome_onHeld, handed]
    dsimp only
    rw [Act.outcome_bind]
    refine ⟨_, outcome_handOn writable _ ⟨{ session with id := some _ }, advanced⟩, ?_, ?_⟩
    · cases source <;> rfl
    · cases source <;> rfl

-- ════════════════════════════════════════════════════════════════════════
-- The whole attempt
-- ════════════════════════════════════════════════════════════════════════

variable {route : Route} {timeout : Int}

/-- What is left of an attempt once the line of the session is known. -/
def present (c : ConnectionId) (command : Command) : Act (Held Session) ConnectionId := do
  orGiveUp c command.word (Wire.transmit c command.line)
  Host.write .debug .joining s!"Opened connection {c.descriptor}"
  pure c

/-- What is left of an attempt once the address has been reached. -/
def joinOver (route : Route) (c : ConnectionId) : Act (Held Session) ConnectionId := do
  orGiveUp c "setblocking" (Network.setBlocking c)
  let command ← introduction route.ids
  present c command

/-- The address is reached first, and the session does not change on the way there. -/
theorem outcome_join_eq (address : Address) (session : Session) (host : Host) :
    Act.outcome (join route address timeout) ⟨session, host⟩ =
      match Act.outcome (reach route.dialer address timeout)
        (host.logged ⟨.debug, .joining, "Opening new connection"⟩) with
      | (.error e, after) => (.error e, ⟨session, after⟩)
      | (.ok c, after) => Act.outcome (joinOver route c) ⟨session, after⟩ := by
  unfold join
  rw [Held.outcome_write_bind, Act.outcome_bind, Act.outcome_onHeld]
  dsimp only [Held.logged]
  generalize Act.outcome (reach route.dialer address timeout) _ = reached
  rcases reached with ⟨e | c, after⟩ <;> rfl

/-- The address was refused. -/
theorem outcome_join_of_refused (address : Address) (session : Session)
    (proper : ∀ f ∈ host.network.nextPeer.faults, f.isSystem = true)
    (refused : route.dialer.Refused timeout host.network.nextPeer) :
    ∃ e es after log, Act.outcome (join route address timeout) ⟨session, host⟩ =
        (.error e, ⟨session, { host with network := after, log }⟩) ∧
      after.trace = host.network.trace ++ es ∧ e.isUnreachable = true ∧ Mute es ∧
      closed es = opened es := by
  let logged := host.logged ⟨.debug, .joining, "Opening new connection"⟩
  obtain ⟨e, es, after, log, ended, facts⟩ :=
    outcome_reach_of_refused address logged proper refused
  exact ⟨e, es, after, log, by rw [outcome_join_eq, ended]; rfl, facts⟩

section Accepted

variable (address : Address) (session : Session) (takes : route.dialer.Takes timeout)
  (accepted : ¬route.dialer.Refused timeout host.network.nextPeer)

include takes accepted

/-- The connection did not let itself be put into blocking mode. -/
theorem outcome_join_of_unset {f : Fault}
    (unset : host.network.nextPeer.blockingFault = some f) (system : f.isSystem = true) :
    ∃ es result log, Act.outcome (join route address timeout) ⟨session, host⟩ =
        (.error (host.network.nextPeer.closeFault.elim (.fault f) .fault), ⟨session, { host with
          network := host.network.arrived host.network.nextPeer
            (es ++ [.setBlocking host.network.nextId none, .close host.network.nextId result])
          log }⟩) ∧
      Dialing address timeout route.dialer es (.ok host.network.nextId) := by
  let logged := host.logged ⟨.debug, .joining, "Opening new connection"⟩
  obtain ⟨es, ended, dialing⟩ :=
    outcome_reach_of_accepted address logged takes accepted
  let after (es : List Event) : Host :=
    { logged with network := host.network.arrived host.network.nextPeer es }
  have ended : Act.outcome (reach route.dialer address timeout) logged =
    (.ok host.network.nextId, after es) := ended
  have failed : Act.outcome (liftM (Network.setBlocking host.network.nextId)) (after es) =
      (.error (.fault f), after (es ++ [.setBlocking host.network.nextId none])) := by
    rw [Act.outcome_onHost, Network.setBlocking, Network.outcome_comply_arrived, unset]
  obtain ⟨result, log, gone⟩ :=
    outcome_orGiveUp_of_error (c := host.network.nextId) "setblocking" failed system
  rw [Network.arrived_called, Network.peer_arrived] at gone
  refine ⟨es, result, log, ?_, dialing⟩
  rw [outcome_join_eq, ended]
  dsimp only [joinOver]
  rw [Act.outcome_bind, Act.outcome_onHeld, gone, List.append_assoc]
  rfl

variable {id : Int} (ready : host.network.nextPeer.blockingFault = none)
  (expects : id = session.id.getD (host.ids route.ids).next) (writable : Text.Writable id)

include ready expects writable

/-- The connection is ready for the line of the session. -/
theorem outcome_join_of_ready :
    ∃ es mid, Act.outcome (join route address timeout) ⟨session, host⟩ =
        Act.outcome (present host.network.nextId (session.nextCommand id))
          ⟨{ session with id := some id }, mid⟩ ∧
      mid.network = host.network.arrived host.network.nextPeer
        (es ++ [.setBlocking host.network.nextId (some ())]) ∧
      mid.ids route.ids = (if session.id = none then (host.ids route.ids).advance
        else host.ids route.ids) ∧
      Dialing address timeout route.dialer es (.ok host.network.nextId) := by
  let logged := host.logged ⟨.debug, .joining, "Opening new connection"⟩
  obtain ⟨es, ended, dialing⟩ :=
    outcome_reach_of_accepted address logged takes accepted
  let after (es : List Event) : Host :=
    { logged with network := host.network.arrived host.network.nextPeer es }
  have ended : Act.outcome (reach route.dialer address timeout) logged =
    (.ok host.network.nextId, after es) := ended
  have set : Act.outcome (liftM (Network.setBlocking host.network.nextId)) (after es) =
      (.ok (), after (es ++ [.setBlocking host.network.nextId (some ())])) := by
    rw [Act.outcome_onHost, Network.setBlocking, Network.outcome_comply_arrived, ready]
  obtain ⟨mid, introduced, network, ids⟩ := outcome_introduction route.ids
    (after (es ++ [.setBlocking host.network.nextId (some ())])) expects writable
  refine ⟨es, mid, ?_, network, ids, dialing⟩
  rw [outcome_join_eq, ended]
  dsimp only [joinOver]
  rw [Act.outcome_bind, Act.outcome_onHeld, outcome_orGiveUp_of_ok set]
  dsimp only
  rw [Act.outcome_bind, introduced]

/-- The line of the session was not taken to its end. -/
theorem outcome_join_of_unsent {cause : Failure} (system : cause.isSystem = true)
    (stopped : stopped? (session.nextCommand id).line.length host.network.nextPeer.acceptances =
      some cause) :
    ∃ es fs result peer after, Act.outcome (join route address timeout) ⟨session, host⟩ =
        (.error (host.network.nextPeer.closeFault.elim cause .fault),
          ⟨{ session with id := some id }, after⟩) ∧
      after.network = host.network.arrived peer
        (es ++ .setBlocking host.network.nextId (some ()) :: (fs ++
          [.close host.network.nextId result])) ∧
      after.ids route.ids = (if session.id = none then (host.ids route.ids).advance
        else host.ids route.ids) ∧
      Dialing address timeout route.dialer es (.ok host.network.nextId) ∧
      Wire.Sends host.network.nextId (session.nextCommand id).line
        host.network.nextPeer.acceptances fs (.error cause) := by
  obtain ⟨es, mid, ended, network, ids, dialing⟩ :=
    outcome_join_of_ready address session takes accepted ready expects writable
  obtain ⟨fs, sent, sends⟩ := Wire.outcome_transmit_arrived (session.nextCommand id).line
    host.network.nextPeer (es ++ [.setBlocking host.network.nextId (some ())]) host.network
  rw [stopped] at sent sends
  let left : Peer := { host.network.nextPeer with
    acceptances := host.network.nextPeer.acceptances.drop fs.length }
  let spoken := host.network.arrived left
    (es ++ [.setBlocking host.network.nextId (some ())] ++ fs)
  have failed : Act.outcome (liftM (Wire.transmit host.network.nextId
      (session.nextCommand id).line)) mid = (.error cause, { mid with network := spoken }) := by
    rw [Act.outcome_onHost, network, sent]
    rfl
  obtain ⟨result, log, gone⟩ := outcome_orGiveUp_of_error (c := host.network.nextId)
    (session.nextCommand id).word failed system
  dsimp only [spoken] at gone
  rw [Network.arrived_called, Network.peer_arrived] at gone
  refine ⟨es, fs, result, left, _,
    by rw [ended, present, Act.outcome_bind, Act.outcome_onHeld, gone], ?_, ?_, dialing, sends⟩
  · dsimp only
    rw [List.append_assoc, List.append_assoc]
    rfl
  · cases source : route.ids <;> rw [source] at ids <;> exact ids

/-- The line of the session was taken. -/
theorem outcome_join_of_sent
    (taken : stopped? (session.nextCommand id).line.length host.network.nextPeer.acceptances =
      none) :
    ∃ es fs after, Act.outcome (join route address timeout) ⟨session, host⟩ =
        (.ok host.network.nextId, ⟨{ session with id := some id }, after⟩) ∧
      after.network = host.network.arrived { host.network.nextPeer with
          acceptances := host.network.nextPeer.acceptances.drop fs.length }
        (es ++ .setBlocking host.network.nextId (some ()) :: fs) ∧
      after.ids route.ids = (if session.id = none then (host.ids route.ids).advance
        else host.ids route.ids) ∧
      Dialing address timeout route.dialer es (.ok host.network.nextId) ∧
      Wire.Sends host.network.nextId (session.nextCommand id).line
        host.network.nextPeer.acceptances fs (.ok ()) := by
  obtain ⟨es, mid, ended, network, ids, dialing⟩ :=
    outcome_join_of_ready address session takes accepted ready expects writable
  obtain ⟨fs, sent, sends⟩ := Wire.outcome_transmit_arrived (session.nextCommand id).line
    host.network.nextPeer (es ++ [.setBlocking host.network.nextId (some ())]) host.network
  rw [taken] at sent sends
  let spoken := host.network.arrived { host.network.nextPeer with
      acceptances := host.network.nextPeer.acceptances.drop fs.length }
    (es ++ [.setBlocking host.network.nextId (some ())] ++ fs)
  have said : Act.outcome (liftM (Wire.transmit host.network.nextId
      (session.nextCommand id).line)) mid = (.ok (), { mid with network := spoken }) := by
    rw [Act.outcome_onHost, network, sent]
    rfl
  refine ⟨es, fs, _, by rw [ended, present, Act.outcome_bind, Act.outcome_onHeld,
    outcome_orGiveUp_of_ok said]; rfl, ?_, ?_, dialing, sends⟩
  · change spoken = _
    dsimp only [spoken]
    rw [List.append_assoc]
    rfl
  · cases source : route.ids <;> rw [source] at ids <;> exact ids

end Accepted

/-- How an attempt ends, by what the next peer has laid down for it: a connection `c` with `peer`
behind it, for a session that has the id `id` or will get it. -/
structure Verdict (route : Route) (timeout : Int) (peer : Peer) (c : ConnectionId) (id : Int)
    (before after : Held Session) (es : List Event) (r : Except Failure ConnectionId) : Prop where
  /-- If the address is refused, the failure says so, nothing is sent and nothing stays behind. -/
  refused : route.dialer.Refused timeout peer →
    (∃ e, r = .error e ∧ e.isUnreachable = true) ∧ Mute es ∧ closed es = opened es ∧
      after.own = before.own ∧ ∀ source, after.host.ids source = before.host.ids source
  /-- If the connection does not let itself be put into blocking mode, it is closed, and nothing
  has been sent or handed out. -/
  unset : ¬route.dialer.Refused timeout peer → route.dialer.Takes timeout →
    ∀ f, peer.blockingFault = some f →
      r = .error (.fault (peer.closeFault.getD f)) ∧ Mute es ∧ opened es = [c] ∧
        closed es = [c] ∧ after.own = before.own ∧
        ∀ source, after.host.ids source = before.host.ids source
  /-- From then on the session has its id. -/
  introduced : ¬route.dialer.Refused timeout peer → route.dialer.Takes timeout →
    peer.blockingFault = none → Text.Writable id →
      after.own = { before.own with id := some id } ∧ after.host.ids route.ids =
        if before.own.id = none then (before.host.ids route.ids).advance
        else before.host.ids route.ids
  /-- If the line of the session is not taken to its end, the connection is closed. -/
  unsent : ¬route.dialer.Refused timeout peer → route.dialer.Takes timeout →
    peer.blockingFault = none → Text.Writable id → ∀ cause,
      stopped? (before.own.nextCommand id).line.length peer.acceptances = some cause →
        r = .error (peer.closeFault.elim cause .fault) ∧
          accepted c es <+: (before.own.nextCommand id).line ∧
          accepted c es ≠ (before.own.nextCommand id).line ∧ opened es = [c] ∧ closed es = [c]
  /-- Otherwise the connection is open and in blocking mode, it has accepted the line and nothing
  else, and nothing has been read from it. -/
  sent : ¬route.dialer.Refused timeout peer → route.dialer.Takes timeout →
    peer.blockingFault = none → Text.Writable id →
      stopped? (before.own.nextCommand id).line.length peer.acceptances = none →
        r = .ok c ∧ opened es = [c] ∧ closed es = [] ∧ BlockingMode c es ∧
          accepted c es = (before.own.nextCommand id).line ∧ Outward es ∧
          (after.host.network.peer c).incoming = peer.incoming

/-- The calls on a connection that was reached, and what was sent on it. -/
theorem calls_of_dialing {address : Address} {dialer : Dialer}
    (dialing : Dialing address timeout dialer es (.ok c)) (result : Option Unit)
    (fs : List Event) :
    opened (es ++ .setBlocking c result :: fs) = c :: opened fs ∧
      closed (es ++ .setBlocking c result :: fs) = closed fs ∧
      accepted c (es ++ .setBlocking c result :: fs) = accepted c fs ∧
      (Mute fs → Mute (es ++ .setBlocking c result :: fs)) ∧
      (Outward fs → Outward (es ++ .setBlocking c result :: fs)) := by
  obtain ⟨made, mute⟩ := dialing.made_of_ok
  refine ⟨?_, ?_, ?_, fun quiet => mute.append ?_, fun quiet => mute.outward.append ?_⟩
  · rw [opened_append, made.opened_eq]
    rfl
  · rw [closed_append, dialing.closed_eq_nil]
    rfl
  · rw [accepted_append, mute.accepted_eq_nil]
    rfl
  · intro e mem
    rcases List.mem_cons.1 mem with rfl | mem
    · exact ⟨rfl, rfl⟩
    · exact quiet e mem
  · intro e mem
    rcases List.mem_cons.1 mem with rfl | mem
    · rfl
    · exact quiet e mem

/-- **An attempt to join a session ends as the script of the next peer says**, whatever that is, as
long as no call fails with anything but a fault of the system. -/
theorem join_by_script (route : Route) (address : Address) (timeout : Int) (session : Session)
    (host : Host) (proper : ∀ f ∈ host.network.nextPeer.faults, f.isSystem = true) :
    let run := Act.outcome (join route address timeout) ⟨session, host⟩
    ∃ es, run.2.host.network.trace = host.network.trace ++ es ∧
      Verdict route timeout host.network.nextPeer host.network.nextId
        (session.id.getD (host.ids route.ids).next) ⟨session, host⟩ run.2 es run.1 := by
  intro run
  obtain ⟨es, ⟨trace, -⟩, -⟩ := join_does route address timeout ⟨session, host⟩
  refine ⟨es, trace, ?_⟩
  -- The calls on record are those of the case that is worked out.
  have same {fs : List Event} {after : Held Session} (h : run.2 = after)
      (trace' : after.host.network.trace = host.network.trace ++ fs) : es = fs := by
    subst h
    exact List.append_cancel_left (trace.symm.trans trace')
  constructor
  case refused =>
    intro refused
    obtain ⟨e, fs, after, log, ended, trace, unreachable, mute, closes⟩ :=
      outcome_join_of_refused address session proper refused
    obtain rfl := same (congrArg Prod.snd ended) trace
    rw [show run = _ from ended]
    exact ⟨⟨e, rfl, unreachable⟩, mute, closes, rfl, fun source => by cases source <;> rfl⟩
  case unset =>
    intro accepted takes f fault
    obtain ⟨dialed, result, log, ended, dialing⟩ := outcome_join_of_unset address session takes
      accepted fault (proper f (Peer.blockingFault_mem fault))
    obtain rfl := same (congrArg Prod.snd ended) rfl
    rw [show run = _ from ended]
    obtain ⟨opens, closes, -, mute, -⟩ :=
      calls_of_dialing dialing none [.close host.network.nextId result]
    refine ⟨?_, mute (by simp [Mute, Event.incoming, Event.outgoing]), opens, closes, rfl,
      fun source => by cases source <;> rfl⟩
    cases host.network.nextPeer.closeFault <;> rfl
  case introduced =>
    intro accepted takes ready writable
    let line := (session.nextCommand (session.id.getD (host.ids route.ids).next)).line
    cases stopped : stopped? line.length host.network.nextPeer.acceptances with
    | none =>
      obtain ⟨_, _, after, ended, -, ids, -⟩ :=
        outcome_join_of_sent address session takes accepted ready rfl writable stopped
      rw [show run = _ from ended]
      exact ⟨rfl, ids⟩
    | some cause =>
      obtain ⟨_, _, _, _, after, ended, -, ids, -⟩ :=
        outcome_join_of_unsent address session takes accepted ready rfl writable
          (isSystem_of_stopped? proper stopped) stopped
      rw [show run = _ from ended]
      exact ⟨rfl, ids⟩
  case unsent =>
    intro accepted takes ready writable cause stopped
    obtain ⟨dialed, fs, result, left, after, ended, network, -, dialing, sends⟩ :=
      outcome_join_of_unsent address session takes accepted ready rfl writable
        (isSystem_of_stopped? proper stopped) stopped
    obtain rfl := same (congrArg Prod.snd ended) (congrArg Network.trace network)
    rw [show run = _ from ended]
    obtain ⟨opens, closes, accepts, -, -⟩ :=
      calls_of_dialing dialing (some ()) (fs ++ [.close host.network.nextId result])
    obtain ⟨opens', closes', accepts'⟩ := sends.given_up result
    rw [opens'] at opens
    rw [closes'] at closes
    rw [accepts'] at accepts
    refine ⟨rfl, accepts ▸ sends.accepted_isPrefix, fun whole => ?_, opens, closes⟩
    cases sends.ok_iff.2 (accepts.symm.trans whole)
  case sent =>
    intro accepted takes ready writable taken
    obtain ⟨dialed, fs, after, ended, network, -, dialing, sends⟩ :=
      outcome_join_of_sent address session takes accepted ready rfl writable taken
    obtain rfl := same (congrArg Prod.snd ended) (congrArg Network.trace network)
    rw [show run = _ from ended]
    obtain ⟨opens, closes, accepts, -, outward⟩ := calls_of_dialing dialing (some ()) fs
    rw [sends.opened_eq_nil] at opens
    rw [sends.closed_eq_nil] at closes
    refine ⟨rfl, opens, closes, sends.blockingMode dialed, accepts.trans (sends.ok_iff.1 rfl),
      outward sends.outward, ?_⟩
    rw [network, Network.peer_arrived]

/-- A peer that takes three bytes of the line, and a close that fails. -/
theorem join_by_script_cut :
    let broken : Fault := .system 32 "Broken pipe"
    let peer : Peer :=
      { acceptances := [.upTo 3, .fault broken], closeFault := some (.system 5 "I/O error") }
    let host : Host := { network := { waiting := [peer] } }
    let address : Address := ⟨"/run/letters", by decide, by decide⟩
    let route : Route := ⟨.socket .clock, .given⟩
    let run := Act.outcome (join route address 3000) ⟨{ direction := .read }, host⟩
    (∀ f ∈ peer.faults, f.isSystem = true) ∧
      run.1 = .error (.fault (.system 5 "I/O error")) ∧ run.2.own.id = some 1 ∧
      closed run.2.host.network.trace = [⟨0⟩] := by
  intro broken peer host address route run
  have proper : ∀ f ∈ peer.faults, f.isSystem = true := by decide
  have takes : route.dialer.Takes 3000 := by decide +kernel
  have accepted : ¬route.dialer.Refused 3000 peer := by
    rintro (refused | ⟨-, refused⟩) <;> exact refused rfl
  have writable : Text.Writable 1 := Text.writable_of_natAbs_lt (by decide)
  obtain ⟨es, trace, verdict⟩ :=
    join_by_script route address 3000 { direction := .read } host proper
  obtain ⟨error, -, -, -, closes⟩ :=
    verdict.unsent accepted takes rfl writable (.fault broken) (by decide +kernel)
  obtain ⟨own, -⟩ := verdict.introduced accepted takes rfl writable
  refine ⟨proper, error, ?_, ?_⟩
  · rw [own]
    rfl
  · rw [trace]
    exact closes

/-- No peer refuses anything, and yet no connection is handed on: a socket cannot get its timeout,
and stays behind; an id is too long to be written down, and no line is offered. -/
theorem join_exceptions :
    let address : Address := ⟨"/run/letters", by decide, by decide⟩
    let session : Session := { direction := .read }
    (∀ case ∈ [(10 ^ 400, Failure.timeoutTooLarge), (9223372036855, .timeoutBeyondClock),
        (-1, .negativeTimeout)],
      let run := Act.outcome (join ⟨.socket .clock, .given⟩ address case.1) ⟨session, {}⟩
      run.1 = .error case.2 ∧ run.2.own = session ∧
        opened run.2.host.network.trace = [⟨0⟩] ∧ closed run.2.host.network.trace = []) ∧
    (let host : Host := { givenIds := ⟨10 ^ 4300 - 1⟩ }
    let run := Act.outcome (join ⟨.direct, .given⟩ address 3000) ⟨session, host⟩
    run.1 = .error .numberTooLong ∧ run.2.own.id = some (10 ^ 4300) ∧
      accepted ⟨0⟩ run.2.host.network.trace = [] ∧ closed run.2.host.network.trace = []) := by
  decide +kernel

end Session

end SessionStream
