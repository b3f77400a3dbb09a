import Mathlib.Algebra.Group.Int.Defs
import SessionStream.Proofs.Histories

/-!
# No connection is lost

A connection that is made is closed once or still held. The stream hands its connections from one
function to another, and each of them has clean-up of its own that may fail. As long as no call
refuses a value, each conserves connections: those that were held before or were made since are
those that were closed or are held afterwards.

Two more failures are answered by no clean-up: a connect timeout that is too large for a socket, and
a session id that is too long for its line. A stream with neither is regular.

## Main definitions

- `closed` — the connections given up in a list of events
- `Conserves` — nothing is lost and nothing closed twice
- `Proper` — a result that does not come from the refusal of a value
- `ByteStream.Regular` — no number of the stream is too large

## Main results

- `ByteStream.Acts.conserves`, `ByteStream.Lives.conserves` — one step and all steps of a stream
- `World.unclosed_iff_held` — the connections not closed are those held
- `World.unclosed_without_holder` — a connection that nobody holds and nobody closes
-/

namespace SessionStream

variable {c : ConnectionId} {es fs : List Event}

/-- The connection that a call gave up. -/
def Event.closed? : Event → Option ConnectionId
  | .close c _ => some c
  | _ => none

/-- The connections given up in a list of events. -/
def closed (es : List Event) : List ConnectionId :=
  es.filterMap Event.closed?

@[simp] theorem closed_append (es fs : List Event) : closed (es ++ fs) = closed es ++ closed fs :=
  List.filterMap_append

/-- The connections held before and those made since are those closed and those held now. -/
def Conserves (before : List ConnectionId) (es : List Event) (after : List ConnectionId) : Prop :=
  (closed es ++ after).Perm (before ++ opened es)

namespace Conserves

variable {before mid after : List ConnectionId}

theorem of_nothing (hclosed : closed es = []) (hopened : opened es = []) :
    Conserves before es before := by
  unfold Conserves
  rw [hclosed, hopened, List.nil_append, List.append_nil]

theorem refl (held : List ConnectionId) : Conserves held [] held :=
  of_nothing rfl rfl

/-- **Sequencing**: what one part leaves, the next one starts with. -/
theorem trans (h : Conserves before es mid) (h' : Conserves mid fs after) :
    Conserves before (es ++ fs) after := by
  unfold Conserves at h h' ⊢
  rw [closed_append, opened_append, List.append_assoc, ← List.append_assoc before]
  calc (closed es ++ (closed fs ++ after)).Perm (closed es ++ (mid ++ opened fs)) :=
        h'.append_left _
    _ = (closed es ++ mid) ++ opened fs := (List.append_assoc ..).symm
    _ |>.Perm ((before ++ opened es) ++ opened fs) := h.append_right _

/-- What was held besides stays held. -/
theorem frame (h : Conserves before es after) (held : List ConnectionId) :
    Conserves (held ++ before) es (held ++ after) := by
  unfold Conserves at h ⊢
  calc (closed es ++ (held ++ after)).Perm (held ++ (closed es ++ after)) := by
        rw [← List.append_assoc, ← List.append_assoc]
        exact List.perm_append_comm.append_right after
    _ |>.Perm (held ++ (before ++ opened es)) := h.append_left held
    _ = (held ++ before) ++ opened es := (List.append_assoc ..).symm

end Conserves

/-- The result is not the refusal of a value. -/
def Proper {α : Type} (r : Except Failure α) : Prop :=
  ∀ text, r ≠ .error (.fault (.badValue text))

theorem Proper.ok {α : Type} (a : α) : Proper (.ok a) :=
  nofun

/-- Whether a failure is the refusal of a value does not depend on what was to be had. -/
theorem Proper.error {α β : Type} {e : Failure} (h : Proper (.error e : Except Failure α)) :
    Proper (.error e : Except Failure β) := by
  rintro text ⟨⟩
  exact h text rfl

theorem Proper.of_map {α β : Type} {r : Except Failure α} {f : α → β} (h : Proper (r.map f)) :
    Proper r := by
  rintro text rfl
  exact h text rfl

-- ════════════════════════════════════════════════════════════════════════
-- Making connections
-- ════════════════════════════════════════════════════════════════════════

theorem Wire.Transmission.closed_eq_nil {data : Bytes} {r : Except Failure Unit}
    (h : Transmission c data es r) : closed es = [] := by
  induction h with
  | done => rfl
  | advanced _ _ ih => exact ih
  | refused => rfl
  | failed => rfl

theorem Wire.Exchanged.closed_eq_nil {line : Bytes} {r : Except Failure Bytes}
    (h : Exchanged c line es r) : closed es = [] := by
  cases h with
  | unsent sends => exact sends.closed_eq_nil
  | sent sends receives =>
    rw [closed_append, sends.closed_eq_nil, List.nil_append]
    refine List.filterMap_eq_nil_iff.2 fun e he => ?_
    obtain ⟨result, rfl⟩ := receives.isReceive e he
    rfl

/-- A command on a connection that is held. -/
theorem Wire.Exchanged.conserves {line : Bytes} {r : Except Failure Bytes}
    (h : Exchanged c line es r) {held : List ConnectionId} : Conserves held es held :=
  .of_nothing h.closed_eq_nil h.opened_eq_nil

/-- A connection is given up unless it refused a value. -/
theorem GivenUp.closed_eq {cause final e : Failure} (h : GivenUp c cause final es e)
    (origin : cause = .peerClosed ∨ ∃ fault, cause = .fault fault)
    (proper : Proper (.error e : Except Failure Unit)) : SessionStream.closed es = [c] := by
  cases h with
  | closed => rfl
  | closeFailed => rfl
  | left misuse =>
    rcases origin with rfl | ⟨fault, rfl⟩
    · cases misuse
    · cases fault with
      | badValue text => exact absurd rfl (proper text)
      | _ => cases misuse

theorem Dialing.conserves {address : Address} {timeout : Int} {dialer : Dialer}
    {r : Except Failure ConnectionId} (h : Dialing address timeout dialer es r)
    (proper : Proper r) (takes : dialer.Takes timeout) :
    Conserves [] es r.toOption.toList := by
  cases h with
  | unsettable c large => exact absurd takes.1 large
  | unset c _ refused =>
    rw [takes.2] at refused
    cases refused
  | socketRefused c _ fault gone =>
    unfold Conserves
    rw [closed_append, opened_append, gone.closed_eq (.inr ⟨fault, rfl⟩) proper.error,
      gone.opened_eq_nil]
    exact List.Perm.refl _
  | _ => exact List.Perm.refl _

/-- A refused value is passed on as it is. -/
theorem Proper.of_unreached {α β : Type} {address : Address} {e : Failure}
    (h : Proper (.error (unreached address e) : Except Failure α)) :
    Proper (.error e : Except Failure β) := by
  rintro text ⟨⟩
  exact h text rfl

namespace Session

theorem Joining.conserves {route : Route} {address : Address} {timeout : Int}
    {session after : Session} {r : Except Failure ConnectionId}
    (h : Joining route address timeout session es r after) (proper : Proper r)
    (takes : route.dialer.Takes timeout)
    (short : ∀ id, after.id = some id → Text.Writable id) : Conserves [] es r.toOption.toList := by
  cases h with
  | undialed dial => exact dial.conserves proper.of_unreached takes
  | @unset es fs c fault e dial gone =>
    refine (dial.conserves (.ok c) takes).trans ?_
    unfold Conserves
    change (closed fs ++ []).Perm ([c] ++ opened fs)
    rw [gone.closed_eq (.inr ⟨fault, rfl⟩) proper.error, gone.opened_eq_nil]
  | unwritable dial introduced long =>
    refine absurd ?_ long
    cases introduced with
    | resumed known => exact short _ known
    | created _ id => exact short _ rfl
  | @unsent es fs gs c command after cause e dial introduced sends gone writable =>
    refine (dial.conserves (.ok c) takes).trans ?_
    unfold Conserves
    change (closed (fs ++ gs) ++ []).Perm ([c] ++ opened (fs ++ gs))
    rw [closed_append, opened_append, sends.closed_eq_nil, sends.opened_eq_nil,
      gone.closed_eq sends.error_cases proper.error, gone.opened_eq_nil]
    exact List.Perm.refl _
  | @joined es fs c command after dial introduced sends writable =>
    refine (dial.conserves (.ok c) takes).trans (.of_nothing ?_ ?_)
    · exact sends.closed_eq_nil
    · exact sends.opened_eq_nil

end Session

-- ════════════════════════════════════════════════════════════════════════
-- Streams
-- ════════════════════════════════════════════════════════════════════════

/-- No number of the stream is too large for the calls and lines that it goes into. -/
structure ByteStream.Regular (stream : ByteStream) : Prop where
  timeout : stream.settings.route.dialer.Takes stream.settings.timeout.effective
  id : ∀ id, stream.session.id = some id → Text.Writable id

namespace Link

variable {link after : Link}

theorem Stating.conserves {r : Except Failure Int} (h : Stating link es r after) :
    Conserves link.connections es after.connections := by
  cases h with
  | unusable => exact .refl _
  | exchanged _ exchange =>
    obtain ⟨outOfStep, hafter, -⟩ := afterExchange_eq link _
    rw [hafter]
    exact exchange.conserves

theorem Connecting.conserves {r : Except Failure ConnectionId} (h : Connecting link es r after)
    (proper : Proper r) (regular : (ByteStream.opened after).Regular) :
    Conserves link.connections es after.connections := by
  cases h with
  | kept => exact .refl _
  | unwritable => exact .refl _
  | unheard _ exchange =>
    obtain ⟨outOfStep, hafter, -⟩ := afterExchange_eq link _
    rw [hafter]
    exact exchange.conserves
  | rejected _ exchange => exact exchange.conserves
  | unjoined without exchange _ join =>
    have joins := (join.conserves proper regular.timeout regular.id).frame link.connections
    rw [List.append_nil, Except.toOption, Option.toList_none, List.append_nil] at joins
    exact exchange.conserves.trans joins
  | @joined es fs line c session without exchange _ join =>
    have joins := (join.conserves proper regular.timeout regular.id).frame [link.control]
    refine exchange.conserves.trans ?_
    unfold connections
    rw [without]
    exact joins

theorem Receiving.conserves {limit : Nat} {r : Except Failure Bytes}
    (h : Receiving limit link es r after) (proper : Proper r)
    (regular : (ByteStream.opened after).Regular) :
    Conserves link.connections es after.connections := by
  cases h with
  | unusable => exact .refl _
  | misdirected => exact .refl _
  | unconnected _ _ connect => exact connect.conserves proper.error regular
  | failed _ _ _ connect => exact (connect.conserves (.ok _) regular).trans (.of_nothing rfl rfl)
  | ended _ _ connect => exact (connect.conserves (.ok _) regular).trans (.of_nothing rfl rfl)
  | received _ _ connect =>
    exact (connect.conserves (.ok _) ⟨regular.timeout, regular.id⟩).trans (.of_nothing rfl rfl)

theorem Reading.conserves {wanted : Nat} {r : Except Failure Bytes}
    (h : Reading wanted link es r after) (proper : Proper r)
    (regular : (ByteStream.opened after).Regular) :
    Conserves link.connections es after.connections := by
  cases h with
  | unusable => exact .refl _
  | nothing => exact .refl _
  | once _ receive =>
    refine receive.conserves ?_ regular
    rintro text rfl
    exact proper text rfl

theorem Writing.conserves {data : Bytes} {r : Except Failure Nat}
    (h : Writing data link es r after) (proper : Proper r)
    (regular : (ByteStream.opened after).Regular) :
    Conserves link.connections es after.connections := by
  cases h with
  | unusable => exact .refl _
  | misdirected => exact .refl _
  | unconnected _ _ connect => exact connect.conserves proper.error regular
  | failed _ _ _ connect => exact (connect.conserves (.ok _) regular).trans (.of_nothing rfl rfl)
  | sent _ _ connect =>
    exact (connect.conserves (.ok _) ⟨regular.timeout, regular.id⟩).trans (.of_nothing rfl rfl)

theorem Moving.conserves {target : Int} {r : Except Failure Nat}
    (h : Moving target link es r after) : Conserves link.connections es after.connections := by
  have dropped : ∀ {c : ConnectionId} {result : Option Unit}, link.data = some c →
      Conserves link.connections [.close c result] [link.control] := by
    intro c result has
    unfold Conserves connections
    rw [has]
    exact List.Perm.swap ..
  cases h with
  | dropped _ _ has => exact dropped has
  | unclosed _ _ _ has => exact dropped has
  | _ => exact .refl _

theorem Seeking.conserves {offset code : Int} {r : Except Failure Int}
    (h : Seeking offset code link es r after) :
    Conserves link.connections es after.connections := by
  cases h with
  | unusable => exact .refl _
  | unknown => exact .refl _
  | size _ _ stat => exact stat.conserves
  | start _ _ move => exact move.conserves
  | current _ _ move => exact move.conserves
  | unsized _ _ stat => exact stat.conserves
  | negativeSize _ _ stat => exact stat.conserves
  | finish _ _ stat _ move => exact stat.conserves.trans move.conserves

theorem Releasing.conserves {r : Except Failure Unit} (h : Releasing link es r)
    (proper : Proper r) : Conserves link.connections es [] := by
  unfold connections
  cases h with
  | single without control =>
    rw [without]
    cases control <;> exact List.Perm.refl _
  | both has control =>
    rw [has]
    cases control <;> exact List.Perm.swap ..
  | misused fault has misuse =>
    cases fault with
    | badValue text => exact absurd rfl (proper text)
    | _ => cases misuse

end Link

namespace ByteStream

variable {stream after : ByteStream}

/-- A stream that is regular in the end was so before. -/
theorem Regular.of_evolves {ps : List Placed} (h : after.Regular)
    (evolves : Evolves stream es ps after) : stream.Regular := by
  obtain ⟨settings, session⟩ := evolves.settled
  refine ⟨settings ▸ h.timeout, fun id known => h.id id ?_⟩
  rw [session (by rw [Session.assigned, known]; rfl), known]

/-- An operation of an open stream that conserves connections. -/
theorem WhileOpen.conserves {α : Type} {does : Link → List Event → Except Failure α → Link → Prop}
    {r : Except Failure α} (h : WhileOpen does stream es r after)
    (operation : ∀ {link link'}, after = .opened link' → does link es r link' →
      Conserves link.connections es link'.connections) :
    Conserves stream.connections es after.connections := by
  cases h with
  | refused => exact .refl _
  | done does => exact operation rfl does

theorem Opening.conserves {r : Except Failure Unit} (h : Opening stream es r after)
    (proper : Proper r) (regular : after.Regular) :
    Conserves stream.connections es after.connections := by
  cases h with
  | again => exact .refl _
  | unlocated => exact .refl _
  | unjoined _ join => exact join.conserves proper.error regular.timeout regular.id
  | joined _ join => exact join.conserves (.ok _) regular.timeout regular.id

theorem Closing.conserves {r : Except Failure Unit} (h : Closing stream es r after)
    (proper : Proper r) : Conserves stream.connections es after.connections := by
  cases h with
  | idle => exact .refl _
  | released release => exact release.conserves proper

theorem Performing.conserves {operation : Operation} {r : Except Failure Answer}
    (h : Performing operation stream es r after) (proper : Proper r) (regular : after.Regular) :
    Conserves stream.connections es after.connections := by
  cases h with
  | connect opening => exact opening.conserves proper.of_map regular
  | unroomy => exact .refl _
  | read reading =>
    refine reading.conserves fun hafter does => does.conserves proper.of_map ?_
    exact hafter ▸ regular
  | receive receiving =>
    refine receiving.conserves fun hafter does => does.conserves proper.of_map ?_
    exact hafter ▸ regular
  | write writing =>
    refine writing.conserves fun hafter does => does.conserves proper.of_map ?_
    exact hafter ▸ regular
  | seek seeking => exact seeking.conserves fun _ does => does.conserves
  | stat stating => exact stating.conserves fun _ does => does.conserves
  | position => exact .refl _
  | descriptor describing =>
    refine describing.conserves ?_
    rintro link _ _ ⟨rfl, -, rfl⟩
    exact .refl _
  | inspect => exact .refl _
  | close closing => exact closing.conserves proper.of_map

end ByteStream

namespace WindowReader

variable {stream after : ByteStream}

theorem Gathering.evolves {start missing : Nat} {got : Bytes} {r : Except Failure Bytes}
    (h : Gathering start missing got stream es r after) :
    ∃ ps, ByteStream.Evolves stream es ps after := by
  by_cases isOpen : ∃ link, stream = .opened link
  · obtain ⟨link, rfl⟩ := isOpen
    obtain ⟨link', ps, rfl, moves, -⟩ := h.moves rfl
    exact ⟨ps, .moved moves⟩
  · refine ⟨[], ?_⟩
    cases h with
    | done => exact .still _
    | stopped _ receive =>
      cases receive with
      | refused => exact .still _
      | done => exact absurd ⟨_, rfl⟩ isOpen
    | more _ receive =>
      cases receive with
      | done => exact absurd ⟨_, rfl⟩ isOpen

theorem Gathering.conserves {start missing : Nat} {got : Bytes} {r : Except Failure Bytes}
    (h : Gathering start missing got stream es r after) (proper : Proper r)
    (regular : after.Regular) : Conserves stream.connections es after.connections := by
  induction h with
  | done => exact .refl _
  | stopped _ receive =>
    refine receive.conserves fun hafter does => does.conserves ?_ (hafter ▸ regular)
    rintro text ⟨⟩
    exact proper text rfl
  | more _ receive rest ih =>
    obtain ⟨ps, evolves⟩ := rest.evolves
    have middle := regular.of_evolves evolves
    exact (receive.conserves fun hafter does => does.conserves (.ok _) (hafter ▸ middle)).trans
      (ih proper regular)

theorem Fetching.conserves {start length : Int} {r : Except Failure Bytes}
    (h : Fetching start length stream es r after) (proper : Proper r) (regular : after.Regular) :
    Conserves stream.connections es after.connections := by
  cases h with
  | negativeStart => exact .refl _
  | nonPositiveLength => exact .refl _
  | unmoved _ _ seek => exact seek.conserves fun _ does => does.conserves
  | unroomy _ _ seek => exact seek.conserves fun _ does => does.conserves
  | gathered _ _ seek gather =>
    exact (seek.conserves fun _ does => does.conserves).trans (gather.conserves proper regular)

theorem Performing.conserves {operation : Operation} {r : Except Failure Answer}
    (h : Performing operation stream es r after) (proper : Proper r) (regular : after.Regular) :
    Conserves stream.connections es after.connections := by
  cases h with
  | fetch fetching => exact fetching.conserves proper.of_map regular
  | size seeking => exact seeking.conserves fun _ does => does.conserves
  | close closing => exact closing.conserves proper.of_map

end WindowReader

namespace ByteStream

variable {stream after : ByteStream} {ds : List Deed} {d : Deed}

/-- **Step lemma**: a step that refuses no value loses no connection. -/
theorem Acts.conserves (h : Acts stream d after) (proper : Proper d.answer)
    (regular : after.Regular) : Conserves stream.connections d.calls after.connections := by
  cases h with
  | operation performs => exact performs.conserves proper regular
  | window performs => exact performs.conserves proper regular

theorem Born.conserves (h : Born es stream) (regular : stream.Regular) :
    Conserves [] es stream.connections := by
  cases h with
  | unopened => exact .refl _
  | opened opening => exact opening.conserves (.ok _) regular

/-- **Run lemma**: nor does any number of them. -/
theorem Lives.conserves (h : Lives stream ds after) (proper : ∀ d ∈ ds, Proper d.answer)
    (regular : after.Regular) :
    stream.Regular ∧ Conserves stream.connections (ds.flatMap Deed.calls) after.connections := by
  induction h with
  | still => exact ⟨regular, .refl _⟩
  | @acted ds d _ _ _ acts ih =>
    obtain ⟨ps, evolves⟩ := acts.evolves
    obtain ⟨regular', conserves⟩ := ih (fun d hd => proper d (List.mem_append_left _ hd))
      (regular.of_evolves evolves)
    have last := acts.conserves (proper d (List.mem_append_right _ (List.mem_singleton.2 rfl)))
      regular
    rw [List.flatMap_append, List.flatMap_singleton]
    exact ⟨regular', conserves.trans last⟩

theorem mem_connections_iff : c ∈ stream.connections ↔
    stream.control = some c ∨ stream.data = some c := by
  cases stream with
  | opened link => simp [connections, Link.connections, control, data, eq_comm]
  | _ => simp [connections, control, data]

end ByteStream

/-- Whether a connection was given up is told by the calls on it. -/
theorem count_closed_callsOn (c : ConnectionId) (es : List Event) :
    (closed (callsOn c es)).count c = (closed es).count c := by
  have split : ∀ (e : Event) (es : List Event), closed (e :: es) = closed [e] ++ closed es :=
    fun e es => closed_append [e] es
  induction es with
  | nil => rfl
  | cons e es ih =>
    by_cases h : e.target? = some c
    · have here : callsOn c (e :: es) = e :: callsOn c es := by simp [callsOn, h]
      rw [here, split, split e es, List.count_append, List.count_append, ih]
    · have gone : callsOn c (e :: es) = callsOn c es := by simp [callsOn, h]
      have other : c ∉ closed [e] := by
        intro hc
        obtain ⟨e', he, hclosed⟩ := List.mem_filterMap.1 hc
        obtain rfl := List.mem_singleton.1 he
        cases e' with
        | close c' result => exact h hclosed
        | _ => cases hclosed
      rw [gone, split, List.count_append, List.count_eq_zero_of_not_mem other, ih, Nat.zero_add]

namespace World

variable {world : World} {number : Nat} {stream : ByteStream}

/-- What a stream has made is closed or held. -/
theorem conserves_history {firstId : Int} {waiting : List Peer}
    (start : begin firstId waiting = .ok world) (steps : List Step)
    (has : (after steps world).streams[number]? = some stream) (regular : stream.Regular)
    (proper : ∀ d ∈ deeds number steps world, Proper d.answer) :
    Conserves [] (history number steps world) stream.connections := by
  obtain ⟨birth, later, first, hdeeds, -, born, lives⟩ :=
    life steps (fresh_begin start number).1 has
  rw [hdeeds] at proper
  obtain ⟨regular', conserves⟩ :=
    lives.conserves (fun d hd => proper d (List.mem_cons_of_mem _ hd)) regular
  rw [history, hdeeds, List.flatMap_cons]
  exact (born.conserves regular').trans conserves

/-- **No connection is lost.** Take a stream in a world that a run leads to, whose numbers are not
too large, and none of whose steps ended with the refusal of a value. Of the connections that were
made for it, exactly the control connection and the data connection that it holds have not been
closed, so none if it is not open and two at most; and none has been closed twice. -/
theorem unclosed_iff_held {firstId : Int} {waiting : List Peer}
    (start : begin firstId waiting = .ok world) (steps : List Step)
    (has : (after steps world).streams[number]? = some stream) (regular : stream.Regular)
    (proper : ∀ d ∈ deeds number steps world, ∀ text,
      d.answer ≠ .error (.fault (.badValue text))) :
    let own := opened (history number steps world)
    let gone := closed (after steps world).trace
    (∀ c ∈ own, c ∉ gone ↔ stream.control = some c ∨ stream.data = some c) ∧
    (∀ c, stream.control = some c ∨ stream.data = some c → c ∈ own) ∧
    (stream.phase ≠ .opened → ∀ c ∈ own, c ∈ gone) ∧
    (own.filter (· ∉ gone)).length ≤ 2 ∧
    ∀ c ∈ own, gone.count c ≤ 1 := by
  intro own gone
  have conserves : (closed (history number steps world) ++ stream.connections).Perm own :=
    conserves_history start steps has regular proper
  have owning := owning_history start number steps
  have count : ∀ c ∈ own, gone.count c = (closed (history number steps world)).count c := by
    intro c hc
    rw [← count_closed_callsOn, owning.callsOn_eq c hc, count_closed_callsOn]
  have nodup : (closed (history number steps world) ++ stream.connections).Nodup :=
    conserves.nodup_iff.2 (nodup_opened_history start number steps)
  obtain ⟨once, -, apart⟩ := List.nodup_append.1 nodup
  have unclosed : ∀ c ∈ own, c ∉ gone ↔ c ∈ stream.connections := by
    intro c hc
    rw [← List.count_eq_zero, count c hc, List.count_eq_zero]
    refine ⟨fun h => ?_, fun held h => apart c h c held rfl⟩
    exact (List.mem_append.1 (conserves.mem_iff.2 hc)).resolve_left h
  have made : ∀ c ∈ stream.connections, c ∈ own :=
    fun c hc => conserves.mem_iff.1 (List.mem_append_right _ hc)
  refine ⟨fun c hc => ?_, fun c hc => ?_, fun notOpen c hc => ?_, ?_, fun c hc => ?_⟩
  · rw [unclosed c hc, ByteStream.mem_connections_iff]
  · exact made c (ByteStream.mem_connections_iff.2 hc)
  · refine Decidable.by_contra fun h => ?_
    have held := (unclosed c hc).1 h
    cases stream with
    | opened => exact notOpen rfl
    | _ => cases held
  · have two : stream.connections.length ≤ 2 := by
      cases stream with
      | opened link =>
        rw [ByteStream.connections, Link.connections, List.length_cons]
        cases link.data <;> simp
      | _ => exact Nat.zero_le 2
    have none : (closed (history number steps world)).filter (· ∉ gone) = [] := by
      refine List.filter_eq_nil_iff.2 fun c hc => ?_
      have closed : c ∈ gone := by
        rw [← List.count_pos_iff, count c (conserves.mem_iff.1 (List.mem_append_left _ hc))]
        exact List.count_pos_iff.2 hc
      simpa using closed
    rw [(conserves.symm.filter _).length_eq, List.filter_append, none, List.nil_append]
    exact Nat.le_trans (List.length_filter_le ..) two
  · rw [count c hc]
    exact List.nodup_iff_count.1 once c

/-- A stream that is opened at the second attempt and then connects once more: the first connection
is closed, the other two are held. -/
theorem unclosed_iff_held_retried :
    let settings : Settings := { target := "/run/letters", route := ⟨.socket .clock, .given⟩ }
    let waiting : List Peer := [{ acceptances := [.upTo 3, .fault (.system 32 "Broken pipe")] },
      { incoming := [.bytes (utf8 "ok\n")] }, { incoming := [.bytes (utf8 "ab")] }]
    let steps : List Step := [.create settings "r", .onStream 0 .connect, .onStream 0 .connect,
      .onStream 0 (.receive 2)]
    let world : World := { host := { network := { waiting } } }
    opened (history 0 steps world) = [⟨0⟩, ⟨1⟩, ⟨2⟩] ∧
      ∃ stream, (after steps world).streams[0]? = some stream ∧
        ∀ c ∈ [⟨0⟩, ⟨1⟩, ⟨2⟩], c ∉ closed (after steps world).trace ↔
          stream.control = some c ∨ stream.data = some c := by
  intro settings waiting steps world
  have start : begin 1 waiting = .ok world := rfl
  have there : (after steps world).streams[0]?.isSome = true := by decide +kernel
  have facts : ∀ stream ∈ (after steps world).streams, stream.session.id = some 1 ∧
      stream.settings.route.dialer.Takes stream.settings.timeout.effective := by decide +kernel
  have answers : (deeds 0 steps world).map Deed.answer = [.ok (.number 0),
      .error (.fault (.system 32 "Broken pipe")), .ok .done, .ok (.bytes (utf8 "ab"))] := by
    decide +kernel
  have own : opened (history 0 steps world) = [⟨0⟩, ⟨1⟩, ⟨2⟩] := by decide +kernel
  obtain ⟨stream, has⟩ := Option.isSome_iff_exists.1 there
  obtain ⟨known, takes⟩ := facts stream (List.mem_of_getElem? has)
  have regular : stream.Regular := by
    refine ⟨takes, fun id hid => ?_⟩
    obtain rfl : (1 : Int) = id := Option.some.inj (known.symm.trans hid)
    decide +kernel
  have unclosed := (unclosed_iff_held start steps has regular fun d hd text improper => by
    have answer := List.mem_map_of_mem (f := Deed.answer) hd
    rw [answers, improper] at answer
    simp at answer).1
  rw [own] at unclosed
  exact ⟨own, stream, has, unclosed⟩

/-- Numbers that are too large. With such a connect timeout a socket, and with such an id a
connection that was made in one call, is neither held by the stream nor closed. -/
theorem unclosed_without_holder :
    (∀ case ∈ [(10 ^ 400, Failure.timeoutTooLarge), (9223372036855, .timeoutBeyondClock)],
      let settings : Settings :=
        { target := "/run/letters", timeout := ⟨case.1⟩, route := ⟨.socket .clock, .given⟩ }
      let steps : List Step := [.create settings "r", .onStream 0 .connect]
      let world : World := {}
      (run steps world).1 = [.ok (.number 0), .error case.2] ∧
        opened (history 0 steps world) = [⟨0⟩] ∧ closed (after steps world).trace = [] ∧
        ∀ stream ∈ (after steps world).streams,
          stream.phase = .unopened ∧ stream.control = none ∧ stream.data = none) ∧
    (let settings : Settings := { target := "/run/letters", route := ⟨.direct, .given⟩ }
    let steps : List Step := [.create settings "r", .onStream 0 .connect]
    let world : World := { host := { givenIds := ⟨Text.textBound - 1⟩ } }
    begin Text.textBound [] = .ok world ∧
      (run steps world).1 = [.ok (.number 0), .error .numberTooLong] ∧
      opened (history 0 steps world) = [⟨0⟩] ∧ closed (after steps world).trace = [] ∧
      ∀ stream ∈ (after steps world).streams,
        stream.phase = .unopened ∧ stream.control = none ∧ stream.data = none) := by
  decide +kernel

end World

end SessionStream
