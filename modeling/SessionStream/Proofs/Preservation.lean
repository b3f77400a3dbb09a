import SessionStream.Proofs.Coherence

/-!
# Every step keeps the invariant

Each of the smallest steps of an open stream keeps it fitting to its record, and the record in
order. By induction so does any number of them, and with them every operation of the stream.

## Main results

- `Link.Move.sound` — the step lemma
- `Link.Moves.sound` — any number of steps
-/

namespace SessionStream

variable {c k : ConnectionId} {es fs trace : List Event}

theorem Wire.Exchanged.opened_eq_nil {line : Bytes} {r : Except Failure Bytes}
    (h : Exchanged c line es r) : opened es = [] := by
  have hears : ∀ {overflow : Failure} {room : Nat} {line : Bytes} {es : List Event}
      {r : Except Failure Bytes}, Hearing c overflow room line es r → opened es = [] := by
    intro overflow room line es r receives
    refine List.filterMap_eq_nil_iff.2 fun e he => ?_
    obtain ⟨result, rfl⟩ := receives.isReceive e he
    rfl
  cases h with
  | unsent sends => exact sends.opened_eq_nil
  | sent sends receives => rw [opened_append, sends.opened_eq_nil, hears receives, List.append_nil]

/-- Calls on one connection are on no other. -/
theorem untouched_of_target (h : ∀ e ∈ es, e.target? = some k) (hc : c ≠ k) : Untouched c es := by
  intro e he htarget
  rw [h e he] at htarget
  exact hc (Option.some.inj htarget).symm

/-- Joining makes connections of its own, and receives nothing. -/
theorem Session.Joining.selfContained {route : Route} {address : Address} {timeout : Int}
    {session after : Session} {r : Except Failure ConnectionId}
    (h : Joining route address timeout session es r after) :
    SelfContained es ∧ Outward es ∧ es ≠ [] := by
  obtain ⟨unmade, -⟩ | ⟨c, made, -⟩ := h.made
  · exact ⟨unmade.selfContained, unmade.outward, unmade.ne_nil⟩
  · obtain ⟨e, later, rfl, -⟩ := made.opening
    exact ⟨made.selfContained, made.outward, List.cons_ne_nil _ _⟩

namespace Link

variable {link after : Link}

/-- A command on the control connection of a stream that is in step. -/
theorem Sound.exchange (sound : link.Sound trace) (orderly : Orderly trace)
    (usable : link.outOfStep = none) {command : Command}
    (hcommand : command = .stat ∨
      ∃ offset : Nat, command = .transfer link.session.direction offset)
    {r : Except Failure Bytes} (exchange : Wire.Exchanged link.control command.line es r) :
    ∃ x : Exchange, x.Records command.line r ∧
      dialogue link.control (trace ++ es) = x :: dialogue link.control trace ∧
      SelfContained (trace ++ es) ∧ (x.admitted? = none → Settled (trace ++ es)) ∧
      ∀ outOfStep, (outOfStep = none ↔ ¬x.Misled) → (x.transfer? = none ∨ link.data = none) →
        Link.Sound { link with outOfStep } (trace ++ es) := by
  obtain ⟨xs, conversing⟩ := sound.conversing
  rw [usable] at conversing
  obtain ⟨x, records, hdialogue, keeps⟩ := conversing.exchange hcommand exchange
  refine ⟨x, records, hdialogue,
    orderly.contained.append_of_target sound.mem_opened exchange.target?, fun hx k => ?_, ?_⟩
  · by_cases hk : k = link.control
    · subst hk
      refine admission?_eq_none_of_head ?_
      rw [hdialogue]
      exact hx
    · exact (untouched_of_target exchange.target? hk).admission?_append
        (exchange.ne_nil command.line_ne_nil) trace
  · intro outOfStep hmisled hdata
    refine sound.append rfl rfl ⟨x :: xs, keeps outOfStep hmisled⟩ fun c hc => ?_
    have hx := hdata.resolve_right fun without => by rw [without] at hc; cases hc
    obtain ⟨offset, carries⟩ := sound.carries c hc
    have untouched := untouched_of_target exchange.target? (sound.control_ne carries)
    have one : dialogue link.control (trace ++ es) = [x] ++ dialogue link.control trace :=
      hdialogue
    refine ⟨offset, carries.rest untouched one ?_ ?_⟩
    · intro y hy
      rw [List.mem_singleton.1 hy, hx]
    · rw [exchange.opened_eq_nil]
      exact fun _ h => absurd h List.not_mem_nil

theorem Stating.sound {r : Except Failure Int} (h : Stating link es r after)
    (orderly : Orderly trace) (sound : link.Sound trace) :
    Orderly (trace ++ es) ∧ after.Sound (trace ++ es) := by
  cases h with
  | unusable =>
    rw [List.append_nil]
    exact ⟨orderly, sound⟩
  | @exchanged _ heard usable exchange =>
    obtain ⟨x, records, -, contained, settled, keeps⟩ :=
      sound.exchange orderly usable (.inl rfl) exchange
    have hx := Exchange.transfer?_stat records.line_eq
    obtain ⟨outOfStep, hafter, hstep⟩ := afterExchange_eq link heard
    rw [hafter]
    refine ⟨⟨contained, settled (Exchange.admitted?_of_transfer? hx)⟩,
      keeps outOfStep ((hstep usable).trans ?_) (.inl hx)⟩
    cases heard with
    | ok reply =>
      refine ⟨fun _ => records.not_misled_of_ok ?_, fun _ _ => nofun⟩
      rw [hx, Exchange.admitted?_of_transfer? hx]
    | error e => simp only [records.not_misled_of_error, ne_eq, Except.error.injEq]

-- ════════════════════════════════════════════════════════════════════════
-- New data connections
-- ════════════════════════════════════════════════════════════════════════

/-- What others do on connections of their own changes nothing for a stream without a data
connection. -/
theorem Sound.beside (sound : link.Sound trace) (without : link.data = none)
    (contained : SelfContained es) (nodup : (opened (trace ++ es)).Nodup) :
    link.Sound (trace ++ es) := by
  refine sound.frame nodup (.inl without) fun c hc => ?_
  exact contained.untouched_old nodup (sound.connections_subset hc)

/-- The data connection that is made when a transfer has just been admitted. -/
theorem Sound.carries_made (sound : link.Sound trace) (orderly : SelfContained trace)
    {session : Session} {offset : Nat}
    (admitted : admission? link.control trace = some (link.session.direction, offset))
    {x : Exchange} {older : List Exchange} (hdialogue : dialogue link.control trace = x :: older)
    (hline : x.line = (Command.transfer link.session.direction offset).line)
    (made : Made c es) (bound : Session.Bound link.session c es (.ok c) session)
    (nodup : (opened (trace ++ es)).Nodup) :
    session = link.session ∧ Carries link.control c link.session offset offset (trace ++ es) := by
  obtain ⟨id, hid⟩ := Option.isSome_iff_exists.1 sound.assigned
  cases bound with
  | bound introduced line conversation =>
    obtain ⟨rfl, hsession⟩ := introduced.of_id_eq_some hid
    have hmem : c ∈ opened es := by
      rw [made.opened_eq]
      exact List.mem_singleton.2 rfl
    have new := not_mem_opened_of_nodup nodup hmem
    have fresh : Untouched c trace := orderly.untouched new
    have control : Untouched link.control es :=
      made.selfContained.untouched_old nodup sound.mem_opened
    have haccepted : accepted c (trace ++ es) = (Command.runSession id).line := by
      rw [accepted_append, fresh.accepted_eq_nil, List.nil_append, line]
    have hreceived : received c (trace ++ es) = [] := by
      rw [received_append, fresh.received_eq_nil, made.outward.received_eq_nil, List.append_nil]
    have hpayload : payload c (trace ++ es) = [] := by
      have behind := behindLine_line (.runSession id) []
      rwa [List.append_nil, ← haccepted] at behind
    obtain ⟨e, later, rfl, he⟩ := made.opening
    refine ⟨hsession, ?_, ⟨[], x, older, ?_, nofun, ?_, hline⟩, ⟨id, hid, ?_⟩, ?_, ?_,
      ⟨opened trace, [], ?_, ?_⟩⟩
    · rw [transferOn_opening new he, admitted]
    · rw [control.dialogue_append, hdialogue, List.nil_append]
    · rw [beforeOpening_append_right new, beforeOpening_cons he, List.append_nil, hdialogue]
    · rw [haccepted, hpayload, List.append_nil]
    · rw [hreceived, hpayload]
      rfl
    · rw [hreceived, hpayload]
      cases link.session.direction <;> rfl
    · rw [opened_append, made.opened_eq]
    · exact fun _ h => absurd h List.not_mem_nil

/-- An announcement that was admitted: the next call makes a connection for the transfer. -/
theorem Sound.admission (sound : link.Sound trace) (orderly : Orderly trace)
    (usable : link.outOfStep = none) (without : link.data = none) {reply : Bytes}
    (exchange : Wire.Exchanged link.control link.announcement.line es (.ok reply))
    (admitted : asciiText reply = Reply.admission) :
    ∃ x : Exchange, (dialogue link.control (trace ++ es) = x :: dialogue link.control trace ∧
        x.line = link.announcement.line) ∧ SelfContained (trace ++ es) ∧
      link.Sound (trace ++ es) ∧
      admission? link.control (trace ++ es) = some (link.session.direction, link.position) := by
  obtain ⟨x, records, hdialogue, contained, -, keeps⟩ :=
    sound.exchange orderly usable (.inr ⟨_, rfl⟩) exchange
  have announced := Exchange.transfer?_transfer records.line_eq
  have calm := records.not_misled_of_ok (records.admitted? admitted)
  have mid := keeps none ⟨fun _ => calm, fun _ => rfl⟩ (.inr without)
  rw [← usable] at mid
  refine ⟨x, ⟨hdialogue, records.line_eq⟩, contained, mid, ?_⟩
  unfold admission?
  rw [List.getLast?_append, exchange.getLast?, hdialogue]
  exact (if_pos rfl).trans ((records.admitted? admitted).trans announced)

/-- The data connection that was got hold of where there was none is new, and was made for a
transfer at the position. -/
theorem Connecting.carries (h : Connecting link es (.ok c) after) (without : link.data = none)
    (usable : link.outOfStep = none) (orderly : Orderly trace) (sound : link.Sound trace)
    (nodup : (opened (trace ++ es)).Nodup) :
    after = { link with data := some c } ∧ c ∈ opened es ∧ Orderly (trace ++ es) ∧
      link.Sound (trace ++ es) ∧
      Carries link.control c link.session link.position link.position (trace ++ es) := by
  cases h with
  | kept has =>
    rw [without] at has
    cases has
  | @joined es fs line _ session _ exchange admitted join =>
    obtain ⟨x, ⟨hdialogue, hline⟩, contained, mid, admission⟩ :=
      sound.admission orderly usable without exchange admitted
    rw [← List.append_assoc] at nodup ⊢
    obtain ⟨joinContained, outward, nonempty⟩ := join.selfContained
    obtain ⟨-, e, he⟩ | ⟨c', made, bound⟩ := join.made
    · cases he
    · cases bound with
      | bound introduced line conversation =>
        obtain ⟨rfl, carries⟩ := mid.carries_made contained admission hdialogue hline made
          (.bound introduced line conversation) nodup
        refine ⟨rfl, ?_, ⟨contained.append joinContained, outward.settled nonempty _⟩,
          mid.beside without joinContained nodup, carries⟩
        rw [opened_append, made.opened_eq]
        exact List.mem_append_right _ (List.mem_singleton.2 rfl)

theorem Connecting.sound {r : Except Failure ConnectionId} (h : Connecting link es r after)
    (usable : link.outOfStep = none) (orderly : Orderly trace) (sound : link.Sound trace)
    (nodup : (opened (trace ++ es)).Nodup) :
    Orderly (trace ++ es) ∧ after.Sound (trace ++ es) := by
  have announces : link.announcement = .stat ∨
      ∃ offset : Nat, link.announcement = .transfer link.session.direction offset :=
    .inr ⟨_, rfl⟩
  cases h with
  | kept =>
    rw [List.append_nil]
    exact ⟨orderly, sound⟩
  | unwritable =>
    rw [List.append_nil]
    exact ⟨orderly, sound⟩
  | @unheard _ e without exchange =>
    obtain ⟨x, records, -, contained, settled, keeps⟩ :=
      sound.exchange orderly usable announces exchange
    obtain ⟨outOfStep, hafter, hstep⟩ := afterExchange_eq link (.error e)
    rw [hafter]
    refine ⟨⟨contained, settled records.admitted?_of_error⟩,
      keeps outOfStep ((hstep usable).trans ?_) (.inr without)⟩
    simp only [records.not_misled_of_error, ne_eq, Except.error.injEq]
  | rejected without exchange other =>
    obtain ⟨x, records, -, contained, settled, keeps⟩ :=
      sound.exchange orderly usable announces exchange
    have announced : x.transfer? ≠ none := by
      rw [Exchange.transfer?_transfer records.line_eq]
      exact nofun
    have misled := records.misled_of_rejected announced other
    exact ⟨⟨contained, settled (records.admitted?_of_rejected other)⟩,
      keeps _ ⟨nofun, fun calm => absurd misled calm⟩ (.inr without)⟩
  | @unjoined es fs line e session without exchange admitted join =>
    obtain ⟨-, -, contained, mid, -⟩ := sound.admission orderly usable without exchange admitted
    rw [← List.append_assoc] at nodup ⊢
    obtain ⟨joinContained, outward, nonempty⟩ := join.selfContained
    rw [join.eq_of_assigned sound.assigned]
    exact ⟨⟨contained.append joinContained, outward.settled nonempty _⟩,
      mid.beside without joinContained nodup⟩
  | joined without exchange admitted join =>
    have joined := Connecting.joined without exchange admitted join
    obtain ⟨same, -, orderly, beside, carries⟩ :=
      joined.carries without usable orderly sound nodup
    rw [same]
    refine ⟨orderly, beside.mem_opened, beside.unannounced, beside.assigned, beside.conversing, ?_⟩
    rintro c ⟨⟩
    exact ⟨_, carries⟩

-- ════════════════════════════════════════════════════════════════════════
-- Payload and moves
-- ════════════════════════════════════════════════════════════════════════

/-- A call on the data connection that moves payload in the direction of the stream. -/
theorem Sound.transfer (sound : link.Sound trace) (orderly : Orderly trace)
    (has : link.data = some c) {e : Event} (target : e.target? = some c)
    (unopened : e.opened? = none) (payload : ∀ c limit result, e ≠ .receive c limit result)
    (hway : match link.session.direction with
      | .read => e.accepted c = []
      | .write => e.received c = []) :
    Orderly (trace ++ [e]) ∧
      Link.Sound { link with
        position := link.position + (e.received c).length + (e.accepted c).length }
        (trace ++ [e]) := by
  obtain ⟨offset, carries⟩ := sound.carries c has
  have on : ∀ e' ∈ [e], e'.target? = some c := fun e' he => List.mem_singleton.1 he ▸ target
  have none : opened [e] = [] := by
    rw [opened_cons, unopened]
    rfl
  have hreceived : received c [e] = e.received c := List.flatMap_singleton ..
  have haccepted : accepted c [e] = e.accepted c := List.flatMap_singleton ..
  have control : Untouched link.control [e] :=
    untouched_of_target on (sound.control_ne carries).symm
  have same : dialogue link.control (trace ++ [e]) = [] ++ dialogue link.control trace :=
    control.dialogue_append trace
  have later := carries.extend same nofun
    (by rw [none]; exact fun _ h => absurd h List.not_mem_nil) (by rwa [hreceived, haccepted])
  rw [hreceived, haccepted] at later
  refine ⟨⟨orderly.contained.append_of_target carries.mem_opened on, settled_concat payload _⟩,
    sound.append rfl rfl ?_ fun c' hc' => ?_⟩
  · obtain ⟨xs, conversing⟩ := sound.conversing
    exact ⟨xs, conversing.frame control⟩
  · obtain rfl : c = c' := Option.some.inj (has.symm.trans hc')
    exact ⟨offset, later⟩

/-- Giving the data connection up. -/
theorem Sound.dropData (sound : link.Sound trace) (orderly : Orderly trace)
    (has : link.data = some c) (result : Option Unit) (position : Nat) :
    Orderly (trace ++ [.close c result]) ∧
      Link.Sound { link with position, data := none } (trace ++ [.close c result]) := by
  obtain ⟨offset, carries⟩ := sound.carries c has
  have on : ∀ e ∈ [Event.close c result], e.target? = some c :=
    fun e he => List.mem_singleton.1 he ▸ rfl
  have closes : ∀ c' limit heard, Event.close c result ≠ .receive c' limit heard := nofun
  refine ⟨⟨orderly.contained.append_of_target carries.mem_opened on, settled_concat closes _⟩,
    sound.append rfl rfl ?_ nofun⟩
  obtain ⟨xs, conversing⟩ := sound.conversing
  exact ⟨xs, conversing.frame (untouched_of_target on (sound.control_ne carries).symm)⟩

theorem Moving.sound {target : Int} {r : Except Failure Nat} (h : Moving target link es r after)
    (orderly : Orderly trace) (sound : link.Sound trace) :
    Orderly (trace ++ es) ∧ after.Sound (trace ++ es) := by
  cases h with
  | negative =>
    rw [List.append_nil]
    exact ⟨orderly, sound⟩
  | stayed =>
    rw [List.append_nil]
    exact ⟨orderly, sound⟩
  | moved _ _ without =>
    rw [List.append_nil]
    refine ⟨orderly, sound.mem_opened, sound.unannounced, sound.assigned, sound.conversing, ?_⟩
    intro c hc
    rw [without] at hc
    cases hc
  | dropped _ _ has => exact sound.dropData orderly has _ _
  | unclosed _ _ _ has => exact sound.dropData orderly has _ _

/-- **Step lemma**: each of the smallest steps keeps the record in order, and the stream fitting
to it. -/
theorem Move.sound {ps : List Placed} (h : Move link es ps after) (orderly : Orderly trace)
    (sound : link.Sound trace) (nodup : (opened (trace ++ es)).Nodup) :
    Orderly (trace ++ es) ∧ after.Sound (trace ++ es) := by
  cases h with
  | stating stat => exact stat.sound orderly sound
  | connecting usable connect => exact connect.sound usable orderly sound nodup
  | @receiving c limit result reads has =>
    have hreceived : Event.received c (.receiveInto c limit result) = result.getD [] := by
      cases result <;> simp [Event.received]
    have later := sound.transfer orderly has (e := .receiveInto c limit result) rfl rfl
      (by simp) (by rw [reads]; rfl)
    rwa [hreceived] at later
  | @sending c data result writes has fits =>
    have haccepted : (Event.accepted c (.send c data result)).length = result.getD 0 := by
      cases result with
      | none => rfl
      | some count =>
        simp only [Event.accepted, if_true, List.length_take]
        exact Nat.min_eq_left fits
    have later := sound.transfer orderly has (e := .send c data result) rfl rfl
      (by simp) (by rw [writes]; rfl)
    rwa [haccepted] at later
  | moving move => exact move.sound orderly sound

/-- **Run lemma**: so does any number of them. -/
theorem Moves.sound {ps : List Placed} (h : Moves link es ps after) (orderly : Orderly trace)
    (sound : link.Sound trace) (nodup : (opened (trace ++ es)).Nodup) :
    Orderly (trace ++ es) ∧ after.Sound (trace ++ es) := by
  induction h generalizing trace with
  | refl =>
    rw [List.append_nil]
    exact ⟨orderly, sound⟩
  | @step link mid after es fs ps qs move _ ih =>
    rw [← List.append_assoc] at nodup ⊢
    obtain ⟨orderly, sound⟩ := move.sound orderly sound (nodup_opened_left nodup)
    exact ih orderly sound nodup

end Link

end SessionStream
