import SessionStream.Proofs.Copying
import SessionStream.Proofs.FailedOperations
import SessionStream.Proofs.Outcomes

/-!
# Seeks

A seek counts from the start, from the position, or from the end that the server reports, or it asks
for the size and moves nothing. All of them come down to two things, the query for the size and the
move to a position, and differ from each other in nothing but what they write to the log.

## Main definitions

- `Host.unlogged`, `World.unlogged` — a state without its log
- `Act.effect`, `World.effect` — what an action or a step does, but for the log
- `ByteStream.Wanders` — what any number of seeks can do
- `Link.Transfers` — the calls of an operation that moves payload
- `World.OriginsAgree` — how the origins of a seek agree on a stream

## Main results

- `Link.outcome_moveTo` — a move, worked out
- `Link.effect_seek_current`, `Link.effect_seek_finish` — one origin in terms of another
- `Link.Seeking.wanders`, `World.wanders_after` — one seek, and any number of them
- `World.transfer_announces` — what a transfer says on the control connection
- `World.origins_agree` — the origins of a seek agree with each other
-/

namespace SessionStream

variable {c : ConnectionId} {es fs trace : List Event}

/-- A host without its log. -/
def Host.unlogged (host : Host) : Host :=
  { host with log := [] }

/-- What is held, without the log. -/
def Held.unlogged {σ : Type} (held : Held σ) : Held σ :=
  { held with host := held.host.unlogged }

/-- What an action gives and leaves behind, but for the log. -/
def Act.effect {σ α : Type} (act : Act (Held σ) α) (held : Held σ) : Except Failure α × Held σ :=
  ((Act.outcome act held).1, (Act.outcome act held).2.unlogged)

@[simp] theorem Host.unlogged_logged (host : Host) (entry : Log.Entry) :
    (host.logged entry).unlogged = host.unlogged := rfl

namespace Link

variable {link after : Link} {host host' : Host}

/-- The host after the close of a connection. -/
def closedHost (c : ConnectionId) (result : Option Unit) (host : Host) : Host :=
  let host := host.logged ⟨.debug, .stream, s!"Close {c.descriptor}"⟩
  { host with
    network := host.network.called c (host.network.peer c) [.close c result] }

/-- The data connection is given up, and is gone even if its close fails. -/
theorem outcome_releaseData (has : link.data = some c) :
    Act.outcome releaseData ⟨link, host⟩ = match (host.network.peer c).closeFault with
      | none => (.ok (), ⟨{ link with data := none }, closedHost c (some ()) host⟩)
      | some f => (.error (.fault f), ⟨{ link with data := none }, closedHost c none host⟩) := by
  have closed (net : Network) : Act.outcome (Network.close c) net =
      match (net.peer c).closeFault with
      | none => (.ok (), net.called c (net.peer c) [.close c (some ())])
      | some f => (.error (.fault f), net.called c (net.peer c) [.close c none]) := by
    unfold Act.outcome Network.close Network.call Peer.comply
    cases (net.peer c).closeFault <;> rfl
  unfold releaseData
  rw [Act.outcome_get_bind]
  dsimp only
  rw [has]
  change Act.outcome (note .debug s!"Close {c.descriptor}" >>= fun _ =>
    (liftM (Network.close c) : Act (Held Link) Unit)) ⟨{ link with data := none }, host⟩ = _
  rw [outcome_note_bind, Act.outcome_onHeldNetwork, closed]
  dsimp only [Held.logged, Host.logged, closedHost]
  cases (host.network.peer c).closeFault <;> rfl

/-- How a move ends, and what it leaves behind. -/
def moveOutcome (target : Int) (link : Link) (host : Host) : Except Failure Nat × Held Link :=
  if target < 0 then (.error (.quoting target (.negativePosition target)), ⟨link, host⟩)
  else if target.toNat = link.position then (.ok target.toNat, ⟨link, host⟩)
  else match link.data with
    | none => (.ok target.toNat, ⟨{ link with position := target.toNat }, host⟩)
    | some c => match (host.network.peer c).closeFault with
      | none => (.ok target.toNat,
          ⟨{ link with position := target.toNat, data := none }, closedHost c (some ()) host⟩)
      | some f => (.error (.fault f), ⟨{ link with data := none }, closedHost c none host⟩)

/-- **A move, worked out.** -/
theorem outcome_moveTo (target : Int) (link : Link) (host : Host) :
    Act.outcome (moveTo target) ⟨link, host⟩ = moveOutcome target link host := by
  unfold moveTo moveOutcome
  by_cases below : target < 0
  · rw [if_pos below, if_pos below]
    rfl
  · rw [if_neg below, if_neg below]
    dsimp only
    rw [Act.outcome_get_bind]
    dsimp only
    by_cases here : target.toNat = link.position
    · rw [if_pos here, if_neg (not_not_intro here), here]
      rfl
    · rw [if_neg here, if_pos here, Act.outcome_bind]
      cases has : link.data with
      | none =>
        have idle : Act.outcome releaseData ⟨link, host⟩ = (.ok (), ⟨link, host⟩) := by
          unfold releaseData
          rw [Act.outcome_get_bind]
          dsimp only
          rw [has]
          rfl
        rw [idle]
        change (_, (⟨{ link with position := target.toNat }, host⟩ : Held Link)) = _
        rw [has]
      | some c =>
        rw [outcome_releaseData has]
        dsimp only
        cases (host.network.peer c).closeFault <;> rfl

/-- A move takes no notice of the log. -/
theorem moveOutcome_unlogged (target : Int) (link : Link) (same : host.unlogged = host'.unlogged) :
    (moveOutcome target link host).1 = (moveOutcome target link host').1 ∧
      (moveOutcome target link host).2.unlogged = (moveOutcome target link host').2.unlogged := by
  obtain ⟨network, givenIds, sharedIds, log⟩ := host
  obtain ⟨network', givenIds', sharedIds', log'⟩ := host'
  cases same
  unfold moveOutcome
  dsimp only
  split
  · exact ⟨rfl, rfl⟩
  · split
    · exact ⟨rfl, rfl⟩
    · split
      · exact ⟨rfl, rfl⟩
      · split <;> exact ⟨rfl, rfl⟩

-- ════════════════════════════════════════════════════════════════════════
-- One origin in terms of another
-- ════════════════════════════════════════════════════════════════════════

variable {offset size : Int} {e : Failure}

/-- A move that is written to the log before. -/
theorem outcome_note_moveTo (message : String) (target : Int) (link : Link) (host : Host) :
    Act.outcome (do note .info message; Int.ofNat <$> moveTo target) ⟨link, host⟩ =
      (Int.ofNat <$> (moveOutcome target link (host.logged ⟨.info, .stream, message⟩)).1,
        (moveOutcome target link (host.logged ⟨.info, .stream, message⟩)).2) := by
  rw [outcome_note_bind, map_eq_pure_bind, Act.outcome_bind]
  rw [show Held.logged _ _ = (⟨link, host.logged _⟩ : Held Link) from rfl, outcome_moveTo]
  rcases moveOutcome target link _ with ⟨e | position, after⟩ <;> rfl

/-- A seek from the start, worked out. -/
theorem outcome_seek_target (offset : Int) (link : Link) (host : Host)
    (usable : link.outOfStep = none) :
    Act.outcome (seek offset Origin.start.code) ⟨link, host⟩ =
      let logged := host.logged ⟨.info, .stream, s!"SEEK_SET {link.position} {offset}"⟩
      (Int.ofNat <$> (moveOutcome offset link logged).1, (moveOutcome offset link logged).2) := by
  unfold seek
  rw [outcome_requireUsable_bind usable, Act.outcome_get_bind]
  dsimp only
  rw [show Origin.ofCode? Origin.start.code = some .start from rfl]
  dsimp only
  rw [outcome_note_moveTo]

/-- A seek from the start is a move. -/
theorem effect_seek_start (offset : Int) (link : Link) (host : Host)
    (usable : link.outOfStep = none) :
    Act.effect (seek offset Origin.start.code) ⟨link, host⟩ =
      (Int.ofNat <$> (moveOutcome offset link host).1,
        (moveOutcome offset link host).2.unlogged) := by
  unfold Act.effect
  rw [outcome_seek_target _ _ _ usable]
  obtain ⟨result, left⟩ := moveOutcome_unlogged offset link (Host.unlogged_logged host
    ⟨.info, .stream, s!"SEEK_SET {link.position} {offset}"⟩)
  dsimp only
  rw [result, left]

/-- A seek from the position is a move by the offset. -/
theorem effect_seek_current (offset : Int) (link : Link) (host : Host) :
    Act.effect (seek offset Origin.current.code) ⟨link, host⟩ =
      Act.effect (seek (link.position + offset) Origin.start.code) ⟨link, host⟩ := by
  cases usable : link.outOfStep with
  | some cause =>
    unfold Act.effect seek requireUsable
    simp only [bind_assoc, Act.outcome_get_bind, usable]
    rfl
  | none =>
    rw [effect_seek_start _ _ _ usable]
    unfold Act.effect seek
    rw [outcome_requireUsable_bind usable, Act.outcome_get_bind]
    dsimp only
    rw [show Origin.ofCode? Origin.current.code = some .current from rfl]
    dsimp only
    rw [outcome_note_moveTo]
    obtain ⟨result, left⟩ := moveOutcome_unlogged (link.position + offset) link
      (Host.unlogged_logged host ⟨.info, .stream, s!"SEEK_CUR {link.position} {offset}"⟩)
    rw [result, left]

/-- To ask a seek for the size is to ask for the size. -/
theorem outcome_seek_size (offset : Int) (link : Link) (host : Host) :
    Act.outcome (seek offset Origin.size.code) ⟨link, host⟩ = Act.outcome stat ⟨link, host⟩ := by
  cases usable : link.outOfStep with
  | some cause =>
    unfold seek stat requireUsable
    simp only [bind_assoc, Act.outcome_get_bind, usable]
    rfl
  | none =>
    unfold seek
    rw [outcome_requireUsable_bind usable, Act.outcome_get_bind]
    rfl

/-- The size is told by a link in step only, which stays so. -/
theorem Stating.usable_of_ok (h : Stating link es (.ok size) after) :
    link.outOfStep = none ∧ after = link := by
  generalize hr : (Except.ok size : Except Failure Int) = r at h
  cases h with
  | unusable => cases hr
  | @exchanged _ heard usable =>
    cases heard with
    | ok line => exact ⟨usable, rfl⟩
    | error e => cases hr

/-- A seek from the end asks for the size first. -/
theorem outcome_seek_finish (offset : Int) (link : Link) (host : Host) :
    Act.outcome (seek offset Origin.finish.code) ⟨link, host⟩ =
      match Act.outcome stat ⟨link, host⟩ with
      | (.error e, after) => (.error e, after)
      | (.ok size, after) => Act.outcome (do
          note .info s!"SEEK_END {link.position} {offset} {size}"
          if size < 0 then throw (.negativeSize size)
          Int.ofNat <$> moveTo (size + offset)) after := by
  cases usable : link.outOfStep with
  | some cause =>
    unfold seek stat requireUsable
    simp only [bind_assoc, Act.outcome_get_bind, usable]
    rfl
  | none =>
    unfold seek
    rw [outcome_requireUsable_bind usable, Act.outcome_get_bind]
    dsimp only
    rw [show Origin.ofCode? Origin.finish.code = some .finish from rfl]
    dsimp only
    rw [Act.outcome_bind]
    rcases Act.outcome stat ⟨link, host⟩ with ⟨e | size, after⟩ <;> rfl

/-- A seek from the end of a size below zero moves nothing. -/
theorem effect_seek_finish_of_neg {mid : Held Link}
    (stat : Act.outcome stat ⟨link, host⟩ = (.ok size, mid)) (negative : size < 0) :
    Act.effect (seek offset Origin.finish.code) ⟨link, host⟩ =
      (.error (.negativeSize size), mid.unlogged) := by
  unfold Act.effect
  rw [outcome_seek_finish, stat]
  dsimp only
  rw [outcome_note_bind, if_pos negative]
  rfl

/-- A seek from the end is a move to the size and the offset. -/
theorem effect_seek_finish {mid : Held Link}
    (stat : Act.outcome stat ⟨link, host⟩ = (.ok size, mid)) (nonneg : 0 ≤ size) :
    Act.effect (seek offset Origin.finish.code) ⟨link, host⟩ =
      Act.effect (seek (size + offset) Origin.start.code) mid := by
  obtain ⟨es, -, stating⟩ := stat_does ⟨link, host⟩
  rw [stat] at stating
  obtain ⟨usable, same⟩ := stating.usable_of_ok
  obtain ⟨own, host'⟩ := mid
  obtain rfl : own = link := same
  rw [effect_seek_start _ _ _ usable]
  unfold Act.effect
  rw [outcome_seek_finish, stat]
  dsimp only
  have moves : Act.outcome (do
      note .info s!"SEEK_END {own.position} {offset} {size}"
      if size < 0 then throw (.negativeSize size)
      Int.ofNat <$> moveTo (size + offset)) (⟨own, host'⟩ : Held Link) = Act.outcome (do
        note .info s!"SEEK_END {own.position} {offset} {size}"
        Int.ofNat <$> moveTo (size + offset)) ⟨own, host'⟩ := by
    rw [if_neg (Int.not_lt.2 nonneg)]
  rw [moves, outcome_note_moveTo]
  obtain ⟨result, left⟩ := moveOutcome_unlogged (size + offset) own (Host.unlogged_logged host'
    ⟨.info, .stream, s!"SEEK_END {own.position} {offset} {size}"⟩)
  rw [result, left]

-- ════════════════════════════════════════════════════════════════════════
-- What seeks do to the connections
-- ════════════════════════════════════════════════════════════════════════

/-- A move that succeeds gives the data connection up exactly if it leads elsewhere. -/
theorem Moving.of_ok {target : Int} {position : Nat}
    (h : Moving target link es (.ok position) after) :
    target = position ∧ after.position = position ∧
      es = (if position = link.position then [] else
        link.data.toList.map (Event.close · (some ()))) ∧
      after.data = if position = link.position then link.data else none := by
  generalize hr : (Except.ok position : Except Failure Nat) = r at h
  cases h with
  | negative => cases hr
  | stayed same =>
    cases hr
    exact ⟨same, rfl, (if_pos rfl).symm, (if_pos rfl).symm⟩
  | moved there other without =>
    cases hr
    rw [if_neg other, if_neg other, without]
    exact ⟨there, rfl, rfl, rfl⟩
  | dropped there other has =>
    cases hr
    rw [if_neg other, if_neg other, has]
    exact ⟨there, rfl, rfl, rfl⟩
  | unclosed => cases hr

/-- A seek from the start is a move, or is refused on a link that cannot be used. -/
theorem Seeking.moving_of_start {r : Except Failure Int}
    (h : Seeking offset Origin.start.code link es r after) :
    (∃ cause, r = .error (.unusable cause) ∧ es = [] ∧ after = link) ∨
      link.outOfStep = none ∧ ∃ r', Moving offset link es r' after ∧ r = Int.ofNat <$> r' := by
  have code : Origin.ofCode? Origin.start.code = some .start := rfl
  cases h with
  | unusable => exact .inl ⟨_, rfl, rfl, rfl⟩
  | unknown _ origin => rw [code] at origin; cases origin
  | size _ origin => rw [code] at origin; cases origin
  | start usable _ move => exact .inr ⟨usable, _, move, rfl⟩
  | current _ origin => rw [code] at origin; cases origin
  | unsized _ origin => rw [code] at origin; cases origin
  | negativeSize _ origin => rw [code] at origin; cases origin
  | finish _ origin => rw [code] at origin; cases origin

/-- Asking for the size moves nothing. -/
theorem Stating.keeps {r : Except Failure Int} (h : Stating link es r after) :
    after.control = link.control ∧ after.data = link.data ∧ after.position = link.position := by
  cases h with
  | unusable => exact ⟨rfl, rfl, rfl⟩
  | @exchanged _ heard =>
    obtain ⟨outOfStep, hafter, -⟩ := afterExchange_eq link heard
    rw [hafter]
    exact ⟨rfl, rfl, rfl⟩

end Link

-- ════════════════════════════════════════════════════════════════════════
-- Any number of seeks
-- ════════════════════════════════════════════════════════════════════════

/-- What any number of seeks can do: the control connection is asked for nothing but the size, and
the data connection is kept or given up. -/
structure ByteStream.Wanders (stream : ByteStream) (trace es : List Event) (after : ByteStream) :
    Prop where
  control : after.control = stream.control
  direction : after.direction = stream.direction
  closes : SessionStream.closed es ++ after.data.toList = stream.data.toList
  asks : ∀ control, stream.control = some control → ∃ newer,
    dialogue control (trace ++ es) = newer ++ dialogue control trace ∧
      ∀ x ∈ newer, x.line = Command.stat.line

namespace ByteStream.Wanders

variable {stream mid after : ByteStream}

theorem refl (stream : ByteStream) (trace : List Event) : Wanders stream trace [] stream where
  control := rfl
  direction := rfl
  closes := rfl
  asks control _ := ⟨[], by rw [List.append_nil, List.nil_append], nofun⟩

/-- **Step after step**: what was given up is gone. -/
theorem trans (h : Wanders stream trace es mid) (h' : Wanders mid (trace ++ es) fs after) :
    Wanders stream trace (es ++ fs) after where
  control := h'.control.trans h.control
  direction := h'.direction.trans h.direction
  closes := by rw [closed_append, List.append_assoc, h'.closes, h.closes]
  asks control has := by
    obtain ⟨newer, earlier, stats⟩ := h.asks control has
    obtain ⟨newest, later, stats'⟩ := h'.asks control (h.control.trans has)
    refine ⟨newest ++ newer, ?_, fun x hx => (List.mem_append.1 hx).elim (stats' x) (stats x)⟩
    rw [← List.append_assoc, later, earlier, List.append_assoc]

/-- One connection is given up at most. -/
theorem length_closed_le (h : Wanders stream trace es after) :
    (SessionStream.closed es).length ≤ 1 := by
  have lengths := congrArg List.length h.closes
  rw [List.length_append] at lengths
  have one : stream.data.toList.length ≤ 1 := by cases stream.data <;> simp
  omega

end ByteStream.Wanders

namespace Link

variable {link after : Link}

theorem Stating.wanders {r : Except Failure Int} (h : Stating link es r after)
    (orderly : Orderly trace) (sound : link.Sound trace) :
    ByteStream.Wanders (.opened link) trace es (.opened after) := by
  obtain ⟨control, data, -⟩ := h.keeps
  have session := h.session_eq
  cases h with
  | unusable => exact .refl _ _
  | exchanged usable exchange =>
    refine ⟨congrArg some control, congrArg Session.direction session, ?_, ?_⟩
    · rw [exchange.closed_eq_nil, List.nil_append]
      exact congrArg Option.toList data
    · rintro _ ⟨⟩
      obtain ⟨x, records, asked, -⟩ := sound.exchange orderly usable (.inl rfl) exchange
      exact ⟨[x], asked, fun y hy => List.mem_singleton.1 hy ▸ records.line_eq⟩

theorem Moving.wanders {target : Int} {r : Except Failure Nat} (h : Moving target link es r after)
    (trace : List Event) : ByteStream.Wanders (.opened link) trace es (.opened after) := by
  have silent {result : Option Unit} (c control : ConnectionId) : ∃ newer,
      dialogue control (trace ++ [.close c result]) = newer ++ dialogue control trace ∧
        ∀ x ∈ newer, x.line = Command.stat.line :=
    ⟨[], by rw [dialogue_append]; rfl, nofun⟩
  cases h with
  | negative => exact .refl _ _
  | stayed => exact .refl _ _
  | moved =>
    exact ⟨rfl, rfl, rfl, fun control _ => ⟨[], by rw [List.append_nil, List.nil_append], nofun⟩⟩
  | dropped _ _ has =>
    exact ⟨rfl, rfl, congrArg Option.toList has.symm, fun control _ => silent _ control⟩
  | unclosed _ _ _ has =>
    exact ⟨rfl, rfl, congrArg Option.toList has.symm, fun control _ => silent _ control⟩

/-- **Step lemma**: one seek. -/
theorem Seeking.wanders {offset code : Int} {r : Except Failure Int}
    (h : Seeking offset code link es r after) (orderly : Orderly trace) (sound : link.Sound trace) :
    ByteStream.Wanders (.opened link) trace es (.opened after) := by
  cases h with
  | unusable => exact .refl _ _
  | unknown => exact .refl _ _
  | size _ _ stat => exact stat.wanders orderly sound
  | start _ _ move => exact move.wanders trace
  | current _ _ move => exact move.wanders trace
  | unsized _ _ stat => exact stat.wanders orderly sound
  | negativeSize _ _ stat => exact stat.wanders orderly sound
  | finish _ _ stat _ move => exact (stat.wanders orderly sound).trans (move.wanders _)

-- ════════════════════════════════════════════════════════════════════════
-- The next transfer
-- ════════════════════════════════════════════════════════════════════════

/-- The calls of an operation that moves payload: getting hold of the data connection, and then one
call on it. -/
inductive Transfers (link : Link) : List Event → Prop
  | refused : Transfers link []
  | unconnected {es : List Event} {e : Failure} {after : Link} (usable : link.outOfStep = none)
      (connect : Connecting link es (.error e) after) : Transfers link es
  | called {es : List Event} {c : ConnectionId} {after : Link} {event : Event}
      (usable : link.outOfStep = none) (connect : Connecting link es (.ok c) after)
      (target : event.target? = some c) : Transfers link (es ++ [event])

theorem Receiving.transfers {limit : Nat} {r : Except Failure Bytes}
    (h : Receiving limit link es r after) : Transfers link es := by
  cases h with
  | unusable => exact .refused
  | misdirected => exact .refused
  | unconnected usable _ connect => exact .unconnected usable connect
  | failed _ usable _ connect => exact .called usable connect rfl
  | ended usable _ connect => exact .called usable connect rfl
  | received usable _ connect => exact .called usable connect rfl

theorem Writing.transfers {data : Bytes} {r : Except Failure Nat}
    (h : Writing data link es r after) : Transfers link es := by
  cases h with
  | unusable => exact .refused
  | misdirected => exact .refused
  | unconnected usable _ connect => exact .unconnected usable connect
  | failed _ usable _ connect => exact .called usable connect rfl
  | sent usable _ connect => exact .called usable connect rfl

/-- Getting hold of the data connection says one thing at most, and nothing where there is one. -/
theorem Connecting.announces {r : Except Failure ConnectionId} (h : Connecting link es r after)
    (usable : link.outOfStep = none) (orderly : Orderly trace) (sound : link.Sound trace)
    (nodup : (opened (trace ++ es)).Nodup) : ∃ newer,
      dialogue link.control (trace ++ es) = newer ++ dialogue link.control trace ∧
      (newer = [] ∨ link.data = none ∧ ∃ x, newer = [x] ∧ x.line = link.announcement.line) := by
  -- What is said before a connection is made is the announcement.
  have said {es : List Event} {heard : Except Failure Bytes} (without : link.data = none)
      (exchange : Wire.Exchanged link.control link.announcement.line es heard) : ∃ newer,
        dialogue link.control (trace ++ es) = newer ++ dialogue link.control trace ∧
        (newer = [] ∨ link.data = none ∧ ∃ x, newer = [x] ∧ x.line = link.announcement.line) := by
    obtain ⟨x, records, dialogue, -⟩ := sound.exchange orderly usable (.inr ⟨_, rfl⟩) exchange
    exact ⟨[x], dialogue, .inr ⟨without, x, rfl, records.line_eq⟩⟩
  -- The connection that is made is another one.
  have joined {es fs : List Event} {line : Bytes} {r : Except Failure ConnectionId}
      {session : Session} (without : link.data = none)
      (exchange : Wire.Exchanged link.control link.announcement.line es (.ok line))
      (join : Session.Joining link.settings.route link.address link.settings.timeout.effective
        link.session fs r session) (nodup : (opened (trace ++ (es ++ fs))).Nodup) : ∃ newer,
        dialogue link.control (trace ++ (es ++ fs)) = newer ++ dialogue link.control trace ∧
        (newer = [] ∨ link.data = none ∧ ∃ x, newer = [x] ∧ x.line = link.announcement.line) := by
    obtain ⟨newer, dialogue, announced⟩ := said without exchange
    rw [← List.append_assoc] at nodup
    have apart := join.selfContained.1.untouched_old nodup (mem_opened_append sound.mem_opened es)
    exact ⟨newer, by rw [← List.append_assoc, apart.dialogue_append, dialogue], announced⟩
  cases h with
  | kept => exact ⟨[], by rw [List.append_nil, List.nil_append], .inl rfl⟩
  | unwritable => exact ⟨[], by rw [List.append_nil, List.nil_append], .inl rfl⟩
  | unheard without exchange => exact said without exchange
  | rejected without exchange => exact said without exchange
  | unjoined without exchange _ join => exact joined without exchange join nodup
  | joined without exchange _ join => exact joined without exchange join nodup

/-- So does the whole operation. -/
theorem Transfers.announces (h : Transfers link es) (orderly : Orderly trace)
    (sound : link.Sound trace) (nodup : (opened (trace ++ es)).Nodup) : ∃ newer,
      dialogue link.control (trace ++ es) = newer ++ dialogue link.control trace ∧
      (newer = [] ∨ link.data = none ∧ ∃ x, newer = [x] ∧ x.line = link.announcement.line) := by
  cases h with
  | refused => exact ⟨[], by rw [List.append_nil, List.nil_append], .inl rfl⟩
  | unconnected usable connect => exact connect.announces usable orderly sound nodup
  | @called es c after event usable connect target =>
    rw [← List.append_assoc] at nodup ⊢
    have nodup := nodup_opened_left nodup
    obtain ⟨newer, dialogue, announced⟩ := connect.announces usable orderly sound nodup
    obtain ⟨-, sound'⟩ := connect.sound usable orderly sound nodup
    obtain ⟨offset, carries⟩ := sound'.carries c connect.data_eq
    have control : after.control = link.control := (Move.connecting usable connect).keeps.1
    have apart : Untouched link.control [event] := by
      intro e he same
      rw [List.mem_singleton.1 he, target] at same
      exact sound'.control_ne carries ((Option.some.inj same).trans control.symm)
    exact ⟨newer, by rw [apart.dialogue_append, dialogue], announced⟩

end Link

/-- A stream is open, with its link, or it is not. -/
theorem ByteStream.opened_or (stream : ByteStream) :
    (∃ link, stream = .opened link) ∨ stream.phase ≠ .opened := by
  cases stream with
  | opened link => exact .inl ⟨link, rfl⟩
  | unopened => exact .inr nofun
  | closed => exact .inr nofun

/-- A seek from an origin, as a step. -/
def Step.seek (number : Nat) (offset : Int) (origin : Origin) : Step :=
  .onStream number (.seek offset origin.code)

/-- Seeks of one stream, each an offset and the number of an origin. -/
def Step.seeks (number : Nat) (moves : List (Int × Int)) : List Step :=
  moves.map fun move => .onStream number (.seek move.1 move.2)

namespace World

variable {world next : World} {number : Nat} {stream : ByteStream} {n : Int} {e : Failure}

/-- A world without its log. -/
def unlogged (world : World) : World :=
  { world with host := world.host.unlogged }

/-- What a step gives and leaves behind, but for the log. -/
def effect (step : Step) (world : World) : Except Failure Answer × World :=
  ((World.step step world).1, (World.step step world).2.unlogged)

section NotOpen

variable (has : world.streams[number]? = some stream) (notOpen : stream.phase ≠ .opened)

include has notOpen

theorem step_seek_of_notOpen (offset : Int) (origin : Origin) :
    step (.seek number offset origin) world = (.error (.notOpen stream.phase), world) :=
  step_of_notOpen has (show ByteStream.Operation.NeedsOpen _ (.seek _ _) from trivial) notOpen

theorem step_stat_of_notOpen :
    step (.onStream number .stat) world = (.error (.notOpen stream.phase), world) :=
  step_of_notOpen has (show ByteStream.Operation.NeedsOpen _ .stat from trivial) notOpen

end NotOpen

section Open

variable {link : Link} (has : world.streams[number]? = some (.opened link))

include has

/-- A seek of an open stream. -/
theorem step_seek (offset : Int) (origin : Origin) :
    step (.seek number offset origin) world =
      let outcome := Act.outcome (Link.seek offset origin.code) ⟨link, world.host⟩
      (outcome.1.map .number, { world with
        streams := world.streams.set number (.opened outcome.2.own), host := outcome.2.host }) :=
  step_onOpen has rfl

/-- The query for the size of an open stream. -/
theorem step_stat :
    step (.onStream number .stat) world =
      let outcome := Act.outcome Link.stat ⟨link, world.host⟩
      (outcome.1.map .number, { world with
        streams := world.streams.set number (.opened outcome.2.own), host := outcome.2.host }) :=
  step_onOpen has rfl

/-- What a seek of an open stream does, but for the log. -/
theorem effect_seek (offset : Int) (origin : Origin) :
    effect (.seek number offset origin) world =
      let effect := Act.effect (Link.seek offset origin.code) ⟨link, world.host⟩
      (effect.1.map .number, { world with
        streams := world.streams.set number (.opened effect.2.own), host := effect.2.host }) := by
  unfold effect
  rw [step_seek has]
  rfl

end Open

/-- A stream tells its position. -/
theorem step_position (has : world.streams[number]? = some stream) :
    step (.onStream number .position) world = (.ok (.number stream.position), world) :=
  step_onStream_of_idle has rfl

/-- A seek from the position is one from the start. -/
theorem effect_current (has : world.streams[number]? = some stream) (offset : Int) :
    effect (.seek number offset .current) world =
      effect (.seek number (stream.position + offset) .start) world := by
  rcases stream.opened_or with ⟨link, rfl⟩ | notOpen
  · rw [effect_seek has, effect_seek has, Link.effect_seek_current]
    rfl
  · unfold effect
    rw [step_seek_of_notOpen has notOpen, step_seek_of_notOpen has notOpen]

/-- A seek that asks for the size is the query for it. -/
theorem step_size (has : world.streams[number]? = some stream) (offset : Int) :
    step (.seek number offset .size) world = step (.onStream number .stat) world := by
  rcases stream.opened_or with ⟨link, rfl⟩ | notOpen
  · rw [step_seek has, step_stat has, Link.outcome_seek_size]
  · rw [step_seek_of_notOpen has notOpen, step_stat_of_notOpen has notOpen]

/-- A query for the size that fails is all that there is of a seek from the end. -/
theorem effect_finish_of_error (has : world.streams[number]? = some stream)
    (unsized : step (.onStream number .stat) world = (.error e, next)) (offset : Int) :
    effect (.seek number offset .finish) world = (.error e, next.unlogged) := by
  unfold effect
  rcases stream.opened_or with ⟨link, rfl⟩ | notOpen
  · rw [step_stat has] at unsized
    rw [step_seek has, Link.outcome_seek_finish]
    rcases outcome : Act.outcome Link.stat ⟨link, world.host⟩ with ⟨f | size, after⟩
    · rw [outcome] at unsized
      cases unsized
      rfl
    · rw [outcome] at unsized
      cases unsized
  · rw [step_stat_of_notOpen has notOpen] at unsized
    rw [step_seek_of_notOpen has notOpen]
    cases unsized
    rfl

/-- A query for the size that succeeds is one on an open stream, which it leaves as it is. -/
theorem stat_of_ok (has : world.streams[number]? = some stream)
    (sized : step (.onStream number .stat) world = (.ok (.number n), next)) :
    ∃ link host, stream = .opened link ∧
      Act.outcome Link.stat ⟨link, world.host⟩ = (.ok n, ⟨link, host⟩) ∧
      next = { world with host } := by
  rcases stream.opened_or with ⟨link, rfl⟩ | notOpen
  · rw [step_stat has] at sized
    obtain ⟨es, -, stating⟩ := Link.stat_does ⟨link, world.host⟩
    rcases outcome : Act.outcome Link.stat ⟨link, world.host⟩ with ⟨f | size, own, host⟩
    · rw [outcome] at sized
      cases sized
    · rw [outcome] at sized stating
      obtain ⟨-, same⟩ := stating.usable_of_ok
      obtain rfl : own = link := same
      obtain ⟨inside, here⟩ := List.getElem?_eq_some_iff.1 has
      cases sized
      refine ⟨own, host, rfl, outcome, ?_⟩
      dsimp only
      rw [← here, List.set_getElem_self]
  · rw [step_stat_of_notOpen has notOpen] at sized
    cases sized

/-- A seek from the end of a size below zero fails. -/
theorem effect_finish_of_neg (has : world.streams[number]? = some stream)
    (sized : step (.onStream number .stat) world = (.ok (.number n), next)) (negative : n < 0)
    (offset : Int) :
    effect (.seek number offset .finish) world = (.error (.negativeSize n), next.unlogged) := by
  obtain ⟨link, host, rfl, stat, rfl⟩ := stat_of_ok has sized
  obtain ⟨inside, here⟩ := List.getElem?_eq_some_iff.1 has
  rw [effect_seek has, Link.effect_seek_finish_of_neg stat negative]
  dsimp only [Held.unlogged, unlogged]
  rw [← here, List.set_getElem_self]
  rfl

/-- A seek from the end is the query for the size and a seek from the start. -/
theorem effect_finish (has : world.streams[number]? = some stream)
    (sized : step (.onStream number .stat) world = (.ok (.number n), next)) (nonneg : 0 ≤ n)
    (offset : Int) : effect (.seek number offset .finish) world =
      effect (.seek number (n + offset) .start) next := by
  obtain ⟨link, host, rfl, stat, rfl⟩ := stat_of_ok has sized
  have has' : ({ world with host } : World).streams[number]? = some (.opened link) := has
  rw [effect_seek has, effect_seek has', Link.effect_seek_finish stat nonneg]

/-- The query for the size moves nothing. -/
theorem stat_keeps (has : world.streams[number]? = some stream) :
    ∃ after, (step (.onStream number .stat) world).2.streams[number]? = some after ∧
      after.position = stream.position ∧ after.data = stream.data := by
  obtain ⟨es, after, -, here, performs⟩ := step_performing has .stat
  refine ⟨after, here, ?_⟩
  generalize (World.step (.onStream number .stat) world).1 = r at performs
  cases performs with
  | stat stating =>
    cases stating with
    | refused => exact ⟨rfl, rfl⟩
    | done stat => exact ⟨stat.keeps.2.2, stat.keeps.2.1⟩

/-- A seek from the start that succeeds leads where it says, and gives the data connection up
exactly if that is elsewhere. -/
theorem start_moves (has : world.streams[number]? = some stream) {target : Int} {answer : Answer}
    (sought : step (.seek number target .start) world = (.ok answer, next)) :
    answer = .number target ∧ ∃ after, next.streams[number]? = some after ∧
      after.position = target ∧ if target = stream.position
        then next.trace = world.trace ∧ after.data = stream.data
        else next.trace = world.trace ++ stream.data.toList.map (Event.close · (some ())) ∧
          after.data = none := by
  obtain ⟨es, after, grows, here, performs⟩ :=
    step_performing has (.seek target Origin.start.code)
  unfold Step.seek at sought
  rw [sought] at grows here performs
  generalize hr : (Except.ok answer : Except Failure Answer) = r at performs
  cases performs with
  | seek seeking =>
    cases seeking with
    | refused => cases hr
    | @done link _ _ _ seek =>
      obtain ⟨cause, rfl, -⟩ | ⟨-, r, move, rfl⟩ := seek.moving_of_start
      · cases hr
      · cases r with
        | error => cases hr
        | ok position =>
          cases hr
          obtain ⟨rfl, place, calls, data⟩ := move.of_ok
          refine ⟨rfl, _, here, congrArg Int.ofNat place, ?_⟩
          rw [grows, calls]
          by_cases same : position = link.position
          · have same' : (position : Int) = (ByteStream.opened link).position :=
              congrArg Int.ofNat same
            rw [if_pos same] at data
            rw [if_pos same, if_pos same', List.append_nil]
            exact ⟨rfl, data⟩
          · have other : (position : Int) ≠ (ByteStream.opened link).position :=
              fun there => same (Int.ofNat.inj there)
            rw [if_neg same] at data
            rw [if_neg same, if_neg other]
            exact ⟨rfl, data⟩

/-- **Run lemma**: any number of seeks. -/
theorem wanders_after (moves : List (Int × Int)) (sound : world.Sound)
    (has : world.streams[number]? = some stream) :
    ∃ es after, (World.after (Step.seeks number moves) world).trace = world.trace ++ es ∧
      (World.after (Step.seeks number moves) world).streams[number]? = some after ∧
      stream.Wanders world.trace es after := by
  induction moves generalizing world stream with
  | nil => exact ⟨[], stream, (List.append_nil _).symm, has, .refl _ _⟩
  | cons move later ih =>
    obtain ⟨es, mid, grows, here, performs⟩ := step_performing has (.seek move.1 move.2)
    have wanders : stream.Wanders world.trace es mid := by
      generalize (World.step (.onStream number (.seek move.1 move.2)) world).1 = r at performs
      cases performs with
      | seek seeking =>
        cases seeking with
        | refused => exact .refl _ _
        | done seek => exact seek.wanders sound.orderly (sound.streams _ _ has _ rfl)
    obtain ⟨fs, after, further, there, wanders'⟩ := ih (sound_step _ sound) here
    rw [grows] at further wanders'
    exact ⟨es ++ fs, after, by rw [← List.append_assoc]; exact further, there,
      wanders.trans wanders'⟩

/-- What a transfer says on the control connection. -/
theorem transfer_announces (sound : world.Sound) (has : world.streams[number]? = some stream)
    {operation : ByteStream.Operation} (transfers : operation.transfers = true)
    {control : ConnectionId} (isOpen : stream.control = some control) : ∃ newer,
      dialogue control (step (.onStream number operation) world).2.trace =
        newer ++ dialogue control world.trace ∧
      (newer = [] ∨ stream.data = none ∧ ∃ x, newer = [x] ∧
        x.line = (Command.transfer stream.direction stream.position).line) := by
  obtain ⟨es, grows, turn⟩ := step_turn (.onStream number operation) world
  obtain ⟨after, performs, -⟩ := turn.performs has
  obtain ⟨trace, nodup⟩ := sound.extends grows
  rw [trace]
  cases stream with
  | unopened => cases isOpen
  | closed => cases isOpen
  | opened link =>
    cases isOpen
    refine Link.Transfers.announces ?_ sound.orderly (sound.streams _ _ has _ rfl) nodup
    generalize (World.step (.onStream number operation) world).1 = r at performs
    cases performs with
    | unroomy => exact .refused
    | read reading =>
      cases reading with
      | refused => exact .refused
      | done reads =>
        cases reads with
        | unusable => exact .refused
        | nothing => exact .refused
        | once _ receive => exact receive.transfers
    | receive receiving =>
      cases receiving with
      | refused => exact .refused
      | done receive => exact receive.transfers
    | write writing =>
      cases writing with
      | refused => exact .refused
      | done write => exact write.transfers
    | _ => cases transfers

/-- How the origins of a seek agree on a stream of a world, and what seeks do to it. -/
structure OriginsAgree (world : World) (number : Nat) (stream : ByteStream) : Prop where
  /-- The position is told, whatever state the stream is in. -/
  told : step (.onStream number .position) world = (.ok (.number stream.position), world)
  /-- The offset is added to the position that is told. -/
  current (offset : Int) : effect (.seek number offset .current) world =
    effect (.seek number (stream.position + offset) .start) world
  /-- The size is asked for, and the offset does not matter. -/
  size (offset : Int) :
    step (.seek number offset .size) world = step (.onStream number .stat) world
  /-- The size is asked for, and not told. -/
  finish_unsized (offset : Int) (e : Failure) (next : World) :
    step (.onStream number .stat) world = (.error e, next) →
    effect (.seek number offset .finish) world = (.error e, next.unlogged)
  /-- The size is asked for, and is below zero. -/
  finish_negative (offset n : Int) (next : World) : n < 0 →
    step (.onStream number .stat) world = (.ok (.number n), next) →
    effect (.seek number offset .finish) world = (.error (.negativeSize n), next.unlogged)
  /-- The size is asked for, and the offset added to it. -/
  finish (offset n : Int) (next : World) : 0 ≤ n →
    step (.onStream number .stat) world = (.ok (.number n), next) →
    effect (.seek number offset .finish) world = effect (.seek number (n + offset) .start) next
  /-- To ask for the size moves nothing. -/
  stat : ∃ after, (step (.onStream number .stat) world).2.streams[number]? = some after ∧
    after.position = stream.position ∧ after.data = stream.data
  /-- A seek from the start that succeeds makes no call but the close of a data connection that
  leads elsewhere. -/
  start (target : Int) (answer : Answer) (next : World) :
    step (.seek number target .start) world = (.ok answer, next) →
    answer = .number target ∧ ∃ after, next.streams[number]? = some after ∧
      after.position = target ∧ if target = stream.position
        then next.trace = world.trace ∧ after.data = stream.data
        else next.trace = world.trace ++ stream.data.toList.map (Event.close · (some ())) ∧
          after.data = none
  /-- Any number of seeks, successful or not, close one connection at most. -/
  closes (moves : List (Int × Int)) : ∃ es,
    (World.after (Step.seeks number moves) world).trace = world.trace ++ es ∧ (closed es).length ≤ 1
  /-- Of any number of seeks, the transfer behind them announces the target of the last one, if it
  announces anything: it does not if there is still a data connection. -/
  announces (moves : List (Int × Int)) (target : Int) (answer : Answer) (next : World)
    (operation : ByteStream.Operation) (control : ConnectionId) :
    step (.seek number target .start) (World.after (Step.seeks number moves) world) =
      (.ok answer, next) →
    operation.transfers = true → stream.control = some control → ∃ after newer,
      next.streams[number]? = some after ∧
      dialogue control (step (.onStream number operation) next).2.trace =
        newer ++ dialogue control world.trace ∧
      (newer.filterMap Exchange.transfer? = [] ∨ after.data = none ∧ ∃ position : Nat,
        target = position ∧ newer.filterMap Exchange.transfer? = [(stream.direction, position)])

/-- The transfer behind any number of seeks. -/
theorem announces_after (sound : world.Sound) (has : world.streams[number]? = some stream)
    (moves : List (Int × Int)) {target : Int} {answer : Answer}
    (sought : step (.seek number target .start) (World.after (Step.seeks number moves) world) =
      (.ok answer, next))
    {operation : ByteStream.Operation} (transfers : operation.transfers = true)
    {control : ConnectionId} (isOpen : stream.control = some control) : ∃ after newer,
      next.streams[number]? = some after ∧
      dialogue control (step (.onStream number operation) next).2.trace =
        newer ++ dialogue control world.trace ∧
      (newer.filterMap Exchange.transfer? = [] ∨ after.data = none ∧ ∃ position : Nat,
        target = position ∧
          newer.filterMap Exchange.transfer? = [(stream.direction, position)]) := by
  -- The last seek is one more of them.
  have all : World.after (Step.seeks number (moves ++ [(target, Origin.start.code)])) world =
      next := by
    unfold Step.seeks
    rw [List.map_append, after_append]
    exact congrArg Prod.snd sought
  obtain ⟨es, after, grows, here, wanders⟩ :=
    wanders_after (moves ++ [(target, Origin.start.code)]) sound has
  rw [all] at grows here
  have sound' := sound_after (Step.seeks number moves) sound
  have settled : next.Sound := all ▸ sound_after _ sound
  obtain ⟨-, stream', -, there, -⟩ := wanders_after moves sound has
  obtain ⟨-, after', here', place, -⟩ := start_moves there sought
  obtain rfl : after = after' := Option.some.inj (here.symm.trans here')
  obtain ⟨newest, later, announced⟩ :=
    transfer_announces settled here transfers (wanders.control.trans isOpen)
  obtain ⟨newer, earlier, stats⟩ := wanders.asks control isOpen
  rw [grows, earlier, ← List.append_assoc] at later
  -- The queries of the seeks announce nothing.
  have quiet : newer.filterMap Exchange.transfer? = [] :=
    List.filterMap_eq_nil_iff.2 fun x hx => Exchange.transfer?_stat (stats x hx)
  refine ⟨after, newest ++ newer, here, later, ?_⟩
  rw [List.filterMap_append, quiet, List.append_nil]
  rcases announced with rfl | ⟨without, x, rfl, line⟩
  · exact .inl rfl
  · refine .inr ⟨without, after.position, place.symm, ?_⟩
    rw [List.filterMap_cons, Exchange.transfer?_transfer line, wanders.direction]
    rfl

/-- **The origins of a seek agree.** In every state that a run reaches, whether the stream is open
or not and can be used or not, a seek from the position is one from the start to the sum of both, a
seek that asks for the size is the query for it, and a seek from the end is that query and, unless
it fails or tells a size below zero, a seek from the start to the sum of both. The query moves
nothing, and a seek from the start that succeeds makes no call but the close of a data connection
that leads elsewhere. So any number of seeks close one connection at most, and the transfer behind
them announces no target but the last one. -/
theorem origins_agree {firstId : Int} {waiting : List Peer}
    (start : begin firstId waiting = .ok world) (before : List Step)
    (has : (after before world).streams[number]? = some stream) :
    OriginsAgree (after before world) number stream := by
  have sound := sound_after before (sound_begin start)
  refine ⟨step_position has, effect_current has, step_size has, ?_, ?_, ?_, stat_keeps has,
    ?_, ?_, ?_⟩
  · exact fun offset e next unsized => effect_finish_of_error has unsized offset
  · exact fun offset n next negative sized => effect_finish_of_neg has sized negative offset
  · exact fun offset n next nonneg sized => effect_finish has sized nonneg offset
  · exact fun target answer next sought => start_moves has sought
  · intro moves
    obtain ⟨es, after, grows, -, wanders⟩ := wanders_after moves sound has
    exact ⟨es, grows, wanders.length_closed_le⟩
  · exact fun moves target answer next operation control sought transfers isOpen =>
      announces_after sound has moves sought transfers isOpen

/-- Back to the start from behind a letter, and to the second letter by way of the size. -/
theorem origins_agree_letters :
    let settings : Settings := { target := "/run/letters", route := ⟨.direct, .given⟩ }
    let waiting : List Peer := [{ incoming := [.bytes (utf8 "ok\n2\n")] },
      { incoming := [.bytes (utf8 "ab")] }]
    let world : World := { host := { network := { waiting } } }
    let before : List Step := [.start settings "r", .onStream 0 (.receive 1)]
    let here := after before world
    begin 1 waiting = .ok world ∧
      effect (.seek 0 (-1) .current) here = effect (.seek 0 0 .start) here ∧
      (step (.onStream 0 .stat) here).1 = .ok (.number 2) ∧
      effect (.seek 0 (-1) .finish) here =
        effect (.seek 0 1 .start) (step (.onStream 0 .stat) here).2 := by
  intro settings waiting world before here
  have there : here.streams[0]?.isSome = true := by decide +kernel
  obtain ⟨stream, has⟩ := Option.isSome_iff_exists.1 there
  have position : ∀ stream ∈ here.streams, stream.position = 1 := by decide +kernel
  have size : (step (.onStream 0 .stat) here).1 = .ok (.number 2) := by decide +kernel
  have start : begin 1 waiting = .ok world := rfl
  have agree := origins_agree start before has
  refine ⟨start, ?_, size, ?_⟩
  · have current := agree.current (-1)
    rw [position stream (List.mem_of_getElem? has)] at current
    exact current
  · exact agree.finish (-1) 2 _ (by decide) (Prod.ext size rfl)

end World

end SessionStream
