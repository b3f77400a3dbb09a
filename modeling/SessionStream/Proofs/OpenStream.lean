import SessionStream.Proofs.Joining

/-!
# What an open stream can do

For each operation of an open stream, a relation that lists what it can do, whatever the network
answers: the events it has, the result it gives and the link it leaves behind. All statements about
open streams follow from these relations; the functions are not opened again.

## Main definitions

- `Link.Stating`, `Link.Connecting`, `Link.Receiving`, `Link.Reading`, `Link.Writing`,
  `Link.Moving`, `Link.Seeking` — the operations
- `Link.Releasing` — giving the connections up
- `Link.Move`, `Link.Moves` — the smallest steps, and their sequences
-/

namespace SessionStream

/-- Bytes of payload, behind the position that they were moved at. -/
abbrev Placed := Nat × Bytes

namespace Link

/-- The link after an exchange. A reply that is too long leaves it out of step. -/
def afterExchange (link : Link) : Except Failure Bytes → Link
  | .error (.replyTooLong limit) => { link with outOfStep := some (.replyTooLong limit) }
  | _ => link

/-- An exchange changes nothing but whether the link is out of step. A link in step stays so exactly
if the reply was not too long. -/
theorem afterExchange_eq (link : Link) (heard : Except Failure Bytes) :
    ∃ outOfStep, link.afterExchange heard = { link with outOfStep } ∧
      (link.outOfStep = none →
        (outOfStep = none ↔ ∀ limit, heard ≠ .error (.replyTooLong limit))) := by
  unfold afterExchange
  split
  · exact ⟨_, rfl, fun _ => ⟨nofun, fun other => absurd rfl (other _)⟩⟩
  · next other => exact ⟨link.outOfStep, rfl, fun usable => ⟨fun _ => other, fun _ => usable⟩⟩

/-- The command that announces a transfer at the position. -/
def announcement (link : Link) : Command :=
  .transfer link.session.direction link.position

/-- Asking for the size. -/
inductive Stating (link : Link) : List Event → Except Failure Int → Link → Prop
  | unusable {cause : Failure} (broken : link.outOfStep = some cause) :
      Stating link [] (.error (.unusable cause)) link
  | exchanged {es : List Event} {heard : Except Failure Bytes} (usable : link.outOfStep = none)
      (exchange : Wire.Exchanged link.control Command.stat.line es heard) :
      Stating link es (heard >>= fun line => Reply.size (asciiText line))
        (link.afterExchange heard)

/-- Getting hold of the data connection. -/
inductive Connecting (link : Link) : List Event → Except Failure ConnectionId → Link → Prop
  | kept {c : ConnectionId} (has : link.data = some c) : Connecting link [] (.ok c) link
  | unwritable (without : link.data = none) (long : ¬link.announcement.Writable) :
      Connecting link [] (.error .numberTooLong) link
  | unheard {es : List Event} {e : Failure} (without : link.data = none)
      (exchange : Wire.Exchanged link.control link.announcement.line es (.error e)) :
      Connecting link es (.error e) (link.afterExchange (.error e))
  | rejected {es : List Event} {line : Bytes} (without : link.data = none)
      (exchange : Wire.Exchanged link.control link.announcement.line es (.ok line))
      (other : asciiText line ≠ Reply.admission) :
      Connecting link es (.error (.rejected (asciiText line)))
        { link with outOfStep := some (.rejected (asciiText line)) }
  | unjoined {es fs : List Event} {line : Bytes} {e : Failure} {session : Session}
      (without : link.data = none)
      (exchange : Wire.Exchanged link.control link.announcement.line es (.ok line))
      (admitted : asciiText line = Reply.admission)
      (join : Session.Joining link.settings.route link.address link.settings.timeout.effective
        link.session fs (.error e) session) :
      Connecting link (es ++ fs) (.error e) { link with session }
  | joined {es fs : List Event} {line : Bytes} {c : ConnectionId} {session : Session}
      (without : link.data = none)
      (exchange : Wire.Exchanged link.control link.announcement.line es (.ok line))
      (admitted : asciiText line = Reply.admission)
      (join : Session.Joining link.settings.route link.address link.settings.timeout.effective
        link.session fs (.ok c) session) :
      Connecting link (es ++ fs) (.ok c) { link with session, data := some c }

/-- Receiving once, at most `limit` bytes. -/
inductive Receiving (limit : Nat) (link : Link) : List Event → Except Failure Bytes → Link → Prop
  | unusable {cause : Failure} (broken : link.outOfStep = some cause) :
      Receiving limit link [] (.error (.unusable cause)) link
  | misdirected (usable : link.outOfStep = none) (writes : link.session.direction ≠ .read) :
      Receiving limit link [] (.error (.openedFor link.session.direction)) link
  | unconnected {es : List Event} {e : Failure} {after : Link} (usable : link.outOfStep = none)
      (reads : link.session.direction = .read) (connect : Connecting link es (.error e) after) :
      Receiving limit link es (.error e) after
  | failed {es : List Event} {c : ConnectionId} {after : Link} (fault : Fault)
      (usable : link.outOfStep = none) (reads : link.session.direction = .read)
      (connect : Connecting link es (.ok c) after) :
      Receiving limit link (es ++ [.receiveInto c limit none]) (.error (.fault fault)) after
  | ended {es : List Event} {c : ConnectionId} {after : Link} (usable : link.outOfStep = none)
      (reads : link.session.direction = .read) (connect : Connecting link es (.ok c) after) :
      Receiving limit link (es ++ [.receiveInto c limit (some [])])
        (.error (endOfStream after.position)) after
  | received {es : List Event} {c : ConnectionId} {after : Link} {bytes : Bytes}
      (usable : link.outOfStep = none) (reads : link.session.direction = .read)
      (connect : Connecting link es (.ok c) after) (fits : bytes.length ≤ limit)
      (nonempty : bytes ≠ []) :
      Receiving limit link (es ++ [.receiveInto c limit (some bytes)]) (.ok bytes)
        { after with position := after.position + bytes.length }

/-- The end of the stream as no bytes. -/
def withoutEnd : Except Failure Bytes → Except Failure Bytes
  | .error (.streamEnded _) => .ok []
  | r => r

/-- Reading at most `wanted` bytes. -/
inductive Reading (wanted : Nat) (link : Link) : List Event → Except Failure Bytes → Link → Prop
  | unusable {cause : Failure} (zero : wanted = 0) (broken : link.outOfStep = some cause) :
      Reading wanted link [] (.error (.unusable cause)) link
  | nothing (zero : wanted = 0) (usable : link.outOfStep = none) :
      Reading wanted link [] (.ok []) link
  | once {es : List Event} {r : Except Failure Bytes} {after : Link} (positive : wanted ≠ 0)
      (receive : Receiving wanted link es r after) : Reading wanted link es (withoutEnd r) after

/-- Sending once from `data`. -/
inductive Writing (data : Bytes) (link : Link) : List Event → Except Failure Nat → Link → Prop
  | unusable {cause : Failure} (broken : link.outOfStep = some cause) :
      Writing data link [] (.error (.unusable cause)) link
  | misdirected (usable : link.outOfStep = none) (reads : link.session.direction ≠ .write) :
      Writing data link [] (.error (.openedFor link.session.direction)) link
  | unconnected {es : List Event} {e : Failure} {after : Link} (usable : link.outOfStep = none)
      (writes : link.session.direction = .write) (connect : Connecting link es (.error e) after) :
      Writing data link es (.error e) after
  | failed {es : List Event} {c : ConnectionId} {after : Link} (fault : Fault)
      (usable : link.outOfStep = none) (writes : link.session.direction = .write)
      (connect : Connecting link es (.ok c) after) :
      Writing data link (es ++ [.send c data none]) (.error (.fault fault)) after
  | sent {es : List Event} {c : ConnectionId} {after : Link} {count : Nat}
      (usable : link.outOfStep = none) (writes : link.session.direction = .write)
      (connect : Connecting link es (.ok c) after) (fits : count ≤ data.length) :
      Writing data link (es ++ [.send c data (some count)]) (.ok count)
        { after with position := after.position + count }

/-- Moving to a position. -/
inductive Moving (target : Int) (link : Link) : List Event → Except Failure Nat → Link → Prop
  | negative (below : target < 0) :
      Moving target link [] (.error (.quoting target (.negativePosition target))) link
  | stayed (same : target = link.position) : Moving target link [] (.ok link.position) link
  | moved {position : Nat} (there : target = position) (other : position ≠ link.position)
      (without : link.data = none) :
      Moving target link [] (.ok position) { link with position }
  | dropped {position : Nat} {c : ConnectionId} (there : target = position)
      (other : position ≠ link.position) (has : link.data = some c) :
      Moving target link [.close c (some ())] (.ok position) { link with position, data := none }
  | unclosed {position : Nat} {c : ConnectionId} (fault : Fault) (there : target = position)
      (other : position ≠ link.position) (has : link.data = some c) :
      Moving target link [.close c none] (.error (.fault fault)) { link with data := none }

/-- A move by an offset from an origin, or the query for the size. -/
inductive Seeking (offset code : Int) (link : Link) :
    List Event → Except Failure Int → Link → Prop
  | unusable {cause : Failure} (broken : link.outOfStep = some cause) :
      Seeking offset code link [] (.error (.unusable cause)) link
  | unknown (usable : link.outOfStep = none) (origin : Origin.ofCode? code = none) :
      Seeking offset code link [] (.error (.quoting code (.unknownOrigin code))) link
  | size {es : List Event} {r : Except Failure Int} {after : Link}
      (usable : link.outOfStep = none) (origin : Origin.ofCode? code = some .size)
      (stat : Stating link es r after) : Seeking offset code link es r after
  | start {es : List Event} {r : Except Failure Nat} {after : Link}
      (usable : link.outOfStep = none) (origin : Origin.ofCode? code = some .start)
      (move : Moving offset link es r after) :
      Seeking offset code link es (Int.ofNat <$> r) after
  | current {es : List Event} {r : Except Failure Nat} {after : Link}
      (usable : link.outOfStep = none) (origin : Origin.ofCode? code = some .current)
      (move : Moving (link.position + offset) link es r after) :
      Seeking offset code link es (Int.ofNat <$> r) after
  | unsized {es : List Event} {e : Failure} {after : Link} (usable : link.outOfStep = none)
      (origin : Origin.ofCode? code = some .finish) (stat : Stating link es (.error e) after) :
      Seeking offset code link es (.error e) after
  | negativeSize {es : List Event} {size : Int} {after : Link} (usable : link.outOfStep = none)
      (origin : Origin.ofCode? code = some .finish) (stat : Stating link es (.ok size) after)
      (negative : size < 0) : Seeking offset code link es (.error (.negativeSize size)) after
  | finish {es fs : List Event} {size : Int} {r : Except Failure Nat} {mid after : Link}
      (usable : link.outOfStep = none) (origin : Origin.ofCode? code = some .finish)
      (stat : Stating link es (.ok size) mid) (nonneg : 0 ≤ size)
      (move : Moving (size + offset) mid fs r after) :
      Seeking offset code link (es ++ fs) (Int.ofNat <$> r) after

/-- Giving the connections up. -/
inductive Releasing (link : Link) : List Event → Except Failure Unit → Prop
  | single {es : List Event} {r : Except Failure Unit} (without : link.data = none)
      (control : Called (.close link.control) (fun _ => True) r es) : Releasing link es r
  | both {c : ConnectionId} {result : Option Unit} {es : List Event} {r : Except Failure Unit}
      (has : link.data = some c)
      (control : Called (.close link.control) (fun _ => True) r es) :
      Releasing link (.close c result :: es) r
  | misused {c : ConnectionId} (fault : Fault) (has : link.data = some c)
      (misuse : fault.isSystem = false) :
      Releasing link [.close c none] (.error (.fault fault))

-- ════════════════════════════════════════════════════════════════════════
-- The functions do this
-- ════════════════════════════════════════════════════════════════════════

section Checks

variable {β : Type} {f : Unit → Act (Held Link) β} {held : Held Link}
  {post : Except Failure β → List Event → Held Link → Prop}

theorem does_requireUsable_bind :
    Act.Does (requireUsable >>= f) held post ↔
      match held.own.outOfStep with
      | none => Act.Does (f ()) held post
      | some cause => post (.error (.unusable cause)) [] held := by
  unfold requireUsable
  rw [bind_assoc, Act.does_get_bind]
  cases held.own.outOfStep with
  | none => exact Act.does_pure_bind
  | some cause => exact Act.does_throw_bind

/-- Behind the check of the direction, the link has the wanted one. -/
theorem requireDirection_bind_does {wanted : Direction} {complaint : String}
    (other : held.own.session.direction ≠ wanted → ∀ after : Held Link, after.own = held.own →
      post (.error (.openedFor held.own.session.direction)) [] after)
    (same : held.own.session.direction = wanted → Act.Does (f ()) held post) :
    Act.Does (requireDirection wanted complaint >>= f) held post := by
  unfold requireDirection
  rw [bind_assoc, Act.does_get_bind]
  by_cases h : held.own.session.direction = wanted
  · simp only [h, ne_eq, not_true_eq_false, if_false, Act.does_pure_bind]
    exact same h
  · simp only [ne_eq, h, not_false_eq_true, if_true, bind_assoc, does_note_bind,
      Act.does_throw_bind]
    exact other h _ rfl

end Checks

variable (held : Held Link)

theorem say_does (command : Command) :
    Act.Does (say command) held fun r es after =>
      after.own = held.own ∧ Wire.Transmission held.own.control command.line es r :=
  Act.does_get_bind.2 (Act.Does.onHeldNetwork
    ((Wire.transmit_does command.line _).mono fun _ _ _ h => ⟨rfl, h⟩))

theorem fallOutOfStep_does {α : Type} (cause : Failure) :
    Act.Does (fallOutOfStep cause : Act (Held Link) α) held fun r es after =>
      r = .error cause ∧ es = [] ∧ after.own = { held.own with outOfStep := some cause } := by
  refine Act.does_get_bind.2 (does_note_bind.2 (does_update_bind.2 ?_))
  exact Act.does_throw.2 ⟨rfl, rfl, rfl⟩

theorem hear_does :
    Act.Does hear held fun r es after => ∃ heard,
      Wire.Hearing held.own.control (.replyTooLong Reply.limit) Reply.limit [] es heard ∧
      after.own = held.own.afterExchange heard ∧ r = asciiText <$> heard := by
  refine Act.does_get_bind.2 (Act.Does.tryCatch (Act.Does.onHeldNetwork
    ((Wire.receiveReply_does _ _).mono ?_)))
  rw [Failure.quoting_of_writable _ Reply.writable_limit]
  rintro r es net ⟨heard, receives, rfl⟩
  cases heard with
  | ok line => exact ⟨.ok line, receives, rfl, rfl⟩
  | error e =>
    change Act.Does _ _ _
    split
    · next limit =>
      refine (fallOutOfStep_does _ _).mono ?_
      rintro r fs after ⟨rfl, rfl, hown⟩
      exact ⟨.error (.replyTooLong limit), by rwa [List.append_nil], hown, rfl⟩
    · next he =>
      refine Act.does_throw.2 ⟨.error e, by rwa [List.append_nil], ?_, rfl⟩
      cases e <;> first | rfl | exact absurd rfl (he _)

/-- A line that could not be sent leaves the link as it is. -/
theorem afterExchange_of_unsent {link : Link} {c : ConnectionId} {data : Bytes} {es : List Event}
    {e : Failure} (sends : Wire.Transmission c data es (.error e)) :
    link.afterExchange (.error e) = link := by
  rcases sends.error_cases with rfl | ⟨fault, rfl⟩ <;> rfl

theorem stat_does :
    Act.Does stat held fun r es after => Stating held.own es r after.own := by
  unfold stat
  rw [does_requireUsable_bind]
  cases usable : held.own.outOfStep with
  | some cause => exact .unusable usable
  | none =>
    refine does_note_bind.2 (Act.Does.bind ((say_does _ _).mono ?_))
    rintro r es mid ⟨hmid, sends⟩
    cases r with
    | error e =>
      have h := Stating.exchanged usable (.unsent sends)
      rw [afterExchange_of_unsent sends] at h
      rw [hmid]
      exact h
    | ok u =>
      refine does_note_bind.2 (Act.Does.bind ((hear_does _).mono ?_))
      rintro r fs after ⟨heard, receives, hafter, rfl⟩
      rw [Held.own_logged, hmid] at receives hafter
      have h := Stating.exchanged usable (.sent sends receives)
      cases heard with
      | error e =>
        rw [hafter]
        exact h
      | ok line =>
        refine does_note_bind.2 (Act.does_ofExcept.2 ?_)
        rw [List.append_nil, Held.own_logged, hafter]
        exact h

/-- An announcement is admitted, or getting hold of a data connection fails with it. -/
theorem announce_does (without : held.own.data = none) :
    Act.Does announce held fun r es after => match r with
      | .ok _ => after.own = held.own ∧ ∃ line,
          Wire.Exchanged held.own.control held.own.announcement.line es (.ok line) ∧
          asciiText line = Reply.admission
      | .error e => Connecting held.own es (.error e) after.own := by
  unfold announce
  rw [Act.does_get_bind, Act.does_ofExcept_bind]
  unfold Command.requireWritable
  split
  · next hw =>
    split at hw
    · refine does_note_bind.2 (Act.Does.bind ((say_does _ _).mono ?_))
      rintro r es mid ⟨hmid, sends⟩
      cases r with
      | error e =>
        have h := Connecting.unheard without (.unsent sends)
        rw [afterExchange_of_unsent sends] at h
        rw [hmid]
        exact h
      | ok u =>
        refine Act.Does.bind ((hear_does _).mono ?_)
        rintro r fs after ⟨heard, receives, hafter, rfl⟩
        rw [hmid] at receives hafter
        cases heard with
        | error e =>
          dsimp only [Functor.map, Except.map]
          rw [hafter]
          exact .unheard without (.sent sends receives)
        | ok line =>
          dsimp only [Functor.map, Except.map]
          by_cases admitted : asciiText line = Reply.admission
          · simp only [Reply.requireAdmission, admitted, if_true]
            exact Act.does_pure.2 ⟨hafter, line, by simpa using .sent sends receives, admitted⟩
          · simp only [Reply.requireAdmission, admitted, if_false]
            refine does_note_bind.2 ((fallOutOfStep_does _ _).mono ?_)
            rintro r gs last ⟨rfl, rfl, hlast⟩
            rw [hlast, Held.own_logged, hafter, List.append_nil]
            exact .rejected without (.sent sends receives) admitted
    · cases hw
  · next hw =>
    split at hw
    · cases hw
    · next long =>
      cases hw
      exact .unwritable without long

theorem newConnection_does :
    Act.Does newConnection held fun r es after => ∃ session,
      Session.Joining held.own.settings.route held.own.address
        held.own.settings.timeout.effective held.own.session es r session ∧
      after.own = { held.own with session } :=
  Act.does_get_bind.2 (Act.Does.onPart ((Session.join_does _ _ _ _).mono fun _ _ inner h =>
    ⟨inner.own, h.1, rfl⟩))

theorem dataConnection_does :
    Act.Does dataConnection held fun r es after => Connecting held.own es r after.own := by
  unfold dataConnection
  rw [Act.does_get_bind]
  cases has : held.own.data with
  | some c => exact Act.does_pure.2 (.kept has)
  | none =>
    refine Act.Does.bind ((announce_does held has).mono ?_)
    intro r es mid h
    cases r with
    | error e => exact h
    | ok u =>
      obtain ⟨hmid, line, exchange, admitted⟩ := h
      refine Act.Does.bind ((newConnection_does _).mono ?_)
      rintro r fs after ⟨session, join, hafter⟩
      rw [hmid] at join hafter
      cases r with
      | error e =>
        rw [hafter]
        exact .unjoined has exchange admitted join
      | ok c =>
        refine does_update_bind.2 (Act.does_pure.2 ?_)
        rw [List.append_nil, hafter]
        exact .joined has exchange admitted join

theorem receive_does (limit : Nat) :
    Act.Does (receive limit) held fun r es after =>
      Receiving limit held.own es (Subtype.val <$> r) after.own := by
  unfold receive
  rw [does_requireUsable_bind]
  cases usable : held.own.outOfStep with
  | some cause => exact .unusable usable
  | none =>
    refine requireDirection_bind_does ?_ ?_
    · intro writes after hown
      rw [hown]
      exact .misdirected usable writes
    intro reads
    refine Act.Does.bind ((dataConnection_does _).mono ?_)
    intro r es mid connect
    cases r with
    | error e => exact .unconnected usable reads connect
    | ok c =>
      refine Act.Does.bind (Act.Does.onHeldNetwork ((Network.receiveInto_does limit).mono ?_))
      intro r fs net called
      cases called with
      | failed fault => exact .failed fault usable reads connect
      | @answered bytes fits =>
        dsimp only
        by_cases nonempty : bytes ≠ []
        · rw [dif_pos nonempty]
          refine does_update_bind.2 (Act.does_pure.2 ?_)
          rw [List.append_nil]
          exact .received usable reads connect fits nonempty
        · rw [dif_neg nonempty]
          obtain rfl : bytes = [] := by simpa using nonempty
          refine Act.does_get_bind.2 (Act.does_throw.2 ?_)
          rw [List.append_nil]
          exact .ended usable reads connect

theorem read_does (wanted : Nat) :
    Act.Does (read wanted) held fun r es after => Reading wanted held.own es r after.own := by
  unfold read
  by_cases zero : wanted = 0
  · rw [if_pos zero, does_requireUsable_bind]
    cases usable : held.own.outOfStep with
    | some cause => exact .unusable zero usable
    | none => exact Act.does_pure.2 (.nothing zero usable)
  · rw [if_neg zero]
    refine Act.Does.tryCatch (Act.Does.map ((receive_does _ _).mono ?_))
    intro r es after h
    cases hr : (Subtype.val <$> r : Except Failure Bytes) with
    | ok bytes => exact .once zero (hr ▸ h)
    | error e =>
      rw [hr] at h
      change Act.Does _ _ _
      split
      · refine Act.does_pure.2 ?_
        rw [List.append_nil]
        exact .once zero h
      · next he =>
        refine Act.does_throw.2 ?_
        rw [List.append_nil]
        have hsame : withoutEnd (.error e) = .error e := by
          cases e <;> first | rfl | exact absurd rfl (he _)
        rw [← hsame]
        exact .once zero h

theorem write_does (data : Bytes) :
    Act.Does (write data) held fun r es after => Writing data held.own es r after.own := by
  unfold write
  rw [does_requireUsable_bind]
  cases usable : held.own.outOfStep with
  | some cause => exact .unusable usable
  | none =>
    refine requireDirection_bind_does ?_ ?_
    · intro reads after hown
      rw [hown]
      exact .misdirected usable reads
    intro writes
    refine Act.Does.bind ((dataConnection_does _).mono ?_)
    intro r es mid connect
    cases r with
    | error e => exact .unconnected usable writes connect
    | ok c =>
      refine Act.Does.bind (Act.Does.onHeldNetwork ((Network.send_does data).mono ?_))
      intro r fs net called
      cases called with
      | failed fault => exact .failed fault usable writes connect
      | @answered count fits =>
        refine does_update_bind.2 (Act.does_pure.2 ?_)
        rw [List.append_nil]
        exact .sent usable writes connect fits

theorem releaseData_does :
    Act.Does releaseData held fun r es after => match held.own.data with
      | none => r = .ok () ∧ es = [] ∧ after.own = held.own
      | some c => Called (.close c) (fun _ => True) r es ∧
          after.own = { held.own with data := none } := by
  unfold releaseData
  rw [Act.does_get_bind]
  cases held.own.data with
  | none => exact Act.does_pure.2 ⟨rfl, rfl, rfl⟩
  | some c =>
    refine does_update_bind.2 (does_note_bind.2 (Act.Does.onHeldNetwork ?_))
    exact Network.close_does.mono fun _ _ _ called => ⟨called, rfl⟩

theorem moveTo_does (target : Int) :
    Act.Does (moveTo target) held fun r es after => Moving target held.own es r after.own := by
  unfold moveTo
  by_cases below : target < 0
  · rw [if_pos below, Act.does_throw_bind]
    exact .negative below
  · obtain ⟨position, there⟩ : ∃ position : Nat, target = position :=
      ⟨target.toNat, (Int.toNat_of_nonneg (by omega)).symm⟩
    have hnat : target.toNat = position := by omega
    rw [if_neg below]
    simp only [hnat]
    refine Act.does_get_bind.2 ?_
    by_cases other : position ≠ held.own.position
    · rw [if_pos other]
      refine Act.Does.bind ((releaseData_does _).mono ?_)
      intro r es mid h
      cases has : held.own.data with
      | none =>
        simp only [has] at h
        obtain ⟨rfl, rfl, hmid⟩ := h
        refine does_update_bind.2 (Act.does_pure.2 ?_)
        rw [hmid]
        exact .moved there other has
      | some c =>
        simp only [has] at h
        obtain ⟨called, hmid⟩ := h
        cases called with
        | failed fault =>
          rw [hmid]
          exact .unclosed fault there other has
        | answered =>
          refine does_update_bind.2 (Act.does_pure.2 ?_)
          rw [hmid]
          exact .dropped there other has
    · rw [if_neg other]
      refine does_update_bind.2 (Act.does_pure.2 ?_)
      obtain rfl : position = held.own.position := by simpa using other
      exact .stayed there

theorem seek_does (offset code : Int) :
    Act.Does (seek offset code) held fun r es after =>
      Seeking offset code held.own es r after.own := by
  unfold seek
  rw [does_requireUsable_bind]
  cases usable : held.own.outOfStep with
  | some cause => exact .unusable usable
  | none =>
    refine Act.does_get_bind.2 ?_
    cases origin : Origin.ofCode? code with
    | none => exact does_note_bind.2 (Act.does_throw.2 (.unknown usable origin))
    | some o =>
      cases o with
      | size => exact (stat_does _).mono fun _ _ _ h => .size usable origin h
      | start =>
        exact does_note_bind.2 (Act.Does.map ((moveTo_does _ _).mono fun _ _ _ h =>
          .start usable origin h))
      | current =>
        exact does_note_bind.2 (Act.Does.map ((moveTo_does _ _).mono fun _ _ _ h =>
          .current usable origin h))
      | finish =>
        refine Act.Does.bind ((stat_does _).mono ?_)
        intro r es mid stat
        cases r with
        | error e => exact .unsized usable origin stat
        | ok size =>
          refine does_note_bind.2 ?_
          by_cases negative : size < 0
          · rw [if_pos negative, Act.does_throw_bind, List.append_nil]
            exact .negativeSize usable origin stat negative
          · rw [if_neg negative]
            exact Act.Does.map ((moveTo_does _ _).mono fun _ _ _ h =>
              .finish usable origin stat (by omega) h)

theorem release_does (link : Link) (host : Host) :
    Act.Does (release link) host fun r es _ => Releasing link es r := by
  unfold release
  have last : ∀ host : Host, Act.Does (do
      Host.write .debug .stream s!"Close {link.control.descriptor}"
      Network.close link.control : Act Host Unit) host
        fun r es _ => Called (.close link.control) (fun _ => True) r es := fun host =>
    Host.does_write_bind.2 (Act.Does.onHost (Network.close_does.mono fun _ _ _ called => called))
  cases has : link.data with
  | none => exact (last host).mono fun _ _ _ called => .single has called
  | some c =>
    refine Host.does_write_bind.2 (Act.Does.bind (Act.Does.rescue (Act.Does.onHost
      (Network.close_does.mono ?_))))
    intro r es net called
    cases called with
    | answered => exact (last _).mono fun _ _ _ called => .both has called
    | failed fault =>
      constructor
      · intro _
        refine Host.does_write.2 ?_
        exact (last _).mono fun _ _ _ called => .both has called
      · intro misuse
        exact .misused fault has misuse

-- ════════════════════════════════════════════════════════════════════════
-- Smallest steps
-- ════════════════════════════════════════════════════════════════════════

/-- The smallest steps that the operations are made of, with the payload that each moves. -/
inductive Move (link : Link) : List Event → List Placed → Link → Prop
  | stating {es : List Event} {r : Except Failure Int} {after : Link}
      (stat : Stating link es r after) : Move link es [] after
  | connecting {es : List Event} {r : Except Failure ConnectionId} {after : Link}
      (usable : link.outOfStep = none) (connect : Connecting link es r after) :
      Move link es [] after
  | receiving {c : ConnectionId} {limit : Nat} {result : Option Bytes}
      (reads : link.session.direction = .read) (has : link.data = some c) :
      Move link [.receiveInto c limit result] (result.map (Prod.mk link.position)).toList
        { link with position := link.position + (result.getD []).length }
  | sending {c : ConnectionId} {data : Bytes} {result : Option Nat}
      (writes : link.session.direction = .write) (has : link.data = some c)
      (fits : result.getD 0 ≤ data.length) :
      Move link [.send c data result]
        (result.map fun count => (link.position, data.take count)).toList
        { link with position := link.position + result.getD 0 }
  | moving {target : Int} {es : List Event} {r : Except Failure Nat} {after : Link}
      (move : Moving target link es r after) : Move link es [] after

/-- Any number of smallest steps, one after the other. -/
inductive Moves : Link → List Event → List Placed → Link → Prop
  | refl (link : Link) : Moves link [] [] link
  | step {link mid after : Link} {es fs : List Event} {ps qs : List Placed}
      (move : Move link es ps mid) (rest : Moves mid fs qs after) :
      Moves link (es ++ fs) (ps ++ qs) after

variable {link mid after : Link} {es fs : List Event} {ps qs : List Placed}

theorem Move.moves (h : Move link es ps after) : Moves link es ps after := by
  have h' := Moves.step h (.refl after)
  rwa [List.append_nil, List.append_nil] at h'

theorem Moves.trans (h : Moves link es ps mid) (h' : Moves mid fs qs after) :
    Moves link (es ++ fs) (ps ++ qs) after := by
  induction h with
  | refl => exact h'
  | step move _ ih =>
    rw [List.append_assoc, List.append_assoc]
    exact .step move (ih h')

/-- Getting hold of the data connection does not move. -/
theorem Connecting.position_eq {r : Except Failure ConnectionId} (h : Connecting link es r after) :
    after.position = link.position := by
  cases h with
  | @unheard _ e =>
    obtain ⟨outOfStep, hafter, -⟩ := afterExchange_eq link (.error e)
    rw [hafter]
  | _ => rfl

/-- A data connection that was got hold of is the one of the link. -/
theorem Connecting.data_eq {c : ConnectionId} (h : Connecting link es (.ok c) after) :
    after.data = some c := by
  cases h with
  | kept has => exact has
  | joined => rfl

/-- Getting hold of the data connection keeps the direction. -/
theorem Connecting.direction_eq {r : Except Failure ConnectionId}
    (h : Connecting link es r after) : after.session.direction = link.session.direction := by
  cases h with
  | @unheard _ e =>
    obtain ⟨outOfStep, hafter, -⟩ := afterExchange_eq link (.error e)
    rw [hafter]
  | unjoined _ _ _ join => exact join.direction_eq
  | joined _ _ _ join => exact join.direction_eq
  | _ => rfl

/-- A receive on the data connection that was got hold of moves at the position from before. -/
theorem Connecting.moves_receiving {c : ConnectionId} {limit : Nat} {result : Option Bytes}
    (usable : link.outOfStep = none) (reads : link.session.direction = .read)
    (h : Connecting link es (.ok c) mid) :
    Moves link (es ++ [.receiveInto c limit result]) (result.map (Prod.mk link.position)).toList
      { mid with position := mid.position + (result.getD []).length } := by
  have last : Move mid [.receiveInto c limit result] _ _ :=
    .receiving (h.direction_eq.trans reads) h.data_eq
  rw [h.position_eq] at last ⊢
  exact (Move.connecting usable h).moves.trans last.moves

/-- A send on the data connection that was got hold of moves at the position from before. -/
theorem Connecting.moves_sending {c : ConnectionId} {data : Bytes} {result : Option Nat}
    (usable : link.outOfStep = none) (writes : link.session.direction = .write)
    (fits : result.getD 0 ≤ data.length) (h : Connecting link es (.ok c) mid) :
    Moves link (es ++ [.send c data result])
      (result.map fun count => (link.position, data.take count)).toList
      { mid with position := mid.position + result.getD 0 } := by
  have last := Move.sending (h.direction_eq.trans writes) h.data_eq fits
  rw [h.position_eq] at last ⊢
  exact (Move.connecting usable h).moves.trans last.moves

/-- A receive moves what it gives at the position, and nothing on a stream that writes. -/
theorem Receiving.moves {limit : Nat} {r : Except Failure Bytes}
    (h : Receiving limit link es r after) :
    ∃ ps, Moves link es ps after ∧ (∀ bytes, r = .ok bytes → ps = [(link.position, bytes)]) ∧
      (link.session.direction = .write → ps = []) := by
  cases h with
  | unusable => exact ⟨[], .refl link, nofun, fun _ => rfl⟩
  | misdirected => exact ⟨[], .refl link, nofun, fun _ => rfl⟩
  | unconnected usable _ connect =>
    exact ⟨[], (Move.connecting usable connect).moves, nofun, fun _ => rfl⟩
  | failed fault usable reads connect =>
    exact ⟨_, connect.moves_receiving usable reads, nofun, fun _ => rfl⟩
  | ended usable reads connect =>
    have moves : Moves link (_ ++ [.receiveInto _ limit (some [])]) _ _ :=
      connect.moves_receiving usable reads
    refine ⟨_, moves, nofun, fun writes => ?_⟩
    rw [reads] at writes
    cases writes
  | received usable reads connect =>
    refine ⟨_, connect.moves_receiving usable reads, ?_, fun writes => ?_⟩
    · rintro bytes ⟨⟩
      rfl
    · rw [reads] at writes
      cases writes

/-- A receive that gives bytes moves by their number. -/
theorem Receiving.position_eq {limit : Nat} {bytes : Bytes}
    (h : Receiving limit link es (.ok bytes) after) :
    after.position = link.position + bytes.length := by
  cases h with
  | received _ _ connect =>
    dsimp only
    rw [connect.position_eq]

/-- A receive never gives more than was asked for, and never nothing. -/
theorem Receiving.length_of_ok {limit : Nat} {bytes : Bytes}
    (h : Receiving limit link es (.ok bytes) after) : 0 < bytes.length ∧ bytes.length ≤ limit := by
  cases h with
  | received _ _ _ fits nonempty => exact ⟨List.length_pos_iff.2 nonempty, fits⟩

/-- A read moves what it gives at the position, and nothing on a stream that writes. -/
theorem Reading.moves {wanted : Nat} {r : Except Failure Bytes}
    (h : Reading wanted link es r after) :
    ∃ ps, Moves link es ps after ∧
      (∀ bytes, r = .ok bytes → bytes = [] ∨ ps = [(link.position, bytes)]) ∧
      (link.session.direction = .write → ps = []) := by
  cases h with
  | unusable => exact ⟨[], .refl link, nofun, fun _ => rfl⟩
  | nothing =>
    refine ⟨[], .refl link, ?_, fun _ => rfl⟩
    rintro bytes ⟨⟩
    exact .inl rfl
  | @once _ r _ _ receive =>
    obtain ⟨ps, moves, gives, writes⟩ := receive.moves
    refine ⟨ps, moves, fun bytes hr => ?_, writes⟩
    unfold withoutEnd at hr
    split at hr
    · exact .inl (Except.ok.inj hr).symm
    · exact .inr (gives bytes hr)

/-- A write moves what it says was accepted at the position, and a failed one nothing. -/
theorem Writing.moves {data : Bytes} {r : Except Failure Nat} (h : Writing data link es r after) :
    ∃ ps, Moves link es ps after ∧ match r with
      | .ok count => link.session.direction = .write ∧ ps = [(link.position, data.take count)]
      | .error _ => ps = [] := by
  cases h with
  | unusable => exact ⟨[], .refl link, rfl⟩
  | misdirected => exact ⟨[], .refl link, rfl⟩
  | unconnected usable _ connect => exact ⟨[], (Move.connecting usable connect).moves, rfl⟩
  | failed fault usable writes connect =>
    exact ⟨_, connect.moves_sending usable writes (Nat.zero_le _), rfl⟩
  | sent usable writes connect fits =>
    exact ⟨_, connect.moves_sending usable writes fits, writes, rfl⟩

/-- A seek moves no payload. -/
theorem Seeking.moves {offset code : Int} {r : Except Failure Int}
    (h : Seeking offset code link es r after) : Moves link es [] after := by
  cases h with
  | unusable => exact .refl link
  | unknown => exact .refl link
  | size _ _ stat => exact (Move.stating stat).moves
  | start _ _ move => exact (Move.moving move).moves
  | current _ _ move => exact (Move.moving move).moves
  | unsized _ _ stat => exact (Move.stating stat).moves
  | negativeSize _ _ stat => exact (Move.stating stat).moves
  | finish _ _ stat _ move => exact (Move.stating stat).moves.trans (Move.moving move).moves

theorem Stating.session_eq {r : Except Failure Int} (h : Stating link es r after) :
    after.session = link.session := by
  cases h with
  | unusable => rfl
  | @exchanged _ heard =>
    obtain ⟨outOfStep, hafter, -⟩ := afterExchange_eq link heard
    rw [hafter]

theorem Moving.session_eq {target : Int} {r : Except Failure Nat}
    (h : Moving target link es r after) : after.session = link.session := by
  cases h <;> rfl

theorem Seeking.session_eq {offset code : Int} {r : Except Failure Int}
    (h : Seeking offset code link es r after) : after.session = link.session := by
  cases h with
  | unusable => rfl
  | unknown => rfl
  | size _ _ stat => exact stat.session_eq
  | start _ _ move => exact move.session_eq
  | current _ _ move => exact move.session_eq
  | unsized _ _ stat => exact stat.session_eq
  | negativeSize _ _ stat => exact stat.session_eq
  | finish _ _ stat _ move => exact move.session_eq.trans stat.session_eq

/-- A successful seek from the start lands at its offset. -/
theorem Seeking.position_of_start {offset position : Int}
    (h : Seeking offset Origin.start.code link es (.ok position) after) :
    offset = after.position := by
  have code : Origin.ofCode? Origin.start.code = some .start := rfl
  generalize hr : (Except.ok position : Except Failure Int) = r at h
  cases h with
  | unusable => cases hr
  | unknown => cases hr
  | size _ origin => rw [code] at origin; cases origin
  | current _ origin => rw [code] at origin; cases origin
  | unsized => cases hr
  | negativeSize => cases hr
  | finish _ origin => rw [code] at origin; cases origin
  | start _ _ move =>
    cases move with
    | negative => cases hr
    | stayed same => exact same
    | moved there => exact there
    | dropped there => exact there
    | unclosed => cases hr

end Link

end SessionStream
