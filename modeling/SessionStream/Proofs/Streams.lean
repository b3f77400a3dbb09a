import SessionStream.Proofs.Operations
import SessionStream.Proofs.Preservation

/-!
# Streams and the connections they hold

A stream calls on nothing but the connections that it holds and on those that it makes, and it
holds no others afterwards. Together with the invariant of open streams this is all that another
stream on the same network has to know about it.

## Main definitions

- `Footprint` — which connections are called on, and which are held afterwards
- `ByteStream.connections` — the connections that a stream holds
- `ByteStream.Sound` — a stream fits to its record

## Main results

- `ByteStream.Evolves.footprint` — a stream touches no connection of others
- `ByteStream.Evolves.sound` — all that a stream can do keeps it fitting to its record
-/

namespace SessionStream

variable {c : ConnectionId} {es fs trace : List Event} {ps : List Placed}

/-- All calls are on connections that were held before or have been made, and so are all
connections that are held afterwards. -/
structure Footprint (before : List ConnectionId) (es : List Event) (after : List ConnectionId) :
    Prop where
  target : ∀ e ∈ es, ∀ c, e.target? = some c → c ∈ before ∨ c ∈ opened es
  held : ∀ c ∈ after, c ∈ before ∨ c ∈ opened es

namespace Footprint

variable {before mid after : List ConnectionId}

/-- Without a call, nothing new is held. -/
theorem nil (h : after ⊆ before) : Footprint before [] after :=
  ⟨nofun, fun _ hc => .inl (h hc)⟩

/-- Calls on one connection that was held before. -/
theorem of_target (hc : c ∈ before) (htarget : ∀ e ∈ es, e.target? = some c)
    (h : after ⊆ before) : Footprint before es after where
  target e he c' hc' := by
    rw [htarget e he, Option.some.injEq] at hc'
    exact .inl (hc' ▸ hc)
  held _ hc := .inl (h hc)

/-- Calls on connections that were made. -/
theorem of_selfContained (h : SelfContained es) (hheld : ∀ c ∈ after, c ∈ before ∨ c ∈ opened es) :
    Footprint before es after :=
  ⟨fun e he c hc => .inr (h e he c hc), hheld⟩

theorem trans (h : Footprint before es mid) (h' : Footprint mid fs after) :
    Footprint before (es ++ fs) after := by
  have widen : ∀ c, c ∈ mid ∨ c ∈ opened fs → c ∈ before ∨ c ∈ opened (es ++ fs) := by
    intro c hc
    rw [opened_append, List.mem_append]
    rcases hc with hc | hc
    · exact (h.held c hc).imp_right .inl
    · exact .inr (.inr hc)
  refine ⟨fun e he c hc => ?_, fun c hc => widen c (h'.held c hc)⟩
  rcases List.mem_append.1 he with he | he
  · rw [opened_append, List.mem_append]
    exact (h.target e he c hc).imp_right .inl
  · exact widen c (h'.target e he c hc)

/-- A connection of somebody else is not called on. -/
theorem untouched (h : Footprint before es after) (nodup : (opened (trace ++ es)).Nodup)
    (old : c ∈ opened trace) (hc : c ∉ before) : Untouched c es := by
  intro e he htarget
  rcases h.target e he c htarget with held | new
  · exact hc held
  · exact not_mem_opened_of_nodup nodup new old

end Footprint

namespace Session

variable {route : Route} {address : Address} {timeout : Int} {session after : Session}

/-- A connection that joined a session is new. -/
theorem Joining.mem_opened (h : Joining route address timeout session es (.ok c) after) :
    c ∈ opened es := by
  obtain ⟨-, e, he⟩ | ⟨c', made, bound⟩ := h.made
  · cases he
  · cases bound
    rw [made.opened_eq]
    exact List.mem_singleton.2 rfl

theorem Joining.footprint {r : Except Failure ConnectionId} {before held : List ConnectionId}
    (h : Joining route address timeout session es r after)
    (hheld : ∀ c ∈ held, c ∈ before ∨ c ∈ opened es) : Footprint before es held :=
  .of_selfContained h.selfContained.1 hheld

end Session

namespace Link

variable {link after : Link}

/-- A command is on the control connection. -/
theorem footprint_of_exchange {line : Bytes} {r : Except Failure Bytes}
    (exchange : Wire.Exchanged link.control line es r) :
    Footprint link.connections es link.connections :=
  .of_target (List.mem_cons_self ..) exchange.target? (List.Subset.refl _)

theorem Stating.footprint {r : Except Failure Int} (h : Stating link es r after) :
    Footprint link.connections es after.connections := by
  cases h with
  | unusable => exact .nil (List.Subset.refl _)
  | exchanged usable exchange =>
    obtain ⟨outOfStep, hafter, -⟩ := afterExchange_eq link _
    rw [hafter]
    exact footprint_of_exchange exchange

/-- What is held with a new data connection was held before or made. -/
theorem held_of_joining {session session' : Session} {address : Address} {route : Route}
    {timeout : Int} (join : Session.Joining route address timeout session es (.ok c) session') :
    ∀ k ∈ connections { link with session := session', data := some c },
      k ∈ link.connections ∨ k ∈ opened es := by
  intro k hk
  rcases List.mem_cons.1 hk with rfl | hk
  · exact .inl (List.mem_cons_self ..)
  · obtain rfl : c = k := Option.some.inj (Option.mem_toList.1 hk)
    exact .inr join.mem_opened

theorem Connecting.footprint {r : Except Failure ConnectionId} (h : Connecting link es r after) :
    Footprint link.connections es after.connections := by
  cases h with
  | kept => exact .nil (List.Subset.refl _)
  | unwritable => exact .nil (List.Subset.refl _)
  | unheard _ exchange =>
    obtain ⟨outOfStep, hafter, -⟩ := afterExchange_eq link _
    rw [hafter]
    exact footprint_of_exchange exchange
  | rejected _ exchange => exact footprint_of_exchange exchange
  | unjoined _ exchange _ join =>
    exact (footprint_of_exchange exchange).trans (join.footprint fun c hc => .inl hc)
  | joined _ exchange _ join =>
    exact (footprint_of_exchange exchange).trans (join.footprint (held_of_joining join))

theorem Moving.footprint {target : Int} {r : Except Failure Nat}
    (h : Moving target link es r after) : Footprint link.connections es after.connections := by
  have dropped : ∀ {c : ConnectionId} {result : Option Unit} {position : Nat},
      link.data = some c → Footprint link.connections [.close c result]
        { link with position, data := none }.connections := by
    intro c result position has
    refine .of_target (List.mem_cons_of_mem _ (Option.mem_toList.2 has)) ?_ ?_
    · exact fun e he => List.mem_singleton.1 he ▸ rfl
    · intro c hc
      rw [List.mem_singleton.1 hc]
      exact List.mem_cons_self ..
  cases h with
  | negative => exact .nil (List.Subset.refl _)
  | stayed => exact .nil (List.Subset.refl _)
  | moved => exact .nil (List.Subset.refl _)
  | dropped _ _ has => exact dropped has
  | unclosed _ _ _ has => exact dropped has

theorem Move.footprint (h : Move link es ps after) :
    Footprint link.connections es after.connections := by
  cases h with
  | stating stat => exact stat.footprint
  | connecting _ connect => exact connect.footprint
  | receiving _ has =>
    refine .of_target (List.mem_cons_of_mem _ (Option.mem_toList.2 has)) ?_ (List.Subset.refl _)
    exact fun e he => List.mem_singleton.1 he ▸ rfl
  | sending _ has =>
    refine .of_target (List.mem_cons_of_mem _ (Option.mem_toList.2 has)) ?_ (List.Subset.refl _)
    exact fun e he => List.mem_singleton.1 he ▸ rfl
  | moving move => exact move.footprint

theorem Moves.footprint (h : Moves link es ps after) :
    Footprint link.connections es after.connections := by
  induction h with
  | refl => exact .nil (List.Subset.refl _)
  | step move _ ih => exact move.footprint.trans ih

/-- The control connection and the direction of an open stream never change. -/
theorem Move.keeps (h : Move link es ps after) :
    after.control = link.control ∧ after.session.direction = link.session.direction := by
  cases h with
  | stating stat =>
    cases stat with
    | unusable => exact ⟨rfl, rfl⟩
    | exchanged usable =>
      obtain ⟨outOfStep, hafter, -⟩ := afterExchange_eq link _
      rw [hafter]
      exact ⟨rfl, rfl⟩
  | connecting usable connect =>
    refine ⟨?_, connect.direction_eq⟩
    cases connect with
    | unheard =>
      obtain ⟨outOfStep, hafter, -⟩ := afterExchange_eq link _
      rw [hafter]
    | _ => rfl
  | receiving => exact ⟨rfl, rfl⟩
  | sending => exact ⟨rfl, rfl⟩
  | moving move =>
    refine ⟨?_, congrArg Session.direction move.session_eq⟩
    cases move <;> rfl

theorem Moves.keeps (h : Moves link es ps after) :
    after.control = link.control ∧ after.session.direction = link.session.direction := by
  induction h with
  | refl => exact ⟨rfl, rfl⟩
  | step move _ ih => exact ⟨ih.1.trans move.keeps.1, ih.2.trans move.keeps.2⟩

/-- What a stream was asked to be never changes, and a session with an id stays as it is. -/
theorem Move.settled (h : Move link es ps after) : after.settings = link.settings ∧
    (link.session.assigned = true → after.session = link.session) := by
  cases h with
  | stating stat =>
    refine ⟨?_, fun _ => stat.session_eq⟩
    cases stat with
    | unusable => rfl
    | exchanged =>
      obtain ⟨outOfStep, hafter, -⟩ := afterExchange_eq link _
      rw [hafter]
  | connecting _ connect =>
    cases connect with
    | unheard =>
      obtain ⟨outOfStep, hafter, -⟩ := afterExchange_eq link _
      rw [hafter]
      exact ⟨rfl, fun _ => rfl⟩
    | unjoined _ _ _ join => exact ⟨rfl, join.eq_of_assigned⟩
    | joined _ _ _ join => exact ⟨rfl, join.eq_of_assigned⟩
    | _ => exact ⟨rfl, fun _ => rfl⟩
  | receiving => exact ⟨rfl, fun _ => rfl⟩
  | sending => exact ⟨rfl, fun _ => rfl⟩
  | moving move =>
    refine ⟨?_, fun _ => move.session_eq⟩
    cases move <;> rfl

theorem Moves.settled (h : Moves link es ps after) : after.settings = link.settings ∧
    (link.session.assigned = true → after.session = link.session) := by
  induction h with
  | refl => exact ⟨rfl, fun _ => rfl⟩
  | step move _ ih =>
    refine ⟨ih.1.trans move.settled.1, fun assigned => ?_⟩
    have same := move.settled.2 assigned
    rw [ih.2 (same.symm ▸ assigned), same]

/-- Giving the connections up closes at least one, and does nothing else. -/
theorem Releasing.mute {r : Except Failure Unit} (h : Releasing link es r) :
    Mute es ∧ es ≠ [] := by
  have closes : ∀ {c : ConnectionId} {r : Except Failure Unit} {es : List Event},
      Called (.close c) (fun _ => True) r es → Mute es ∧ es ≠ [] := by
    intro c r es called
    cases called <;>
      exact ⟨fun e he => List.mem_singleton.1 he ▸ ⟨rfl, rfl⟩, List.cons_ne_nil _ _⟩
  cases h with
  | single _ called => exact closes called
  | both _ called =>
    refine ⟨fun e he => ?_, List.cons_ne_nil _ _⟩
    rcases List.mem_cons.1 he with rfl | he
    · exact ⟨rfl, rfl⟩
    · exact (closes called).1 e he
  | misused => exact ⟨fun e he => List.mem_singleton.1 he ▸ ⟨rfl, rfl⟩, List.cons_ne_nil _ _⟩

theorem Releasing.opened_eq_nil {r : Except Failure Unit} (h : Releasing link es r) :
    opened es = [] := by
  cases h with
  | single _ called => cases called <;> rfl
  | both _ called => cases called <;> rfl
  | misused => rfl

/-- A stream that has just joined its session fits to its record. -/
theorem sound_of_joining {settings : Settings} {session session' : Session} {address : Address}
    {timeout : Int} {control : ConnectionId}
    (join : Session.Joining settings.route address timeout session es (.ok control) session')
    (orderly : Orderly trace) (nodup : (opened (trace ++ es)).Nodup) :
    Link.Sound { settings, session := session', address, control } (trace ++ es) := by
  obtain ⟨-, e, he⟩ | ⟨c, made, bound⟩ := join.made
  · cases he
  cases bound with
  | bound introduced line conversation =>
    have hmem : control ∈ opened es := by
      rw [made.opened_eq]
      exact List.mem_singleton.2 rfl
    have new := not_mem_opened_of_nodup nodup hmem
    have fresh := orderly.untouched new
    have before : dialogue control trace = [] := fresh.foldl_converse []
    refine ⟨?_, fun k => ?_, introduced.assigned, ⟨[], ⟨?_, nofun, nofun, ?_, ?_⟩⟩, ?_⟩
    · rw [opened_append]
      exact List.mem_append_right _ hmem
    · obtain ⟨e, later, rfl, he⟩ := made.opening
      rw [transferOn_opening new he, orderly.settled]
    · refine ⟨_, ⟨session, _, introduced, rfl⟩, ?_⟩
      rw [dialogue_append, before, conversation]
      rfl
    · exact ⟨fun _ => nofun, fun _ => rfl⟩
    · rw [delivered_append, fresh.delivered_eq_nil, made.outward.delivered_eq_nil]
      rfl
    · intro c hc
      cases hc

end Link

namespace ByteStream

variable {stream after : ByteStream}

/-- The connections that a stream holds. -/
def connections : ByteStream → List ConnectionId
  | opened link => link.connections
  | _ => []

/-- A stream fits to its record if it is not open, or does so as an open stream. -/
def Sound (stream : ByteStream) (trace : List Event) : Prop :=
  ∀ link, stream = opened link → link.Sound trace

/-- A stream that is not open fits to every record. -/
theorem Sound.of_phase (h : stream.phase ≠ .opened) : stream.Sound trace :=
  fun _ hopen => absurd (congrArg phase hopen) h

theorem Evolves.footprint (h : Evolves stream es ps after) :
    Footprint stream.connections es after.connections := by
  cases h with
  | still => exact .nil (List.Subset.refl _)
  | moved moves => exact moves.footprint
  | unjoined join => exact join.footprint nofun
  | joined join => exact join.footprint fun c hc => .inr (List.mem_singleton.1 hc ▸ join.mem_opened)
  | @released link _ _ release =>
    have closes : ∀ {c : ConnectionId} {r : Except Failure Unit} {es : List Event},
        Called (.close c) (fun _ => True) r es → ∀ e ∈ es, e.target? = some c := by
      intro c r es called e he
      cases called <;> exact List.mem_singleton.1 he ▸ rfl
    have control : link.control ∈ link.connections := List.mem_cons_self ..
    refine ⟨fun e he c hc => .inl ?_, nofun⟩
    cases release with
    | single _ called =>
      rw [closes called e he, Option.some.injEq] at hc
      exact hc ▸ control
    | both has called =>
      rcases List.mem_cons.1 he with rfl | he
      · obtain rfl : _ = c := Option.some.inj hc
        exact List.mem_cons_of_mem _ (Option.mem_toList.2 has)
      · rw [closes called e he, Option.some.injEq] at hc
        exact hc ▸ control
    | misused _ has =>
      rw [List.mem_singleton.1 he] at hc
      obtain rfl : _ = c := Option.some.inj hc
      exact List.mem_cons_of_mem _ (Option.mem_toList.2 has)

theorem Sound.connections_subset (h : stream.Sound trace) :
    stream.connections ⊆ SessionStream.opened trace := by
  cases stream with
  | opened link => exact (h link rfl).connections_subset
  | unopened => exact nofun
  | closed => exact nofun

/-- **Frame**: calls on no connection of a stream leave it fitting to its record. -/
theorem Sound.frame (h : stream.Sound trace) (orderly : Orderly trace)
    (nodup : (SessionStream.opened (trace ++ es)).Nodup)
    (untouched : ∀ c ∈ stream.connections, Untouched c es) :
    stream.Sound (trace ++ es) := by
  rintro link rfl
  exact (h link rfl).frame nodup (.inr (orderly.settled link.control)) untouched

/-- **Step lemma**: whatever a stream does, it fits to its record afterwards, and the record is in
order. -/
theorem Evolves.sound (h : Evolves stream es ps after) (orderly : Orderly trace)
    (sound : stream.Sound trace) (nodup : (SessionStream.opened (trace ++ es)).Nodup) :
    Orderly (trace ++ es) ∧ after.Sound (trace ++ es) := by
  have contained : SelfContained (trace ++ es) := by
    intro e he c hc
    rw [opened_append]
    rcases List.mem_append.1 he with he | he
    · exact List.mem_append_left _ (orderly.contained e he c hc)
    · rcases h.footprint.target e he c hc with old | new
      · exact List.mem_append_left _ (sound.connections_subset old)
      · exact List.mem_append_right _ new
  cases h with
  | still =>
    rw [List.append_nil]
    exact ⟨orderly, sound⟩
  | moved moves =>
    obtain ⟨orderly, sound⟩ := moves.sound orderly (sound _ rfl) nodup
    refine ⟨orderly, ?_⟩
    rintro link ⟨⟩
    exact sound
  | unjoined join =>
    obtain ⟨-, outward, nonempty⟩ := join.selfContained
    exact ⟨⟨contained, outward.settled nonempty trace⟩, .of_phase StreamPhase.noConfusion⟩
  | joined join =>
    obtain ⟨-, outward, nonempty⟩ := join.selfContained
    refine ⟨⟨contained, outward.settled nonempty trace⟩, ?_⟩
    rintro link ⟨⟩
    exact Link.sound_of_joining join orderly nodup
  | released release =>
    obtain ⟨mute, nonempty⟩ := release.mute
    exact ⟨⟨contained, mute.outward.settled nonempty trace⟩, .of_phase StreamPhase.noConfusion⟩

/-- An open stream that is open afterwards has moved, and holds the same control connection. -/
theorem Evolves.of_opened {link : Link} (h : Evolves (.opened link) es ps after) :
    (∃ link', after = .opened link' ∧ link.Moves es ps link' ∧ link'.control = link.control) ∨
    (after.phase = .closed ∧ ps = []) := by
  cases h with
  | still => exact .inl ⟨link, rfl, .refl link, rfl⟩
  | moved moves => exact .inl ⟨_, rfl, moves, moves.keeps.1⟩
  | released => exact .inr ⟨rfl, rfl⟩

/-- What a stream was asked to be never changes, and a session with an id stays as it is. -/
theorem Evolves.settled (h : Evolves stream es ps after) : after.settings = stream.settings ∧
    (stream.session.assigned = true → after.session = stream.session) := by
  cases h with
  | still => exact ⟨rfl, fun _ => rfl⟩
  | moved moves => exact moves.settled
  | unjoined join => exact ⟨rfl, join.eq_of_assigned⟩
  | joined join => exact ⟨rfl, join.eq_of_assigned⟩
  | released => exact ⟨rfl, fun _ => rfl⟩

/-- The direction of a stream never changes. -/
theorem Evolves.direction_eq (h : Evolves stream es ps after) :
    after.direction = stream.direction := by
  cases h with
  | still => rfl
  | moved moves => exact moves.keeps.2
  | unjoined join => exact join.direction_eq
  | joined join => exact join.direction_eq
  | released => rfl

end ByteStream

end SessionStream
