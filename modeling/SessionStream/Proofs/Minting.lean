import Mathlib.Algebra.Group.Int.Defs
import Mathlib.Algebra.Group.Nat.Defs
import SessionStream.Proofs.Greetings
import SessionStream.Proofs.Worlds

/-!
# The identity of sessions

Any number of sessions share one counter of ids, and so may the caller. An attempt to join a session
that has none yet takes an id exactly if the connection gets as far as its line. The session keeps
that id whatever becomes of the line, and all later attempts offer to resume it. The ids that are
handed out follow one another without a gap.

## Main definitions

- `Step.Negotiates` — steps of sessions and of their counter
- `Mint`, `World.mints` — the ids handed out in a run
- `World.attempts` — the attempts to join a session in a run
- `Session.Identity` — the id of a session, against the attempts to join it

## Main results

- `World.Negotiating.identity`, `World.Negotiating.counter` — what one step does to a session and to
  the counter
- `World.session_identity` — the identity of all sessions in every run
- `World.line_of_long_id` — an id that is handed out, but never offered
-/

namespace SessionStream

variable {es : List Event} {source : IdSource}

instance (es : List Event) : Decidable (Ready es) :=
  decidable_of_iff (es.any fun | .setBlocking _ (some ()) => true | _ => false) <| by
    rw [List.any_eq_true]
    constructor
    · rintro ⟨e, he, ready⟩
      split at ready
      · next c => exact ⟨c, he⟩
      · cases ready
    · rintro ⟨c, hc⟩
      exact ⟨_, hc, rfl⟩

/-- The number of the session that a step joins. -/
def Step.joined? : Step → Option Nat
  | .join number .. => some number
  | _ => none

/-- Steps that make sessions without an id, join them, take ids of their own, or do nothing to
either; all ids are from one counter. -/
def Step.Negotiates (source : IdSource) : Step → Prop
  | .newSession session => session.id = none
  | .join _ route _ _ => route.ids = source
  | .nextId source' => source' = source
  | .lastId _ => True
  | .enqueue _ => True
  | .feed .. => True
  | _ => False

/-- The first id of a counter. -/
def IdSource.first (firstId : Int) : IdSource → Int
  | .given => firstId
  | .shared => 1

/-- An id that was handed out. -/
structure Mint where
  /-- The number of the session that took it, if it was one. -/
  holder : Option Nat
  /-- The id. -/
  id : Int
  deriving DecidableEq, Repr

/-- The id that something has now and had not before. -/
def gained : Option Int → Option Int → List Int
  | none, some id => [id]
  | _, _ => []

theorem gained_self (id : Option Int) : gained id id = [] := by
  cases id <;> rfl

namespace Session

/-- The lines that were offered in the calls. -/
def linesOf (es : List Event) : List Bytes :=
  (greetings es).map Greeting.line

/-- The line of a command, if it can be written down. -/
def lineIfWritable (command : Command) : List Bytes :=
  if command.Writable then [command.line] else []

/-- The id of a session, with the calls of all attempts to join it that made a connection ready, and
the ids that were handed out for it: the first attempt took the id and offered to create the session
with it, and all others offered to resume it. -/
inductive Identity (session : Session) : List (List Event) → List Int → Prop
  | unassigned (unknown : session.id = none) : Identity session [] []
  | assigned {id : Int} {first : List Event} {later : List (List Event)}
      (known : session.id = some id)
      (created : linesOf first = lineIfWritable (.newSession session.direction id))
      (resumed : ∀ es ∈ later, linesOf es = lineIfWritable (.runSession id)) :
      Identity session (first :: later) [id]

variable {session after : Session} {r : Except Failure ConnectionId}

/-- The line that a ready connection is offered. -/
theorem Offering.linesOf_eq (h : Offering session es r after) (ready : Ready es) :
    ∃ command, Introduced session command after ∧ linesOf es = lineIfWritable command := by
  cases h with
  | early unready => exact absurd ready unready
  | unwritable _ introduced long silent =>
    refine ⟨_, introduced, ?_⟩
    rw [linesOf, silent, lineIfWritable, if_neg long]
    rfl
  | offered _ introduced writable opened_eq offer =>
    refine ⟨_, introduced, ?_⟩
    rw [linesOf, greetings_of_dialogue opened_eq offer, lineIfWritable, if_pos writable]
    rfl

/-- An attempt that makes no connection ready changes nothing about the session. -/
theorem Offering.of_not_ready (h : Offering session es r after) (unready : ¬Ready es) :
    after = session ∧ greetings es = [] := by
  cases h with
  | early _ silent => exact ⟨rfl, silent⟩
  | unwritable ready => exact absurd ready unready
  | offered ready => exact absurd ready unready

/-- **Step lemma**: an attempt to join a session keeps to its identity. -/
theorem Offering.identity (h : Offering session es r after) {calls : List (List Event)}
    {ids : List Int} (before : Identity session calls ids) :
    Identity after (calls ++ if Ready es then [es] else [])
      (ids ++ gained session.id after.id) := by
  by_cases ready : Ready es
  · obtain ⟨command, introduced, line⟩ := h.linesOf_eq ready
    rw [if_pos ready]
    cases before with
    | unassigned unknown =>
      cases introduced with
      | resumed known => rw [unknown] at known; cases known
      | created _ id =>
        rw [unknown]
        exact .assigned rfl line nofun
    | assigned known created resumed =>
      obtain ⟨rfl, rfl⟩ := introduced.of_id_eq_some known
      rw [gained_self, List.append_nil]
      refine .assigned known created fun fs hfs => ?_
      rcases List.mem_append.1 hfs with hfs | hfs
      · exact resumed fs hfs
      · rw [List.mem_singleton.1 hfs, line]
  · obtain ⟨rfl, -⟩ := h.of_not_ready ready
    rw [if_neg ready, gained_self, List.append_nil, List.append_nil]
    exact before

/-- What may become of a session: it keeps its direction, and once it has an id it stays as it
is. -/
structure Develops (before after : Session) : Prop where
  direction : after.direction = before.direction
  settled : ∀ id, before.id = some id → after = before

theorem Develops.refl (session : Session) : Develops session session :=
  ⟨rfl, fun _ _ => rfl⟩

theorem Develops.trans {before middle after : Session} (h : Develops before middle)
    (h' : Develops middle after) : Develops before after := by
  refine ⟨h'.direction.trans h.direction, fun id known => ?_⟩
  obtain rfl := h.settled id known
  exact h'.settled id known

theorem Introduced.develops {command : Command} (h : Introduced session command after) :
    Develops session after :=
  ⟨by cases h <;> rfl, fun _ known => (h.of_id_eq_some known).2⟩

theorem Offering.develops (h : Offering session es r after) : Develops session after := by
  cases h with
  | early => exact .refl _
  | unwritable _ introduced => exact introduced.develops
  | offered _ introduced => exact introduced.develops

/-- An attempt takes an id from the counter exactly if it gives it to the session. -/
theorem Numbering.gained {before after : Held Session} (h : Numbering source before after) :
    (SessionStream.gained before.own.id after.own.id = [] ∧
      after.host.ids source = before.host.ids source) ∨
    (SessionStream.gained before.own.id after.own.id = [((before.host.ids source).next : Int)] ∧
      after.host.ids source = (before.host.ids source).advance) := by
  cases h with
  | kept own ids =>
    rw [own, gained_self]
    exact .inl ⟨rfl, ids⟩
  | taken unknown id ids =>
    rw [id, unknown]
    exact .inr ⟨rfl, ids⟩

end Session

namespace World

variable {world next : World} {step : Step} {r : Except Failure Answer} {number : Nat}

/-- The id of a session of the world. -/
def sessionId (number : Nat) (world : World) : Option Int :=
  (world.sessions[number]?).bind Session.id

/-- What a step hands out: the id that it answers, or the id that a session has after it and had not
before. -/
def handedOut (step : Step) (world : World) (r : Except Failure Answer) (next : World) :
    List Mint :=
  match step, r with
  | .nextId _, .ok (.number id) => [⟨none, id⟩]
  | .join number .., _ =>
    (gained (sessionId number world) (sessionId number next)).map (⟨some number, ·⟩)
  | _, _ => []

/-- All ids handed out in a run, in the order in which they were. -/
def mints : List Step → World → List Mint
  | [], _ => []
  | step :: later, world =>
    let next := World.step step world
    handedOut step world next.1 next.2 ++ mints later next.2

/-- The calls of every attempt in a run to join the session with this number. -/
def attempts (number : Nat) : List Step → World → List (List Event)
  | [], _ => []
  | step :: later, world =>
    let next := (World.step step world).2
    let rest := attempts number later next
    if step.joined? = some number then next.trace.drop world.trace.length :: rest else rest

/-- What one step does to the sessions and to the counter. -/
inductive Negotiating (source : IdSource) (world : World) :
    Step → Except Failure Answer → List Event → World → Prop
  | founded {session : Session} {r : Except Failure Answer} {next : World}
      (unassigned : session.id = none) (sessions : next.sessions = world.sessions ++ [session])
      (ids : next.host.ids source = world.host.ids source) :
      Negotiating source world (.newSession session) r [] next
  | joined {number : Nat} {route : Route} {target : Word} {timeout : Int} {es : List Event}
      {r : Except Failure Answer} {bound : Except Failure ConnectionId} {session after : Session}
      {next : World} (has : world.sessions[number]? = some session)
      (offering : Session.Offering session es bound after)
      (numbering : Session.Numbering source ⟨session, world.host⟩ ⟨after, next.host⟩)
      (sessions : next.sessions = world.sessions.set number after) :
      Negotiating source world (.join number route target timeout) r es next
  | handed {next : World} (sessions : next.sessions = world.sessions)
      (ids : next.host.ids source = (world.host.ids source).advance) :
      Negotiating source world (.nextId source) (.ok (.number (world.host.ids source).next)) [] next
  | idle {step : Step} {r : Except Failure Answer} {next : World}
      (absent : ∀ n, step.joined? = some n → world.sessions[n]? = none)
      (nothing : ∀ source', step ≠ .nextId source') (sessions : next.sessions = world.sessions)
      (ids : next.host.ids source = world.host.ids source) : Negotiating source world step r [] next

theorem keepsIds_locate (target : Word) : Act.KeepsIds (locate target) := by
  refine .bind (Act.keepsIds_ofExcept _) fun address => ?_
  refine .bind (Host.keepsIds_write _ _ _) fun _ => ?_
  split
  · exact .bind (Host.keepsIds_write _ _ _) fun _ => Act.keepsIds_pure _
  · exact .bind (Act.keepsIds_pure _) fun _ => Act.keepsIds_pure _

theorem join_negotiates (number : Nat) (route : Route) (target : Word) (timeout : Int) :
    Act.Does (perform (.join number route target timeout)) world fun r es next =>
      Negotiating route.ids world (.join number route target timeout) r es next := by
  refine Act.Does.bind (Act.does_get_bind.2 (does_entry_bind.2 ?_))
  cases has : world.sessions[number]? with
  | none =>
    refine .idle (fun n joins => ?_) nofun rfl rfl
    obtain rfl := Option.some.inj joins
    exact has
  | some session =>
    refine Act.Does.zoom rfl (fun _ => rfl) (Act.Does.bind (Act.Does.onHeld
      (((ByteStream.locate_does _ _).keepingIds (keepsIds_locate _)).mono ?_)))
    rintro r es host ⟨⟨rfl, hr⟩, kept⟩
    cases r with
    | error e =>
      exact .joined has (.early (e := e) (fun ⟨_, h⟩ => nomatch h) rfl)
        (.kept rfl (kept _)) rfl
    | ok address =>
      refine (Session.join_does _ _ _ _).mono fun r es held ⟨join, numbering⟩ => ?_
      have numbering : Session.Numbering route.ids ⟨session, world.host⟩ held :=
        .eq_trans (by rfl) kept numbering
      cases r with
      | error e => exact .joined has join.offering numbering rfl
      | ok c =>
        refine Act.does_pure.2 ?_
        rw [List.append_nil]
        exact .joined has join.offering numbering rfl

/-- **Negotiations**: every step of sessions and of their counter is one. -/
theorem negotiates_does (negotiates : step.Negotiates source) :
    Act.Does (perform step) world fun r es next => Negotiating source world step r es next := by
  cases step with
  | newSession session =>
    refine Act.does_get_bind.2 ?_
    refine (Act.does_bind_of_outcome (s := world) (a := ()) (t := { world with
      sessions := world.sessions ++ [session] }) rfl rfl).2 ?_
    exact Act.does_pure.2 (.founded negotiates rfl rfl)
  | join number route target timeout =>
    obtain rfl : route.ids = source := negotiates
    exact join_negotiates number route target timeout
  | nextId source' =>
    obtain rfl : source' = source := negotiates
    have hnet : (world.host.setIds source' (world.host.ids source').advance).network =
        world.host.network := by cases source' <;> rfl
    refine (Act.does_bind_of_outcome (s := world) (a := (world.host.ids source').next)
      (t := { world with host := world.host.setIds source' (world.host.ids source').advance })
      rfl hnet).2 (Act.does_pure.2 (.handed rfl ?_))
    cases source' <;> rfl
  | lastId source' => exact Act.does_get_bind.2 (Act.does_pure.2 (.idle nofun nofun rfl rfl))
  | enqueue peers => exact ⟨[], Network.Extends.of_trace_eq rfl rfl, .idle nofun nofun rfl rfl⟩
  | feed c segments =>
    refine Act.does_get_bind.2 (Act.Does.bind (Act.Does.map ?_))
    unfold entry
    cases world.host.network.connections[c.index]? with
    | none => exact Act.does_throw.2 (.idle nofun nofun rfl rfl)
    | some peer =>
      exact Act.does_pure.2 ⟨[], Network.Extends.of_trace_eq rfl List.length_set,
        .idle nofun nofun rfl rfl⟩
  | _ => exact absurd negotiates id

/-- Every step, as a negotiation with the events that it adds to the record. -/
theorem step_negotiates (negotiates : step.Negotiates source) (world : World) :
    ∃ es, world.host.network.Extends es (World.step step world).2.host.network ∧
      Negotiating source world step (World.step step world).1 es (World.step step world).2 :=
  step_of_does (negotiates_does negotiates)

/-- The attempt to join the session with this number that a step was, if it made a connection
ready. -/
def readied (number : Nat) (step : Step) (es : List Event) : List (List Event) :=
  if step.joined? = some number ∧ Ready es then [es] else []

/-- What the ids and the attempts of one session come to. A session that does not exist has
neither. -/
def Tracks (number : Nat) (world : World) (calls : List (List Event)) (ids : List Int) : Prop :=
  match world.sessions[number]? with
  | some session => session.Identity calls ids
  | none => calls = [] ∧ ids = []

section Negotiating

variable {calls : List (List Event)} {ids : List Int}

theorem sessionId_eq {session : Session} (has : world.sessions[number]? = some session) :
    sessionId number world = session.id := by
  rw [sessionId, has]
  rfl

theorem sessions_set {session after : Session} (has : world.sessions[number]? = some session)
    (sessions : next.sessions = world.sessions.set number after) :
    next.sessions[number]? = some after ∧
      ∀ n, n ≠ number → next.sessions[n]? = world.sessions[n]? := by
  obtain ⟨inside, -⟩ := List.getElem?_eq_some_iff.1 has
  rw [sessions]
  exact ⟨List.getElem?_set_self inside, fun n hn => List.getElem?_set_ne (Ne.symm hn)⟩

/-- An attempt hands out what the session gained. -/
theorem handedOut_join {session after : Session} {route : Route} {target : Word} {timeout : Int}
    (has : world.sessions[number]? = some session)
    (sessions : next.sessions = world.sessions.set number after) :
    handedOut (.join number route target timeout) world r next =
      (gained session.id after.id).map (⟨some number, ·⟩) := by
  rw [handedOut, sessionId_eq has, sessionId_eq (sessions_set has sessions).1]

/-- A step that is on no session and asks for no id hands out nothing. -/
theorem handedOut_idle (absent : ∀ n, step.joined? = some n → world.sessions[n]? = none)
    (nothing : ∀ source', step ≠ .nextId source') (sessions : next.sessions = world.sessions) :
    handedOut step world r next = [] := by
  cases step with
  | nextId source' => exact absurd rfl (nothing source')
  | join number =>
    have missing := absent number rfl
    rw [handedOut, sessionId, sessionId, sessions, missing]
    rfl
  | _ => rfl

/-- **Step lemma**: a step hands out the next id of the counter, or none. -/
theorem Negotiating.counter (h : Negotiating source world step r es next) :
    (handedOut step world r next = [] ∧ next.host.ids source = world.host.ids source) ∨
    ∃ holder, handedOut step world r next = [⟨holder, (world.host.ids source).next⟩] ∧
      next.host.ids source = (world.host.ids source).advance := by
  cases h with
  | founded _ _ ids => exact .inl ⟨rfl, ids⟩
  | joined has offering numbering sessions =>
    rw [handedOut_join has sessions]
    rcases numbering.gained with ⟨nothing, ids⟩ | ⟨one, ids⟩
    · exact .inl ⟨by rw [nothing, List.map_nil], ids⟩
    · exact .inr ⟨_, by rw [one, List.map_singleton], ids⟩
  | handed _ ids => exact .inr ⟨none, rfl, ids⟩
  | idle absent nothing sessions ids => exact .inl ⟨handedOut_idle absent nothing sessions, ids⟩

/-- The ids that one session took, seen from another one. -/
theorem ids_of_holder (n : Nat) (ids : List Int) :
    ((ids.map fun id => (⟨some n, id⟩ : Mint)).filter (·.holder = some number)).map Mint.id =
      if n = number then ids else [] := by
  by_cases same : n = number
  · induction ids with
    | nil => simp
    | cons id ids ih => simpa [same] using ih
  · simp [same]

theorem readied_nil (number : Nat) (step : Step) : readied number step [] = [] :=
  if_neg fun ⟨_, _, h⟩ => nomatch h

/-- Where nothing happens to a session, nothing has to be looked at. -/
theorem Tracks.of_same (h : Tracks number world calls ids)
    (same : next.sessions[number]? = world.sessions[number]?) : Tracks number next calls ids := by
  unfold Tracks at h ⊢
  rwa [same]

/-- **Step lemma**: a step keeps to the identity of every session. -/
theorem Negotiating.identity (h : Negotiating source world step r es next)
    (tracks : Tracks number world calls ids) :
    Tracks number next (calls ++ readied number step es)
      (ids ++ ((handedOut step world r next).filter (·.holder = some number)).map Mint.id) := by
  cases h with
  | founded unassigned sessions =>
    rw [readied_nil, List.append_nil]
    change Tracks number next calls (ids ++ [])
    rw [List.append_nil]
    by_cases inside : number < world.sessions.length
    · exact tracks.of_same (by rw [sessions, List.getElem?_append_left inside])
    · have missing : world.sessions[number]? = none := List.getElem?_eq_none (by omega)
      rw [Tracks, missing] at tracks
      obtain ⟨rfl, rfl⟩ := tracks
      unfold Tracks
      split
      · next session has =>
        rw [sessions, List.getElem?_append_right (by omega)] at has
        obtain rfl := List.mem_singleton.1 (List.mem_of_getElem? has)
        exact .unassigned unassigned
      · exact ⟨rfl, rfl⟩
  | @joined n _ _ _ _ _ _ session after _ has offering numbering sessions =>
    obtain ⟨here, elsewhere⟩ := sessions_set has sessions
    rw [handedOut_join has sessions]
    by_cases own : n = number
    · subst own
      rw [Tracks, has] at tracks
      have identity := offering.identity tracks
      rw [Tracks, here, ids_of_holder, if_pos rfl, readied]
      simpa [Step.joined?] using identity
    · rw [ids_of_holder, if_neg own, readied, if_neg fun both => own (Option.some.inj both.1),
        List.append_nil, List.append_nil]
      exact tracks.of_same (elsewhere number (Ne.symm own))
  | handed sessions =>
    rw [readied_nil, List.append_nil]
    change Tracks number next calls (ids ++ [])
    rw [List.append_nil]
    exact tracks.of_same (by rw [sessions])
  | idle absent nothing sessions =>
    rw [handedOut_idle absent nothing sessions, readied_nil, List.filter_nil, List.map_nil,
      List.append_nil, List.append_nil]
    exact tracks.of_same (by rw [sessions])

/-- **Step lemma**: no session is lost, and one with an id stays as it is. -/
theorem Negotiating.develops (h : Negotiating source world step r es next) {session : Session}
    (has : world.sessions[number]? = some session) :
    ∃ now, next.sessions[number]? = some now ∧ session.Develops now := by
  obtain ⟨inside, -⟩ := List.getElem?_eq_some_iff.1 has
  cases h with
  | founded _ sessions =>
    exact ⟨session, by rw [sessions, List.getElem?_append_left inside, has], .refl _⟩
  | @joined n _ _ _ _ _ _ session' after _ has' offering _ sessions =>
    obtain ⟨here, elsewhere⟩ := sessions_set has' sessions
    by_cases own : n = number
    · subst own
      obtain rfl := Option.some.inj (has.symm.trans has')
      exact ⟨after, here, offering.develops⟩
    · exact ⟨session, by rw [elsewhere number (Ne.symm own), has], .refl _⟩
  | handed sessions => exact ⟨session, by rw [sessions, has], .refl _⟩
  | idle _ _ sessions => exact ⟨session, by rw [sessions, has], .refl _⟩

/-- **Step lemma**: an attempt that makes no connection ready offers nothing, and leaves all
sessions and the counter as they are. -/
theorem Negotiating.unchanged {n : Nat} {route : Route} {target : Word} {timeout : Int}
    (h : Negotiating source world (.join n route target timeout) r es next) (unready : ¬Ready es) :
    greetings es = [] ∧ next.sessions = world.sessions ∧
      next.host.ids source = world.host.ids source := by
  cases h with
  | @joined _ _ _ _ _ _ _ session after _ has offering numbering sessions =>
    obtain ⟨rfl, silent⟩ := offering.of_not_ready unready
    obtain ⟨inside, hget⟩ := List.getElem?_eq_some_iff.1 has
    refine ⟨silent, by rw [sessions, ← hget, List.set_getElem_self], ?_⟩
    rcases numbering.gained with ⟨-, ids⟩ | ⟨one, -⟩
    · exact ids
    · rw [gained_self] at one
      cases one
  | idle _ _ sessions ids => exact ⟨rfl, sessions, ids⟩

end Negotiating

section Runs

variable {steps : List Step} {calls : List (List Event)} {ids : List Int}

/-- **Run lemma**: every run keeps to the identity of every session. -/
theorem tracks_after (negotiates : ∀ step ∈ steps, step.Negotiates source)
    (tracks : Tracks number world calls ids) : Tracks number (after steps world)
      (calls ++ (attempts number steps world).filter Ready)
      (ids ++ ((mints steps world).filter (·.holder = some number)).map Mint.id) := by
  induction steps generalizing world calls ids with
  | nil =>
    rw [show (attempts number [] world).filter Ready = [] from rfl, List.append_nil]
    rw [show ((mints [] world).filter (·.holder = some number)).map Mint.id = [] from rfl,
      List.append_nil]
    exact tracks
  | cons step later ih =>
    obtain ⟨now, rest⟩ := List.forall_mem_cons.1 negotiates
    obtain ⟨es, grows, negotiating⟩ := step_negotiates now world
    have next := ih rest (negotiating.identity tracks)
    have calls_eq : (attempts number (step :: later) world).filter Ready =
        readied number step es ++
          (attempts number later (World.step step world).2).filter Ready := by
      have grown : (World.step step world).2.trace = world.trace ++ es := grows.trace_eq
      rw [attempts, grown, List.drop_left, readied]
      by_cases joins : step.joined? = some number
      · by_cases ready : Ready es <;> simp [joins, ready]
      · simp [joins]
    rw [after_cons, calls_eq, mints, List.filter_append, List.map_append, ← List.append_assoc,
      ← List.append_assoc]
    exact next

/-- **Run lemma**: the ids that are handed out follow one another. -/
theorem counter_after (negotiates : ∀ step ∈ steps, step.Negotiates source) :
    ((after steps world).host.ids source).last =
        (world.host.ids source).last + (mints steps world).length ∧
      (mints steps world).map Mint.id = (List.range (mints steps world).length).map fun i : Nat =>
        ((world.host.ids source).last + 1 + i : Int) := by
  induction steps generalizing world with
  | nil => exact ⟨rfl, rfl⟩
  | cons step later ih =>
    obtain ⟨now, rest⟩ := List.forall_mem_cons.1 negotiates
    obtain ⟨es, -, negotiating⟩ := step_negotiates now world
    obtain ⟨last, consecutive⟩ := @ih (World.step step world).2 rest
    rw [after_cons, mints]
    rcases negotiating.counter with ⟨nothing, same⟩ | ⟨holder, one, advanced⟩
    · rw [nothing, List.nil_append]
      rw [same] at last consecutive
      exact ⟨last, consecutive⟩
    · rw [advanced] at last consecutive
      rw [one, List.singleton_append, List.length_cons]
      refine ⟨by simp only [last, SessionIds.advance, SessionIds.next]; omega, ?_⟩
      rw [List.map_cons, consecutive, List.range_succ_eq_map, List.map_cons, List.map_map]
      refine congrArg₂ _ (by simp [SessionIds.next]) (List.map_congr_left fun i _ => ?_)
      simp only [SessionIds.advance, SessionIds.next, Function.comp_apply]
      omega

/-- **Run lemma**: no session is lost, and one with an id stays as it is. -/
theorem develops_after (negotiates : ∀ step ∈ steps, step.Negotiates source) {session : Session}
    (has : world.sessions[number]? = some session) :
    ∃ now, (after steps world).sessions[number]? = some now ∧ session.Develops now := by
  induction steps generalizing world session with
  | nil => exact ⟨session, has, .refl _⟩
  | cons step later ih =>
    obtain ⟨now, rest⟩ := List.forall_mem_cons.1 negotiates
    obtain ⟨es, -, negotiating⟩ := step_negotiates now world
    obtain ⟨middle, has', first⟩ := negotiating.develops has
    obtain ⟨last, has'', later⟩ := ih rest has'
    exact ⟨last, has'', first.trans later⟩

/-- In the beginning there is no session, and the next id is the first one. -/
theorem counter_begin {firstId : Int} {waiting : List Peer}
    (start : begin firstId waiting = .ok world) (source : IdSource) :
    world.sessions = [] ∧ ((world.host.ids source).last : Int) =
      source.first firstId - 1 := by
  unfold begin SessionIds.startingAt at start
  split at start
  · cases start
  · next positive =>
    cases start
    refine ⟨rfl, ?_⟩
    cases source with
    | given => exact Int.toNat_of_nonneg (by omega)
    | shared => rfl

/-- **Identity.** Take any run of attempts to join sessions that are made without an id, and of
callers that ask for an id, all with the same counter. The ids that were handed out follow one
another from the first one on, and the counter tells the last one. The first attempt to join a
session that made a connection ready took the one id that was ever handed out for it, and offered to
create the session with it; all later ones that made a connection ready offered to resume it with
that id; a line whose id is too long to be written down is not offered. A session keeps its id. An
attempt that makes no connection ready offers nothing and changes neither a session nor the
counter. -/
theorem session_identity {firstId : Int} {waiting : List Peer}
    (start : begin firstId waiting = .ok world) (source : IdSource) (steps : List Step)
    (negotiates : ∀ step ∈ steps, step.Negotiates source) :
    let first := source.first firstId
    let reached := after steps world
    let handed := mints steps world
    handed.map Mint.id = (List.range handed.length).map (fun i : Nat => first + i) ∧
    (handed.map Mint.id).Pairwise (· < ·) ∧
    (World.step (.lastId source) reached).1 = .ok (.number (first - 1 + handed.length)) ∧
    (∀ (number : Nat) (session : Session), reached.sessions[number]? = some session →
      session.Identity ((attempts number steps world).filter Ready)
        ((handed.filter (·.holder = some number)).map Mint.id)) ∧
    (∀ (before later : List Step) (number : Nat) (session : Session), steps = before ++ later →
      (after before world).sessions[number]? = some session →
        ∃ now, reached.sessions[number]? = some now ∧ session.Develops now) ∧
    ∀ number route target timeout, route.ids = source →
      let next := (World.step (.join number route target timeout) reached).2
      let es := next.trace.drop reached.trace.length
      ¬Ready es → greetings es = [] ∧ next.sessions = reached.sessions ∧
        next.host.ids source = reached.host.ids source := by
  intro first reached handed
  obtain ⟨none, beginning⟩ := counter_begin start source
  obtain ⟨last, consecutive⟩ := @counter_after source world steps negotiates
  have ids : handed.map Mint.id = (List.range handed.length).map fun i : Nat => first + i := by
    rw [consecutive, beginning]
    exact List.map_congr_left fun i _ => by omega
  refine ⟨ids, ?_, ?_, fun number session has => ?_, ?_, ?_⟩
  · rw [ids]
    exact List.pairwise_lt_range.map _ fun a b lt => by omega
  · change Except.ok (Answer.number ((reached.host.ids source).last : Int)) = _
    rw [last, Int.natCast_add, beginning]
  · have fresh : Tracks number world [] [] := by
      rw [Tracks, none]
      exact ⟨rfl, rfl⟩
    have tracks := tracks_after negotiates fresh
    rw [Tracks, has] at tracks
    simpa only [List.nil_append] using tracks
  · rintro before later number session rfl has
    rw [show reached = after later (after before world) from after_append ..]
    exact develops_after (fun s hs => negotiates s (List.mem_append_right _ hs)) has
  · intro number route target timeout same next es unready
    have negotiates : (Step.join number route target timeout).Negotiates source := same
    obtain ⟨fs, grows, negotiating⟩ := step_negotiates negotiates reached
    have grown : next.trace = reached.trace ++ fs := grows.trace_eq
    have hes : es = fs := by rw [show es = next.trace.drop _ from rfl, grown, List.drop_left]
    rw [hes] at unready ⊢
    exact negotiating.unchanged unready

/-- Two sessions and a caller. One session is refused a connection, then takes an id for a line that
is not accepted, and resumes with that id. -/
theorem session_identity_interleaved :
    let waiting : List Peer :=
      [{ connectFault := some (.system 111 "refused") }, { acceptances := [.upTo 0] }]
    let world : World := { host := { network := { waiting }, givenIds := ⟨4⟩ } }
    let join (number : Nat) : Step := .join number ⟨.direct, .given⟩ "/run/letters" 0
    let steps : List Step :=
      [.newSession { direction := .read }, .newSession { direction := .write },
      join 0, .nextId .given, join 0, join 1, .nextId .given, join 0]
    mints steps world = [⟨none, 5⟩, ⟨some 0, 6⟩, ⟨some 1, 7⟩, ⟨none, 8⟩] ∧
      (attempts 0 steps world).map Session.linesOf =
        [[], [(Command.newSession .read 6).line], [(Command.runSession 6).line]] ∧
      ∃ session, (after steps world).sessions[0]? = some session ∧
        session.Identity ((attempts 0 steps world).filter Ready) [6] := by
  intro waiting world join steps
  have start : begin 5 waiting = .ok world := rfl
  have negotiates : ∀ step ∈ steps, step.Negotiates .given := by
    intro step hstep
    simp only [steps, List.mem_cons, List.not_mem_nil, or_false] at hstep
    rcases hstep with rfl | rfl | rfl | rfl | rfl | rfl | rfl | rfl <;> rfl
  have handed : mints steps world = [⟨none, 5⟩, ⟨some 0, 6⟩, ⟨some 1, 7⟩, ⟨none, 8⟩] := by
    decide +kernel
  have there : (after steps world).sessions[0]?.isSome = true := by decide +kernel
  obtain ⟨session, has⟩ := Option.isSome_iff_exists.1 there
  obtain ⟨-, -, -, identity, -⟩ := session_identity start .given steps negotiates
  have identity := identity 0 session has
  rw [handed] at identity
  exact ⟨handed, by decide +kernel, session, has, identity⟩

/-- An id that is too long to be written down is handed out for the session, whose attempt made a
connection ready, but no line is offered. -/
theorem line_of_long_id :
    let world : World := { host := { givenIds := ⟨10 ^ 4300 - 2⟩ } }
    let steps : List Step := [.nextId .given, .newSession { direction := .read },
      .join 0 ⟨.direct, .given⟩ "/run/letters" 3000]
    begin (10 ^ 4300 - 1) [] = .ok world ∧
      (run steps world).1 =
        [.ok (.number (10 ^ 4300 - 1)), .ok (.number 0), .error .numberTooLong] ∧
      mints steps world = [⟨none, 10 ^ 4300 - 1⟩, ⟨some 0, 10 ^ 4300⟩] ∧
      (∀ es ∈ attempts 0 steps world, Ready es) ∧
      (attempts 0 steps world).map Session.linesOf = [[]] := by
  decide +kernel

end Runs

end World

end SessionStream
