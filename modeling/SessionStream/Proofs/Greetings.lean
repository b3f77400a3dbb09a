import Mathlib.Data.List.Basic
import SessionStream.Proofs.Streams

/-!
# The first line on a connection

A connection is bound to its session by the first line that is offered on it. This file reads these
lines off the record, in the order in which the connections were made, and says which line a new
connection is offered. What is said on a connection later changes nothing about its first line.

## Main definitions

- `Greeting`, `greeting` — the first line on a connection, and what was not accepted of it
- `greetings` — the first lines on all connections
- `Ready` — a connection was made and put into blocking mode
- `Session.Offering` — what an attempt to join a session offers

## Main results

- `greetings_append` — new connections add their first lines to those of the old ones
- `Session.Joining.offering` — a line is offered exactly if the connection is ready and the line can
  be written down
-/

namespace SessionStream

variable {c : ConnectionId} {es fs trace : List Event} {held after : List ConnectionId}

/-- The first line that was offered on a connection. -/
structure Greeting where
  /-- The line. -/
  line : Bytes
  /-- What has not been accepted of it. -/
  left : Bytes
  deriving DecidableEq, Repr

/-- The whole line was accepted. -/
def Greeting.Whole (g : Greeting) : Prop :=
  g.left = []

instance (g : Greeting) : Decidable g.Whole :=
  inferInstanceAs (Decidable (_ = _))

/-- The first line that was offered on a connection, if there was one. -/
def greeting (c : ConnectionId) (es : List Event) : Option Greeting :=
  (dialogue c es).getLast?.map fun x => ⟨x.line, x.left⟩

/-- The first lines on all connections that have one, in the order in which these were made. -/
def greetings (es : List Event) : List Greeting :=
  (opened es).filterMap fun c => greeting c es

theorem greetings_of_opened_eq_nil (h : opened es = []) : greetings es = [] := by
  rw [greetings, h, List.filterMap_nil]

theorem greeting_of_dialogue_eq_nil (h : dialogue c es = []) : greeting c es = none := by
  rw [greeting, h]
  rfl

/-- The first line on the one connection that was made. -/
theorem greetings_of_dialogue {x : Exchange} (opened_eq : opened es = [c])
    (offer : dialogue c es = [x]) : greetings es = [⟨x.line, x.left⟩] := by
  rw [greetings, opened_eq, List.filterMap_cons, greeting, offer]
  rfl

/-- A connection has been greeted, and its first line is over. -/
def Greeted (c : ConnectionId) (es : List Event) : Prop :=
  ∃ x, (dialogue c es).getLast? = some x ∧ x.sending = false

/-- One more call leaves the first line as it is, once that line is over. -/
theorem getLast?_converse {xs : List Exchange} {x : Exchange} (last : xs.getLast? = some x)
    (ended : x.sending = false) (e : Event) :
    ∃ heard, (converse c xs e).getLast? = some { x with heard } := by
  have still : ∃ heard, xs.getLast? = some { x with heard } := ⟨x.heard, last⟩
  have added : ∀ y : Exchange, ∃ heard, (y :: xs).getLast? = some { x with heard } := by
    intro y
    rw [List.getLast?_cons, last]
    exact ⟨x.heard, rfl⟩
  unfold converse
  split
  · split
    · cases xs with
      | nil => cases last
      | cons y earlier =>
        dsimp only
        split
        · next sending =>
          cases earlier with
          | nil =>
            obtain rfl : y = x := Option.some.inj last
            rw [ended] at sending
            cases sending
          | cons => exact still
        · exact added _
    · exact still
  · split
    · cases xs with
      | nil => cases last
      | cons y earlier =>
        cases earlier with
        | nil =>
          obtain rfl : y = x := Option.some.inj last
          exact ⟨_, rfl⟩
        | cons => exact still
    · exact still
  · exact still

/-- A connection that has been greeted stays so, with the same line. -/
theorem Greeted.append (h : Greeted c trace) (es : List Event) :
    Greeted c (trace ++ es) ∧ greeting c (trace ++ es) = greeting c trace := by
  obtain ⟨x, last, ended⟩ := h
  obtain ⟨heard, later⟩ : ∃ heard, (dialogue c (trace ++ es)).getLast? = some { x with heard } := by
    rw [dialogue_append]
    generalize dialogue c trace = xs at last
    induction es generalizing xs x with
    | nil => exact ⟨x.heard, last⟩
    | cons e es ih =>
      obtain ⟨heard, next⟩ := getLast?_converse last ended e
      obtain ⟨heard', later⟩ := ih { x with heard } ended _ next
      exact ⟨heard', later⟩
  refine ⟨⟨_, later, ended⟩, ?_⟩
  rw [greeting, greeting, later, last]
  rfl

/-- The connections that are held have been greeted, and nobody has called on others than those
made. -/
structure Welcomed (held : List ConnectionId) (trace : List Event) : Prop where
  contained : SelfContained trace
  held_made : held ⊆ opened trace
  greeted : ∀ c ∈ held, Greeted c trace

/-- **New connections add their first lines** to those of the old ones. -/
theorem Welcomed.greetings_append (h : Welcomed held trace) (footprint : Footprint held es after)
    (nodup : (opened (trace ++ es)).Nodup) :
    greetings (trace ++ es) = greetings trace ++ greetings es := by
  have old : ∀ c ∈ opened trace, greeting c (trace ++ es) = greeting c trace := by
    intro c hc
    by_cases hheld : c ∈ held
    · exact ((h.greeted c hheld).append es).2
    · have untouched := footprint.untouched nodup hc hheld
      rw [greeting, untouched.dialogue_append, greeting]
  have new : ∀ c ∈ opened es, greeting c (trace ++ es) = greeting c es := by
    intro c hc
    have fresh : Untouched c trace := h.contained.untouched (not_mem_opened_of_nodup nodup hc)
    have silent : dialogue c trace = [] := fresh.foldl_converse []
    rw [greeting, dialogue_append, silent, greeting, dialogue]
  rw [greetings, opened_append, List.filterMap_append, List.filterMap_congr old,
    List.filterMap_congr new, greetings, greetings]

/-- What is held afterwards has been greeted if what is new has. -/
theorem Welcomed.append (h : Welcomed held trace) (footprint : Footprint held es after)
    (nodup : (opened (trace ++ es)).Nodup)
    (new : ∀ c ∈ after, c ∈ opened es → Greeted c es) : Welcomed after (trace ++ es) where
  contained := by
    intro e he c hc
    rw [opened_append, List.mem_append]
    rcases List.mem_append.1 he with he | he
    · exact .inl (h.contained e he c hc)
    · exact (footprint.target e he c hc).imp_left fun hheld => h.held_made hheld
  held_made c hc := by
    rw [opened_append, List.mem_append]
    exact (footprint.held c hc).imp_left fun hheld => h.held_made hheld
  greeted c hc := by
    rcases footprint.held c hc with old | made
    · exact ((h.greeted c old).append es).1
    · have fresh : Untouched c trace := h.contained.untouched (not_mem_opened_of_nodup nodup made)
      have silent : dialogue c trace = [] := fresh.foldl_converse []
      obtain ⟨x, last, ended⟩ := new c hc made
      refine ⟨x, ?_, ended⟩
      rwa [dialogue_append, silent]

-- ════════════════════════════════════════════════════════════════════════
-- The line of a new connection
-- ════════════════════════════════════════════════════════════════════════

/-- Among these calls a connection was put into blocking mode, so that it is ready for its line. -/
def Ready (es : List Event) : Prop :=
  ∃ c, Event.setBlocking c (some ()) ∈ es

theorem Dialing.mute {address : Address} {timeout : Int} {dialer : Dialer}
    {r : Except Failure ConnectionId} (h : Dialing address timeout dialer es r) : Mute es := by
  cases h with
  | socketRefused c _ fault gone =>
    refine Mute.append ?_ gone.mute
    simp [Mute, Event.incoming, Event.outgoing]
  | _ => simp [Mute, Event.incoming, Event.outgoing]

theorem GivenUp.not_ready {cause final e : Failure} (h : GivenUp c cause final es e) :
    ¬Ready es := by
  rintro ⟨c', ready⟩
  cases h <;> simp at ready

theorem Dialing.not_ready {address : Address} {timeout : Int} {dialer : Dialer}
    {r : Except Failure ConnectionId} (h : Dialing address timeout dialer es r) : ¬Ready es := by
  rintro ⟨c, ready⟩
  cases h with
  | socketRefused c' _ fault gone =>
    rcases List.mem_append.1 ready with ready | ready
    · simp at ready
    · exact gone.not_ready ⟨c, ready⟩
  | _ => simp at ready

/-- Calls that move no bytes greet nobody. -/
theorem Mute.greetings_eq_nil (h : Mute es) : greetings es = [] := by
  refine List.filterMap_eq_nil_iff.2 fun c _ => greeting_of_dialogue_eq_nil ?_
  exact h.foldl_converse c []

namespace Session

/-- What an attempt to join a session offers: nothing before the connection is ready, and the line
of the session then, if it can be written down. -/
inductive Offering (session : Session) : List Event → Except Failure ConnectionId → Session → Prop
  | early {es : List Event} {e : Failure} (unready : ¬Ready es) (silent : greetings es = []) :
      Offering session es (.error e) session
  | unwritable {es : List Event} {command : Command} {after : Session} (ready : Ready es)
      (introduced : Introduced session command after) (long : ¬command.Writable)
      (silent : greetings es = []) : Offering session es (.error .numberTooLong) after
  | offered {es : List Event} {r : Except Failure ConnectionId} {c : ConnectionId}
      {command : Command} {after : Session} {left : Bytes} (ready : Ready es)
      (introduced : Introduced session command after) (writable : command.Writable)
      (opened_eq : opened es = [c])
      (offer : dialogue c es = [{ line := command.line, left, sending := false }])
      (leaves : Leaves left r) (bound : ∀ c', r = .ok c' → c' = c) : Offering session es r after

theorem Joining.offering {route : Route} {address : Address} {timeout : Int}
    {session after : Session} {r : Except Failure ConnectionId}
    (h : Joining route address timeout session es r after) : Offering session es r after := by
  -- The one line on a connection that has just been made.
  have line : ∀ {dialed sends rest : List Event} {c : ConnectionId} {command : Command}
      {r : Except Failure Unit}, Mute dialed → Wire.Transmission c command.line sends r →
      Mute rest → ∃ left, Leaves left r ∧
        dialogue c (dialed ++ .setBlocking c (some ()) :: (sends ++ rest)) =
          [{ line := command.line, left, sending := false }] := by
    intro dialed sends rest c command r mute transmission calm
    have silent : Paused [] := by simp [Paused]
    obtain ⟨left, hfold, hleft⟩ := transmission.foldl_converse command.line_ne_nil silent
    refine ⟨left, hleft, ?_⟩
    rw [dialogue, List.foldl_append, mute.foldl_converse, List.foldl_cons, List.foldl_append]
    change rest.foldl _ (sends.foldl _ []) = _
    rw [hfold, calm.foldl_converse]
  have ready : ∀ {dialed later : List Event} {c : ConnectionId},
      Ready (dialed ++ .setBlocking c (some ()) :: later) :=
    ⟨_, List.mem_append_right _ (List.mem_cons_self ..)⟩
  cases h with
  | undialed dial => exact .early dial.not_ready dial.mute.greetings_eq_nil
  | @unset es fs c fault e dial gone =>
    refine .early ?_ (Mute.greetings_eq_nil ?_)
    · rintro ⟨c', found⟩
      rcases List.mem_append.1 found with found | found
      · exact dial.not_ready ⟨c', found⟩
      · rcases List.mem_cons.1 found with found | found
        · cases found
        · exact gone.not_ready ⟨c', found⟩
    · refine dial.mute.append fun e he => ?_
      rcases List.mem_cons.1 he with rfl | he
      · exact ⟨rfl, rfl⟩
      · exact gone.mute e he
  | unwritable dial introduced long =>
    refine .unwritable ready introduced long (Mute.greetings_eq_nil (dial.mute.append ?_))
    simp [Mute, Event.incoming, Event.outgoing]
  | @unsent es fs gs c command after cause e dial introduced sends gone writable =>
    obtain ⟨left, leaves, offer⟩ := line dial.mute sends gone.mute
    refine .offered ready introduced writable ?_ offer leaves (by simp)
    rw [opened_append, dial.made_of_ok.1.opened_eq, opened_cons, opened_append,
      sends.opened_eq_nil, gone.opened_eq_nil]
    rfl
  | @joined es fs c command after dial introduced sends writable =>
    have calm : Mute [] := fun _ h => absurd h List.not_mem_nil
    obtain ⟨left, leaves, offer⟩ := line dial.mute sends calm
    rw [List.append_nil] at offer
    refine .offered ready introduced writable ?_ offer leaves fun c' same => ?_
    · rw [opened_append, dial.made_of_ok.1.opened_eq, opened_cons, sends.opened_eq_nil]
      rfl
    · exact (Except.ok.inj same).symm

end Session

end SessionStream
