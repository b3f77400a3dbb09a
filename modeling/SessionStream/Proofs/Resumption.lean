import SessionStream.Proofs.Greetings
import SessionStream.Proofs.Histories

/-!
# Sessions are created before they are resumed

The first line of a stream creates its session, and all later ones resume it. But the line may fail:
a stream that is opened again after that has its id already, and resumes a session that the server
may never have heard of. So every connection that resumes is behind one that created the session
exactly if the first line was accepted whole, or if there was no other.

## Main definitions

- `CreatedFirst` — every line that resumes a session is behind one that created it
- `Introductions` — the first lines of a session
- `ByteStream.Introducing` — a stream and the first lines on its connections

## Main results

- `Introductions.createdFirst_iff` — the law, read off the first lines
- `World.createdFirst_iff_first_whole` — the same in every world that a run leads to
- `World.resumed_without_creation` — a session that is resumed though it was never created
-/

namespace SessionStream

variable {c : ConnectionId} {es fs trace : List Event} {ps : List Placed}

/-- A line that resumes a session is behind one that created the session with the same id and was
accepted whole. -/
def CreatedFirst (direction : Direction) (gs : List Greeting) : Prop :=
  ∀ before g later id, gs = before ++ g :: later → g.line = (Command.runSession id).line →
    ∃ g' ∈ before, g'.line = (Command.newSession direction id).line ∧ g'.Whole

/-- The first lines on the connections of a session: none as long as no id was handed out, or if
the id is too long; else one that creates the session, and then some that resume it. -/
inductive Introductions (session : Session) : List Greeting → Prop
  | unassigned (unknown : session.id = none) : Introductions session []
  | unwritable {id : Int} (known : session.id = some id) (long : ¬Text.Writable id) :
      Introductions session []
  | begun {id : Int} {left : Bytes} {later : List Greeting} (known : session.id = some id)
      (writable : Text.Writable id)
      (resumed : ∀ g ∈ later, g.line = (Command.runSession id).line) :
      Introductions session (⟨(Command.newSession session.direction id).line, left⟩ :: later)

theorem newSession_line_ne (direction : Direction) (id id' : Int) :
    (Command.newSession direction id).line ≠ (Command.runSession id').line :=
  fun same => nomatch Command.line_injective same

/-- **The law**: all that resume the session come after its creation exactly if the first line was
accepted whole, or if it is the only one. -/
theorem Introductions.createdFirst_iff {session : Session} {gs : List Greeting}
    (h : Introductions session gs) :
    CreatedFirst session.direction gs ↔ (∀ g ∈ gs.head?, g.Whole) ∨ gs.length ≤ 1 := by
  cases h with
  | unassigned => exact ⟨fun _ => .inl nofun, fun _ before _ _ _ split => by simp at split⟩
  | unwritable => exact ⟨fun _ => .inl nofun, fun _ before _ _ _ split => by simp at split⟩
  | @begun id left later known writable resumed =>
    constructor
    · intro law
      cases later with
      | nil => exact .inr (Nat.le_refl 1)
      | cons g later =>
        left
        rintro first ⟨⟩
        obtain ⟨g', hg', -, whole⟩ :=
          law [_] g later id rfl (resumed g (List.mem_cons_self ..))
        rwa [List.mem_singleton.1 hg'] at whole
    · rintro first before g rest id' split line
      cases before with
      | nil =>
        obtain ⟨rfl, -⟩ := List.cons.inj split
        exact absurd line (newSession_line_ne _ _ _)
      | cons first' before =>
        obtain ⟨rfl, rfl⟩ := List.cons.inj split
        have same := (resumed g (by simp)).symm.trans line
        obtain rfl : id = id' := Command.runSession.inj (Command.line_injective same)
        refine ⟨_, List.mem_cons_self .., rfl, ?_⟩
        rcases first with whole | short
        · exact whole _ rfl
        · simp at short

/-- A line that creates the session is the first one. -/
theorem Introductions.head?_of_created {session : Session} {gs : List Greeting}
    (h : Introductions session gs) {g : Greeting} (hg : g ∈ gs) {direction : Direction} {id : Int}
    (line : g.line = (Command.newSession direction id).line) : gs.head? = some g := by
  cases h with
  | unassigned => cases hg
  | unwritable => cases hg
  | begun _ _ resumed =>
    rcases List.mem_cons.1 hg with rfl | hg
    · rfl
    · exact absurd (line.symm.trans (resumed g hg)) (newSession_line_ne _ _ _)

/-- **Step lemma**: an attempt to join the session adds the right line, or none. -/
theorem Session.Offering.introductions {session after : Session} {gs : List Greeting}
    {r : Except Failure ConnectionId} (h : Offering session es r after)
    (before : Introductions session gs) : Introductions after (gs ++ greetings es) := by
  cases h with
  | early unready silent =>
    rw [silent, List.append_nil]
    exact before
  | unwritable ready introduced long silent =>
    rw [silent, List.append_nil]
    cases before with
    | unassigned unknown =>
      cases introduced with
      | resumed known => rw [unknown] at known; cases known
      | created _ id => exact .unwritable rfl long
    | unwritable known long' =>
      obtain ⟨-, rfl⟩ := introduced.of_id_eq_some known
      exact .unwritable known long'
    | begun known writable =>
      obtain ⟨rfl, -⟩ := introduced.of_id_eq_some known
      exact absurd writable long
  | offered ready introduced writable opened_eq offer leaves =>
    rw [greetings_of_dialogue opened_eq offer]
    cases before with
    | unassigned unknown =>
      cases introduced with
      | resumed known => rw [unknown] at known; cases known
      | created _ id =>
        have known : { session with id := some id }.id = some id := rfl
        exact .begun known writable nofun
    | unwritable known long =>
      obtain ⟨rfl, -⟩ := introduced.of_id_eq_some known
      exact absurd writable long
    | begun known writable' resumed =>
      obtain ⟨rfl, rfl⟩ := introduced.of_id_eq_some known
      refine .begun known writable' fun g hg => ?_
      rcases List.mem_append.1 hg with hg | hg
      · exact resumed g hg
      · rw [List.mem_singleton.1 hg]

/-- How the first lines of a stream ended up: while it is unopened, none was accepted whole; while
it is open, the control connection has the first one that was. -/
def Ended (gs : List Greeting) (es : List Event) : ByteStream → Prop
  | .unopened .. => ∀ g ∈ gs, ¬g.Whole
  | .opened link => ∃ before g later, gs = before ++ g :: later ∧
      (∀ g' ∈ before, ¬g'.Whole) ∧ g.Whole ∧ greeting link.control es = some g
  | .closed .. => True

/-- A stream and the first lines on its connections. -/
structure ByteStream.Introducing (stream : ByteStream) (es : List Event) : Prop where
  welcomed : Welcomed stream.connections es
  introductions : Introductions stream.session (greetings es)
  ended : Ended (greetings es) es stream

namespace Link

open ByteStream (Introducing)

variable {link after : Link}

/-- The first line of the control connection stays the first that was accepted whole. -/
theorem ended_append (h : Introducing (.opened link) trace) (control : after.control = link.control)
    {gs : List Greeting} (hgs : greetings (trace ++ es) = greetings trace ++ gs) :
    Ended (greetings (trace ++ es)) (trace ++ es) (.opened after) := by
  obtain ⟨before, g, later, split, partial', whole, first⟩ := h.ended
  have greeted := h.welcomed.greeted _ (List.mem_cons_self ..)
  refine ⟨before, g, later ++ gs, ?_, partial', whole, ?_⟩
  · rw [hgs, split, List.append_assoc, List.cons_append]
  · rw [control, (greeted.append es).2, first]

/-- Calls that make no connection greet nobody. -/
theorem introducing_quiet (h : Introducing (.opened link) trace) (hopened : opened es = [])
    (footprint : Footprint link.connections es after.connections)
    (session : after.session = link.session) (control : after.control = link.control)
    (nodup : (opened (trace ++ es)).Nodup) : Introducing (.opened after) (trace ++ es) := by
  have hgs := h.welcomed.greetings_append footprint nodup
  refine ⟨h.welcomed.append footprint nodup fun c _ new => ?_, ?_, ended_append h control hgs⟩
  · rw [hopened] at new
    cases new
  · rw [hgs, greetings_of_opened_eq_nil hopened, List.append_nil]
    change Introductions after.session _
    rw [session]
    exact h.introductions

/-- A new data connection, or the attempt to make one. -/
theorem introducing_join (h : Introducing (.opened link) trace) {route : Route} {address : Address}
    {timeout : Int} {session : Session} {r : Except Failure ConnectionId}
    (join : Session.Joining route address timeout link.session es r session)
    (hsession : after.session = session) (control : after.control = link.control)
    (held : ∀ c ∈ after.connections, c ∈ link.connections ∨ r = .ok c)
    (nodup : (opened (trace ++ es)).Nodup) : Introducing (.opened after) (trace ++ es) := by
  have footprint : Footprint link.connections es after.connections := by
    refine join.footprint fun c hc => (held c hc).imp_right ?_
    rintro rfl
    exact join.mem_opened
  have hgs := h.welcomed.greetings_append footprint nodup
  refine ⟨h.welcomed.append footprint nodup fun c hc new => ?_, ?_, ended_append h control hgs⟩
  · have joined := (held c hc).resolve_left fun old =>
      not_mem_opened_of_nodup nodup new (h.welcomed.held_made old)
    subst joined
    cases join.offering with
    | offered _ _ _ _ offer _ bound =>
      obtain rfl := bound c rfl
      exact ⟨_, by rw [offer]; rfl, rfl⟩
  · rw [hgs]
    change Introductions after.session _
    rw [hsession]
    exact join.offering.introductions h.introductions

/-- A command greets nobody, whether or not it leaves the stream out of step. -/
theorem introducing_exchange (h : Introducing (.opened link) trace) {line : Bytes}
    {heard : Except Failure Bytes} (exchange : Wire.Exchanged link.control line es heard)
    (outOfStep : Option Failure) (nodup : (opened (trace ++ es)).Nodup) :
    Introducing (.opened { link with outOfStep }) (trace ++ es) :=
  introducing_quiet h exchange.opened_eq_nil (footprint_of_exchange exchange) rfl rfl nodup

theorem Connecting.introducing {r : Except Failure ConnectionId} (h : Connecting link es r after)
    (before : Introducing (.opened link) trace) (nodup : (opened (trace ++ es)).Nodup) :
    Introducing (.opened after) (trace ++ es) := by
  cases h with
  | kept => rwa [List.append_nil]
  | unwritable => rwa [List.append_nil]
  | unheard without exchange =>
    obtain ⟨outOfStep, hafter, -⟩ := afterExchange_eq link _
    rw [hafter]
    exact introducing_exchange before exchange outOfStep nodup
  | rejected without exchange => exact introducing_exchange before exchange _ nodup
  | unjoined without exchange admitted join =>
    rw [← List.append_assoc] at nodup ⊢
    have asked := introducing_exchange before exchange link.outOfStep (nodup_opened_left nodup)
    exact introducing_join asked join rfl rfl (fun c hc => .inl hc) nodup
  | @joined es fs line c session without exchange admitted join =>
    rw [← List.append_assoc] at nodup ⊢
    have asked := introducing_exchange before exchange link.outOfStep (nodup_opened_left nodup)
    refine introducing_join asked join rfl rfl (fun k hk => ?_) nodup
    rcases List.mem_cons.1 hk with rfl | hk
    · exact .inl (List.mem_cons_self ..)
    · exact .inr (congrArg Except.ok (Option.some.inj (Option.mem_toList.1 hk)))

/-- **Step lemma**: each of the smallest steps of an open stream. -/
theorem Move.introducing (h : Move link es ps after) (before : Introducing (.opened link) trace)
    (nodup : (opened (trace ++ es)).Nodup) : Introducing (.opened after) (trace ++ es) := by
  have footprint := h.footprint
  have control := h.keeps.1
  cases h with
  | stating stat =>
    cases stat with
    | unusable => rwa [List.append_nil]
    | exchanged usable exchange =>
      obtain ⟨outOfStep, hafter, -⟩ := afterExchange_eq link _
      rw [hafter]
      exact introducing_exchange before exchange outOfStep nodup
  | connecting usable connect => exact connect.introducing before nodup
  | receiving => exact introducing_quiet before rfl footprint rfl control nodup
  | sending => exact introducing_quiet before rfl footprint rfl control nodup
  | moving move =>
    refine introducing_quiet before ?_ footprint move.session_eq control nodup
    cases move <;> rfl

theorem Moves.introducing (h : Moves link es ps after) (before : Introducing (.opened link) trace)
    (nodup : (opened (trace ++ es)).Nodup) : Introducing (.opened after) (trace ++ es) := by
  induction h generalizing trace with
  | refl => rwa [List.append_nil]
  | step move _ ih =>
    rw [← List.append_assoc] at nodup ⊢
    exact ih (move.introducing before (nodup_opened_left nodup)) nodup

end Link

namespace ByteStream

variable {stream after : ByteStream} {ds : List Deed}

/-- A new stream has greeted nobody. -/
theorem introducing_unopened (settings : Settings) (direction : Direction) :
    Introducing (.unopened settings { direction }) [] :=
  ⟨⟨.nil, nofun, nofun⟩, .unassigned rfl, nofun⟩

/-- **Step lemma**: whatever a stream does. -/
theorem Evolves.introducing (h : Evolves stream es ps after) (before : Introducing stream trace)
    (nodup : (SessionStream.opened (trace ++ es)).Nodup) : Introducing after (trace ++ es) := by
  have footprint := h.footprint
  have hgs := before.welcomed.greetings_append footprint nodup
  have nobody : ∀ c ∈ [], c ∈ SessionStream.opened es → Greeted c es :=
    fun _ hc => absurd hc List.not_mem_nil
  cases h with
  | still => rwa [List.append_nil]
  | moved moves => exact moves.introducing before nodup
  | unjoined join =>
    have introductions := join.offering.introductions before.introductions
    rw [← hgs] at introductions
    refine ⟨before.welcomed.append footprint nodup nobody, introductions, fun g hg => ?_⟩
    rw [hgs] at hg
    rcases List.mem_append.1 hg with hg | hg
    · exact before.ended g hg
    · cases join.offering with
      | early _ silent => rw [silent] at hg; cases hg
      | unwritable _ _ _ silent => rw [silent] at hg; cases hg
      | offered _ _ _ opened_eq offer leaves =>
        rw [greetings_of_dialogue opened_eq offer] at hg
        rw [List.mem_singleton.1 hg]
        exact leaves
  | @joined settings session session' address _ control join =>
    have introductions := join.offering.introductions before.introductions
    rw [← hgs] at introductions
    cases join.offering with
    | @offered _ c command _ left _ _ _ opened_eq offer leaves bound =>
      obtain rfl := bound control rfl
      obtain rfl : left = [] := leaves
      have greeted : Greeted control es := ⟨_, by rw [offer]; rfl, rfl⟩
      have welcomed := before.welcomed.append footprint nodup fun c hc _ =>
        List.mem_singleton.1 hc ▸ greeted
      have new : control ∈ SessionStream.opened es := by
        rw [opened_eq]
        exact List.mem_singleton.2 rfl
      refine ⟨welcomed, introductions, greetings trace, ⟨command.line, []⟩, [], ?_, before.ended,
        rfl, ?_⟩
      · rw [hgs, greetings_of_dialogue opened_eq offer]
      · have fresh : Untouched control trace :=
          before.welcomed.contained.untouched (not_mem_opened_of_nodup nodup new)
        have silent : dialogue control trace = [] := fresh.foldl_converse []
        have whole : dialogue control (trace ++ es) = dialogue control es := by
          rw [dialogue_append, silent, dialogue]
        rw [greeting, whole, offer]
        rfl
  | released release =>
    refine ⟨before.welcomed.append footprint nodup nobody, ?_, trivial⟩
    rw [hgs, greetings_of_opened_eq_nil release.opened_eq_nil, List.append_nil]
    exact before.introductions

/-- **Run lemma**: and so any number of its steps. -/
theorem Lives.introducing (h : Lives stream ds after) (before : Introducing stream trace)
    (nodup : (SessionStream.opened (trace ++ ds.flatMap Deed.calls)).Nodup) :
    Introducing after (trace ++ ds.flatMap Deed.calls) := by
  induction h with
  | still => rwa [List.flatMap_nil, List.append_nil]
  | acted _ acts ih =>
    obtain ⟨ps, evolves⟩ := acts.evolves
    rw [List.flatMap_append, List.flatMap_singleton, ← List.append_assoc] at nodup ⊢
    exact evolves.introducing (ih (nodup_opened_left nodup)) nodup

end ByteStream

namespace World

variable {world : World} {number : Nat} {stream : ByteStream}

theorem introducing_history {firstId : Int} {waiting : List Peer}
    (start : begin firstId waiting = .ok world) (steps : List Step)
    (has : (after steps world).streams[number]? = some stream) :
    stream.Introducing (history number steps world) := by
  obtain ⟨birth, later, first, hdeeds, -, born, lives⟩ :=
    life steps (fresh_begin start number).1 has
  have nodup := nodup_opened_history start number steps
  rw [history, hdeeds, List.flatMap_cons] at nodup ⊢
  refine lives.introducing ?_ nodup
  obtain ⟨settings, direction, evolves⟩ := born.evolves
  have newborn := evolves.introducing (ByteStream.introducing_unopened settings direction)
    (nodup_opened_left nodup)
  rwa [List.nil_append] at newborn

/-- The first lines are the same in the record as in the history of the stream. -/
theorem greetings_history {firstId : Int} {waiting : List Peer}
    (start : begin firstId waiting = .ok world) (number : Nat) (steps : List Step) :
    greetings (history number steps world) = (opened (history number steps world)).filterMap
      fun c => greeting c (after steps world).trace := by
  have owning := owning_history start number steps
  refine List.filterMap_congr fun c hc => ?_
  rw [greeting, greeting, ← dialogue_callsOn, ← owning.callsOn_eq c hc, dialogue_callsOn]

/-- **Creation before resumption.** Take a stream in a world that a run leads to, and the first
lines on its connections in the order in which these were made. Only the first of them creates the
session, and all others resume it. Every line that resumes the session is behind one that created it
and was accepted whole exactly if the first line was accepted whole, or is the only one. An open
stream has a whole line on its control connection, and it is the one that creates the session
exactly if the first line was accepted whole. -/
theorem createdFirst_iff_first_whole {firstId : Int} {waiting : List Peer}
    (start : begin firstId waiting = .ok world) (steps : List Step)
    (has : (after steps world).streams[number]? = some stream) :
    let trace := (after steps world).trace
    let gs := (opened (history number steps world)).filterMap fun c => greeting c trace
    Introductions stream.session gs ∧
    (CreatedFirst stream.direction gs ↔ (∀ g ∈ gs.head?, g.Whole) ∨ gs.length ≤ 1) ∧
    ∀ control, stream.control = some control →
      ∃ g ∈ gs, greeting control trace = some g ∧ g.Whole ∧
        ((∃ id, stream.session.id = some id ∧
            g.line = (Command.newSession stream.direction id).line) ↔
          ∀ first ∈ gs.head?, first.Whole) := by
  intro trace gs
  have introducing := introducing_history start steps has
  obtain ⟨welcomed, introductions, ended⟩ := introducing
  have hgs : greetings (history number steps world) = gs := greetings_history start number steps
  rw [hgs] at introductions ended
  refine ⟨introductions, introductions.createdFirst_iff, fun control hcontrol => ?_⟩
  cases stream with
  | unopened => cases hcontrol
  | closed => cases hcontrol
  | opened link =>
    obtain rfl : link.control = control := Option.some.inj hcontrol
    obtain ⟨before, g, later, split, partial', whole, first⟩ := ended
    have own := welcomed.held_made (List.mem_cons_self ..)
    have recorded : greeting link.control trace = some g := by
      rw [← first, greeting, greeting, ← dialogue_callsOn,
        (owning_history start number steps).callsOn_eq _ own, dialogue_callsOn]
    have hg : g ∈ gs := split ▸ List.mem_append_right _ (List.mem_cons_self ..)
    refine ⟨g, hg, recorded, whole, ?_, fun headWhole => ?_⟩
    · rintro ⟨id, -, line⟩ head hhead
      rw [introductions.head?_of_created hg line, Option.mem_some_iff] at hhead
      exact hhead ▸ whole
    · -- No line before that of the control connection is whole, so there is none.
      cases before with
      | cons g' before =>
        refine absurd (headWhole g' ?_) (partial' g' (List.mem_cons_self ..))
        rw [split]
        rfl
      | nil =>
        rw [split] at introductions
        cases introductions with
        | begun known => exact ⟨_, known, rfl⟩

/-- A stream that is opened at the first attempt and reads: its session is created first. -/
theorem createdFirst_iff_first_whole_letters :
    let settings : Settings := { target := "/run/letters", route := ⟨.direct, .given⟩ }
    let waiting : List Peer := [{ incoming := [.bytes (utf8 "ok\n")] }, {}]
    let steps : List Step := [.start settings "r", .onStream 0 (.receive 2)]
    let world : World := { host := { network := { waiting } } }
    let trace := (after steps world).trace
    let gs := (opened (history 0 steps world)).filterMap fun c => greeting c trace
    gs = [⟨(Command.newSession .read 1).line, []⟩, ⟨(Command.runSession 1).line, []⟩] ∧
      CreatedFirst .read gs := by
  intro settings waiting steps world trace gs
  have begins : begin 1 waiting = .ok world := rfl
  have there : (after steps world).streams[0]?.isSome = true := by decide +kernel
  have facts : ∀ stream ∈ (after steps world).streams, stream.direction = .read := by
    decide +kernel
  have lines : gs =
      [⟨(Command.newSession .read 1).line, []⟩, ⟨(Command.runSession 1).line, []⟩] := by
    decide +kernel
  obtain ⟨stream, has⟩ := Option.isSome_iff_exists.1 there
  have law := (createdFirst_iff_first_whole begins steps has).2.1
  rw [facts stream (List.mem_of_getElem? has)] at law
  refine ⟨lines, law.2 (.inl ?_)⟩
  change ∀ g ∈ gs.head?, g.Whole
  rw [lines]
  rintro g ⟨⟩
  rfl

/-- The line that creates the session is not accepted, and the stream, opened again, resumes the
session on its control connection. -/
theorem resumed_without_creation :
    let settings : Settings := { target := "/run/letters", route := ⟨.direct, .given⟩ }
    let waiting : List Peer := [{ acceptances := [.upTo 0] }]
    let steps : List Step := [.create settings "r", .onStream 0 .connect, .onStream 0 .connect]
    let world : World := { host := { network := { waiting } } }
    let trace := (after steps world).trace
    let gs := (opened (history 0 steps world)).filterMap fun c => greeting c trace
    (run steps world).1 = [.ok (.number 0), .error .peerClosed, .ok .done] ∧
      (∀ stream ∈ (after steps world).streams,
        stream.direction = .read ∧ stream.control = some ⟨1⟩) ∧
      greeting ⟨1⟩ trace = some ⟨(Command.runSession 1).line, []⟩ ∧ ¬CreatedFirst .read gs := by
  intro settings waiting steps world trace gs
  have lines : gs = [⟨(Command.newSession .read 1).line, (Command.newSession .read 1).line⟩,
      ⟨(Command.runSession 1).line, []⟩] := by decide +kernel
  refine ⟨by decide +kernel, by decide +kernel, by decide +kernel, fun law => ?_⟩
  obtain ⟨g, hg, -, whole⟩ := law [_] _ [] 1 lines rfl
  rw [List.mem_singleton.1 hg] at whole
  exact Command.line_ne_nil _ whole

end World

end SessionStream
