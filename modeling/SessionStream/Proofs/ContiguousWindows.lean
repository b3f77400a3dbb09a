import SessionStream.Proofs.Windows

/-!
# Contiguous windows

Windows that follow one another are one window. Only the first of them moves the stream and makes a
data connection, if there is none at its start; every other one starts where the stream is, and
receives what comes next. So it makes no difference to the stream, to the peers or to the network
whether a window is served at once or in parts.

## Main definitions

- `Step.windows` — windows that follow one another, as steps
- `World.Poised` — a data connection at the start of the windows of a reader
- `World.Poised.behind` — the world behind some windows
- `World.Matches` — two worlds that differ only in how windows were cut

## Main results

- `World.Poised.step_behind`, `World.Poised.run_behind` — one more window, and any number of them
- `World.contiguous_windows` — windows that follow one another are one window
-/

namespace SessionStream

variable {c : ConnectionId}

/-- A receive that gives bytes has got to a data connection. -/
theorem Link.connected_of_receive {link : Link} {host : Host} {limit : Nat} {chunk : Chunk}
    {held : Held Link} (ok : Act.outcome (receive limit) ⟨link, host⟩ = (.ok chunk, held)) :
    link.session.direction = .read ∧
      ∃ c ready, Act.outcome dataConnection ⟨link, host⟩ = (.ok c, ready) := by
  obtain ⟨es, -, receiving⟩ := receive_does ⟨link, host⟩ limit
  have ready : link.outOfStep = none ∧ link.session.direction = .read := by
    rw [ok] at receiving
    generalize hr : Subtype.val <$> (Except.ok chunk : Except Failure Chunk) = r at receiving
    obtain ⟨after, last⟩ := held
    dsimp only at receiving
    cases receiving with
    | received usable reads => exact ⟨usable, reads⟩
    | _ => cases hr
  refine ⟨ready.2, ?_⟩
  unfold receive at ok
  rw [outcome_requireUsable_bind ready.1, outcome_requireDirection_bind ready.2,
    Act.outcome_bind] at ok
  generalize Act.outcome dataConnection ⟨link, host⟩ = connected at ok ⊢
  obtain ⟨e | c, ready⟩ := connected
  · cases ok
  · exact ⟨c, ready, rfl⟩

/-- Getting hold of the data connection makes one connection at most. -/
theorem Link.Connecting.length_opened_le {link after : Link} {es : List Event}
    (h : Connecting link es (.ok c) after) : (opened es).length ≤ 1 := by
  cases h with
  | kept => exact Nat.zero_le 1
  | joined _ exchange _ join =>
    obtain ⟨made, -⟩ := join.greeting_of_ok
    rw [opened_append, exchange.opened_eq_nil, made.opened_eq]
    exact Nat.le_refl 1

namespace WindowReader

variable {host : Host} {stream : ByteStream} {start length : Nat}

/-- A stream that is where the window starts, with a data connection, has nothing to do. -/
theorem outcome_approach_of_data (link : Link) (host : Host) (has : link.data = some c)
    (usable : link.outOfStep = none) : ∃ log,
      Act.outcome (approach link.position) ⟨.opened link, host⟩ =
        (.ok c, ⟨.opened link, { host with log }⟩) := by
  refine ⟨host.log ++ [⟨.info, .stream, s!"SEEK_SET {link.position} {(link.position : Int)}"⟩], ?_⟩
  have stays (host : Host) : Link.moveOutcome link.position link host =
      (.ok link.position, ⟨link, host⟩) := by
    unfold Link.moveOutcome
    rw [if_neg (Int.not_lt.2 (Int.natCast_nonneg _)), Int.toNat_natCast, if_pos rfl]
  unfold approach ByteStream.seek
  rw [Act.outcome_discard_bind, ByteStream.outcome_whileOpen_opened,
    Link.outcome_seek_target _ _ _ usable]
  dsimp only
  rw [stays]
  change Act.outcome (ByteStream.whileOpen Link.dataConnection) ⟨.opened link, _⟩ = _
  rw [ByteStream.outcome_whileOpen_opened, Link.outcome_dataConnection_of_data has]
  rfl

/-- A window that is served has got to a data connection at its start, and there was room for it. -/
theorem approach_of_serve {window : Bytes} {held : Held ByteStream} (positive : 0 < length)
    (ok : Act.outcome (serve start length) ⟨stream, host⟩ = (.ok window, held)) :
    stream.direction = .read ∧ Buffer.Fits stream.settings.memory length ∧
      ∃ c ready, Act.outcome (approach start) ⟨stream, host⟩ = (.ok c, ready) := by
  unfold serve at ok
  unfold approach
  rw [Act.outcome_discard_bind] at ok ⊢
  obtain ⟨es, -, seeks⟩ := ByteStream.seek_does ⟨stream, host⟩ start Origin.start.code
  generalize Act.outcome (ByteStream.seek start Origin.start.code) ⟨stream, host⟩ = sought
    at ok seeks ⊢
  obtain ⟨e | position, mid, host'⟩ := sought
  · cases ok
  generalize hr : (Except.ok position : Except Failure Int) = r at seeks
  cases seeks with
  | refused => cases hr
  | @done former link _ _ seek =>
    subst hr
    dsimp only at ok ⊢
    have kept : (ByteStream.opened link).settings = (ByteStream.opened former).settings :=
      seek.moves.settled.1
    have room : Buffer.Fits (ByteStream.opened link).settings.memory length :=
      ByteStream.fits_of_reserve_bind ok
    rw [ByteStream.outcome_reserve_bind room, gather, if_neg (Nat.ne_of_gt positive),
      Act.outcome_bind, Act.outcome_tryCatch] at ok
    unfold ByteStream.receive at ok
    rw [ByteStream.outcome_whileOpen_opened] at ok
    rcases received : Act.outcome (Link.receive length) ⟨link, host'⟩ with ⟨e | chunk, held⟩
    · rw [received] at ok
      cases e <;> cases ok
    · obtain ⟨reads, c, ready, connected⟩ := Link.connected_of_receive received
      refine ⟨(congrArg Session.direction seek.session_eq).symm.trans reads,
        kept ▸ room, c, ⟨.opened ready.own, ready.host⟩, ?_⟩
      rw [ByteStream.outcome_whileOpen_opened, connected]

/-- What the way to the data connection says: it announces the start of the window at most, and
makes one connection at most. -/
theorem Approached.calls {link mid after : Link} {host' host'' : Host} {trace es fs : List Event}
    (h : Approached start c link mid after host host' host'' es fs) (orderly : Orderly trace)
    (sound : link.Sound trace) (nodup : (opened (trace ++ (es ++ fs))).Nodup) :
    (opened (es ++ fs)).length ≤ 1 ∧ c ≠ link.control ∧ ∃ newer,
      dialogue link.control (trace ++ (es ++ fs)) = newer ++ dialogue link.control trace ∧
      newer.length ≤ 1 ∧
      ∀ x ∈ newer, x.line = (Command.transfer link.session.direction start).line := by
  obtain ⟨cause, failed, -⟩ | ⟨usable, r, move, -⟩ := h.seeking.moving_of_start
  · cases failed
  have control : mid.control = link.control := (Link.Move.moving move).keeps.1
  have session := h.seeking.session_eq
  have announcement : mid.announcement.line =
      (Command.transfer link.session.direction start).line := by
    unfold Link.announcement
    rw [session, h.place]
  -- The move closes a connection at most.
  have quiet : opened es = [] ∧
      dialogue link.control (trace ++ es) = dialogue link.control trace := by
    rw [dialogue_append]
    cases move <;> exact ⟨rfl, rfl⟩
  rw [← List.append_assoc] at nodup ⊢
  obtain ⟨orderly', sound'⟩ := move.sound orderly sound
  obtain ⟨newer, said, announced⟩ := h.connecting.announces h.usable orderly' sound' nodup
  rw [control, quiet.2] at said
  have apart : c ≠ link.control := by
    obtain ⟨-, sound''⟩ := h.connecting.sound h.usable orderly' sound' nodup
    obtain ⟨offset, carries⟩ := sound''.carries c h.connecting.data_eq
    have kept : after.control = mid.control := (Link.Move.connecting h.usable h.connecting).keeps.1
    rw [← control, ← kept]
    exact sound''.control_ne carries
  refine ⟨?_, apart, newer, said, ?_, ?_⟩
  · rw [opened_append, quiet.1, List.nil_append]
    exact h.connecting.length_opened_le
  · rcases announced with rfl | ⟨-, x, rfl, -⟩
    · exact Nat.zero_le 1
    · exact Nat.le_refl 1
  · rcases announced with rfl | ⟨-, x, rfl, line⟩
    · exact nofun
    · intro y hy
      rw [List.mem_singleton.1 hy, line, announcement]

end WindowReader

/-- Windows of a reader that follow one another, as steps. -/
def Step.windows (number : Nat) : Nat → List Nat → List Step
  | _, [] => []
  | offset, length :: later =>
    .onReader number (.fetch offset length) :: Step.windows number (offset + length) later

/-- The answers to windows that were all served. -/
def Answer.windows (windows : List Bytes) : List (Except Failure Answer) :=
  windows.map fun window => .ok (.bytes window)

namespace World

variable {world : World} {number : Nat}

/-- A window whose bytes are there, as a step. -/
theorem step_fetch_of_le {reader : Attached} {stream : ByteStream} {after : Link} {host : Host}
    {start length : Nat} (reads : world.readers[number]? = some reader)
    (has : world.streams[reader.stream]? = some stream) (direction : stream.direction = .read)
    (approach : Act.outcome (WindowReader.approach start) ⟨stream, world.host⟩ =
      (.ok c, ⟨.opened after, host⟩))
    (positive : 0 < length) (room : Buffer.Fits stream.settings.memory length)
    (enough : length ≤ (leading (host.network.peer c).incoming).length) : ∃ es,
      step (.onReader number (.fetch start length)) world =
        (.ok (.bytes ((leading (host.network.peer c).incoming).take length)), { world with
          streams := world.streams.set reader.stream
            (.opened { after with position := start + length })
          readers := world.readers.set number { reader with
            tally := { bytesFetched := reader.tally.bytesFetched + length
                       requestsMade := reader.tally.requestsMade + 1 } }
          host := host.drained c length es }) ∧
      Receives c es := by
  obtain ⟨es, outcome, receives, -⟩ :=
    WindowReader.outcome_serve direction positive room approach
  refine ⟨es, ?_, receives⟩
  rw [step_fetch reads has start positive, outcome]
  dsimp only
  rw [WindowReader.after_served, if_pos enough, WindowReader.served_of_le enough,
    Nat.min_eq_left enough]
  rfl

/-- A window that is served has got to a data connection at its start, and its bytes are there. -/
theorem approach_of_fetch {reader : Attached} {stream : ByteStream} {start length : Nat}
    {answer : Answer} (reads : world.readers[number]? = some reader)
    (has : world.streams[reader.stream]? = some stream) (positive : 0 < length)
    (ok : (step (.onReader number (.fetch start length)) world).1 = .ok answer) :
    stream.direction = .read ∧ Buffer.Fits stream.settings.memory length ∧ ∃ c after host,
      Act.outcome (WindowReader.approach start) ⟨stream, world.host⟩ =
        (.ok c, ⟨.opened after, host⟩) ∧
      after.position = start ∧ length ≤ (leading (host.network.peer c).incoming).length := by
  rw [step_fetch reads has start positive] at ok
  rcases outcome : Act.outcome (WindowReader.serve start length) ⟨stream, world.host⟩ with
    ⟨e | window, held⟩
  · rw [outcome] at ok
    cases ok
  obtain ⟨direction, room, c, ready, approach⟩ := WindowReader.approach_of_serve positive outcome
  obtain ⟨after, own, -, place, -⟩ := WindowReader.ready_of_approach direction approach
  obtain ⟨_, host⟩ := ready
  obtain rfl : _ = ByteStream.opened after := own
  refine ⟨direction, room, c, after, host, approach, place, ?_⟩
  obtain ⟨es, served, -⟩ := WindowReader.outcome_serve direction positive room approach
  by_contra short
  have failed := congrArg Prod.fst (outcome.symm.trans served)
  rw [WindowReader.served_of_lt (Nat.lt_of_not_le short)] at failed
  dsimp only at failed
  split at failed <;> cases failed

/-- A data connection at the start of the windows of a reader, and how the reader gets to it. -/
structure Poised (world : World) (number : Nat) where
  reader : Attached
  stream : ByteStream
  after : Link
  host : Host
  c : ConnectionId
  reads : world.readers[number]? = some reader
  has : world.streams[reader.stream]? = some stream
  direction : stream.direction = .read
  approach : Act.outcome (WindowReader.approach after.position) ⟨stream, world.host⟩ =
    (.ok c, ⟨.opened after, host⟩)

/-- A window that is served leads to a data connection at its start. -/
theorem poised_of_fetch {reader : Attached} {stream : ByteStream} {start length : Nat}
    {answer : Answer} (reads : world.readers[number]? = some reader)
    (has : world.streams[reader.stream]? = some stream) (positive : 0 < length)
    (ok : (step (.onReader number (.fetch start length)) world).1 = .ok answer) :
    ∃ p : Poised world number, p.stream = stream ∧ p.after.position = start := by
  obtain ⟨direction, -, c, after, host, approach, rfl, -⟩ :=
    approach_of_fetch reads has positive ok
  exact ⟨⟨reader, stream, after, host, c, reads, has, direction, approach⟩, rfl, rfl⟩

namespace Poised

/-- What the data connection has to deliver first. -/
def coming (p : Poised world number) : Bytes :=
  leading (p.host.network.peer p.c).incoming

/-- The world behind windows that hold `n` bytes in all. -/
def behind (p : Poised world number) (count n : Nat) (es : List Event) (log : List Log.Entry) :
    World :=
  { world with
    streams := world.streams.set p.reader.stream
      (.opened { p.after with position := p.after.position + n })
    readers := world.readers.set number { p.reader with
      tally := { bytesFetched := p.reader.tally.bytesFetched + n
                 requestsMade := p.reader.tally.requestsMade + count } }
    host := { p.host.drained p.c n es with log } }

/-- There is room for `size` bytes. -/
def Roomy (p : Poised world number) (size : Nat) : Prop :=
  Buffer.Fits p.stream.settings.memory size

variable (p : Poised world number) {n length count : Nat} {es : List Event} {log : List Log.Entry}

theorem ready : p.after.data = some p.c ∧ p.after.outOfStep = none ∧
    p.after.session.direction = .read ∧ p.after.settings = p.stream.settings := by
  obtain ⟨after, own, has, -, usable, direction, kept⟩ :=
    WindowReader.ready_of_approach p.direction p.approach
  cases own
  exact ⟨has, usable, direction, kept⟩

/-- The first window. -/
theorem step_first (positive : 0 < length) (room : p.Roomy length)
    (enough : length ≤ p.coming.length) : ∃ es,
      step (.onReader number (.fetch p.after.position length)) world =
        (.ok (.bytes (p.coming.take length)), p.behind 1 length es p.host.log) ∧
      Receives p.c es :=
  step_fetch_of_le p.reads p.has p.direction p.approach positive room enough

/-- The first window is served only if its bytes are there. -/
theorem enough_of_first {answer : Answer} (positive : 0 < length)
    (ok : (step (.onReader number (.fetch p.after.position length)) world).1 = .ok answer) :
    p.Roomy length ∧ length ≤ p.coming.length := by
  obtain ⟨-, room, c, after, host, approach, -, enough⟩ :=
    approach_of_fetch p.reads p.has positive ok
  cases p.approach.symm.trans approach
  exact ⟨room, enough⟩

/-- Behind some windows the data connection is at the start of the next one. -/
theorem exists_again (there : n ≤ p.coming.length) (count : Nat) (es : List Event)
    (log : List Log.Entry) : ∃ q : Poised (p.behind count n es log) number,
      q.after.position = p.after.position + n ∧ q.c = p.c ∧ q.coming = p.coming.drop n ∧
      (∀ size, q.Roomy size ↔ p.Roomy size) ∧
      ∀ length fs, q.behind 1 length fs q.host.log =
        p.behind (count + 1) (n + length) (es ++ fs) q.host.log := by
  obtain ⟨data, usable, direction, kept⟩ := p.ready
  obtain ⟨inside, -⟩ := List.getElem?_eq_some_iff.1 p.has
  obtain ⟨inside', -⟩ := List.getElem?_eq_some_iff.1 p.reads
  let link : Link := { p.after with position := p.after.position + n }
  obtain ⟨log', approach⟩ := WindowReader.outcome_approach_of_data link
    (p.behind count n es log).host data usable
  refine ⟨⟨_, .opened link, link, _, p.c, List.getElem?_set_self inside',
    List.getElem?_set_self inside, direction, approach⟩, rfl, rfl, ?_, ?_, fun length fs => ?_⟩
  · exact (congrArg leading (Host.incoming_drained _ _ es)).trans (leading_left there).1
  · intro size
    unfold Roomy
    rw [← kept]
    rfl
  · have host : Host.drained p.c length fs { p.host.drained p.c n es with log := log' } =
        { p.host.drained p.c (n + length) (es ++ fs) with log := log' } := by
      rw [← Host.drained_drained length es fs there]
      rfl
    unfold behind
    dsimp only
    rw [List.set_set, List.set_set, host, Nat.add_assoc, Nat.add_assoc, Nat.add_assoc]

/-- **Step lemma**: one more window. It starts where the stream is, and so it goes on with what the
data connection delivers next; it is served exactly if its bytes are there. -/
theorem step_behind (there : n ≤ p.coming.length) (some : 0 < length) (count : Nat)
    (es : List Event) (log : List Log.Entry) :
    let next := step (.onReader number (.fetch (p.after.position + n : Nat) length))
      (p.behind count n es log)
    (∀ answer, next.1 = .ok answer →
      p.Roomy length ∧ n + length ≤ p.coming.length) ∧
    (p.Roomy length → n + length ≤ p.coming.length → ∃ fs log',
      next = (.ok (.bytes ((p.coming.drop n).take length)),
        p.behind (count + 1) (n + length) (es ++ fs) log') ∧ Receives p.c fs) := by
  obtain ⟨q, place, c, coming, roomy, behind⟩ := p.exists_again there count es log
  rw [← place, ← c, ← coming, ← roomy]
  have length_eq : q.coming.length = p.coming.length - n := by rw [coming, List.length_drop]
  refine ⟨fun answer ok => ?_, fun room enough => ?_⟩
  · obtain ⟨room, enough⟩ := q.enough_of_first some ok
    exact ⟨room, by omega⟩
  · obtain ⟨fs, stepped, receives⟩ := q.step_first some room (by omega)
    exact ⟨fs, q.host.log, stepped.trans (by rw [behind]), receives⟩

/-- **Run lemma**: any number of windows whose bytes are there. -/
theorem run_behind (lengths : List Nat) (some : ∀ length ∈ lengths, 0 < length)
    (room : ∀ length ∈ lengths, p.Roomy length)
    (enough : n + lengths.sum ≤ p.coming.length) (count : Nat) (es : List Event)
    (log : List Log.Entry) : ∃ windows fs log',
      run (Step.windows number (p.after.position + n) lengths) (p.behind count n es log) =
        (Answer.windows windows,
          p.behind (count + lengths.length) (n + lengths.sum) (es ++ fs) log') ∧
      Receives p.c fs ∧ windows.flatten = (p.coming.drop n).take lengths.sum := by
  induction lengths generalizing n count es log with
  | nil =>
    refine ⟨[], [], log, ?_, fun _ he => absurd he List.not_mem_nil, List.take_zero.symm⟩
    rw [List.append_nil]
    rfl
  | cons length later ih =>
    rw [List.sum_cons] at enough
    obtain ⟨some, somes⟩ := List.forall_mem_cons.1 some
    obtain ⟨room, rooms⟩ := List.forall_mem_cons.1 room
    obtain ⟨fs, log', stepped, receives⟩ :=
      (p.step_behind (n := n) (by omega) some count es log).2 room (by omega)
    obtain ⟨windows, gs, log'', ran, receives', flat⟩ :=
      ih (n := n + length) somes rooms (by omega) (count + 1) (es ++ fs) log'
    refine ⟨(p.coming.drop n).take length :: windows, fs ++ gs, log'', ?_,
      receives.append receives', ?_⟩
    · unfold Step.windows
      rw [run, stepped]
      dsimp only
      rw [Nat.add_assoc, ran, List.length_cons, List.sum_cons]
      simp only [Answer.windows, List.map_cons, Nat.add_assoc, Nat.add_comm 1, List.append_assoc]
    · rw [List.flatten_cons, flat, List.sum_cons, List.take_add, List.drop_drop]

/-- **Run lemma**: windows that are all served have their bytes there. -/
theorem enough_of_run (lengths : List Nat) (some : ∀ length ∈ lengths, 0 < length)
    (there : n ≤ p.coming.length) (count : Nat) (es : List Event)
    (log : List Log.Entry) {windows : List Bytes}
    (ran : (run (Step.windows number (p.after.position + n) lengths) (p.behind count n es log)).1 =
      Answer.windows windows) :
    (∀ length ∈ lengths, p.Roomy length) ∧ n + lengths.sum ≤ p.coming.length := by
  induction lengths generalizing n count es log windows with
  | nil => exact ⟨nofun, there⟩
  | cons length later ih =>
    unfold Step.windows at ran
    obtain ⟨some, somes⟩ := List.forall_mem_cons.1 some
    obtain ⟨served, serves⟩ := p.step_behind there some count es log
    cases windows with
    | nil => cases ran
    | cons window windows =>
      rw [run] at ran
      obtain ⟨first, rest⟩ := List.cons.inj ran
      obtain ⟨room, enough⟩ := served _ first
      obtain ⟨fs, log', stepped, -⟩ := serves room enough
      rw [stepped, Nat.add_assoc] at rest
      obtain ⟨rooms, enough⟩ := ih somes enough _ _ _ rest
      exact ⟨List.forall_mem_cons.2 ⟨room, rooms⟩, by rw [List.sum_cons]; omega⟩

/-- Windows from the start whose bytes are there. -/
theorem run_windows {lengths : List Nat} (nonempty : lengths ≠ [])
    (some : ∀ length ∈ lengths, 0 < length)
    (room : ∀ length ∈ lengths, p.Roomy length)
    (enough : lengths.sum ≤ p.coming.length) : ∃ windows es log,
      run (Step.windows number p.after.position lengths) world =
        (Answer.windows windows, p.behind lengths.length lengths.sum es log) ∧
      Receives p.c es ∧ windows.flatten = p.coming.take lengths.sum := by
  obtain ⟨length, later, rfl⟩ := List.exists_cons_of_ne_nil nonempty
  rw [List.sum_cons] at enough
  obtain ⟨positive, some⟩ := List.forall_mem_cons.1 some
  obtain ⟨room, rooms⟩ := List.forall_mem_cons.1 room
  obtain ⟨es, first, receives⟩ := p.step_first positive room (by omega)
  obtain ⟨windows, fs, log, ran, receives', flat⟩ :=
    p.run_behind later some rooms enough 1 es p.host.log
  refine ⟨p.coming.take length :: windows, es ++ fs, log, ?_, receives.append receives', ?_⟩
  · unfold Step.windows
    rw [run, first]
    dsimp only
    rw [ran, List.length_cons, List.sum_cons, Nat.add_comm 1]
    rfl
  · rw [List.flatten_cons, flat, List.sum_cons, List.take_add]

/-- Windows from the start that are all served have their bytes there. -/
theorem enough_of_windows {lengths : List Nat} (nonempty : lengths ≠ [])
    (some : ∀ length ∈ lengths, 0 < length) {windows : List Bytes}
    (ran : (run (Step.windows number p.after.position lengths) world).1 = Answer.windows windows) :
    (∀ length ∈ lengths, p.Roomy length) ∧ lengths.sum ≤ p.coming.length := by
  obtain ⟨length, later, rfl⟩ := List.exists_cons_of_ne_nil nonempty
  obtain ⟨positive, some⟩ := List.forall_mem_cons.1 some
  unfold Step.windows at ran
  cases windows with
  | nil => cases ran
  | cons window windows =>
    rw [run] at ran
    obtain ⟨first, rest⟩ := List.cons.inj ran
    obtain ⟨room, enough⟩ := p.enough_of_first positive first
    obtain ⟨es, stepped, -⟩ := p.step_first positive room enough
    rw [stepped] at rest
    obtain ⟨rooms, enough⟩ := p.enough_of_run later some enough 1 es p.host.log rest
    exact ⟨List.forall_mem_cons.2 ⟨room, rooms⟩, by rw [List.sum_cons]; exact enough⟩

end Poised

-- ════════════════════════════════════════════════════════════════════════
-- One window and several
-- ════════════════════════════════════════════════════════════════════════

/-- Two worlds that differ only in how windows of a reader were cut: in what was asked of the data
connection at a time, in the log, and in the number of windows. -/
structure Matches (number : Nat) (one several : World) : Prop where
  streams : several.streams = one.streams
  sessions : several.sessions = one.sessions
  fetched : (several.readers[number]?).map (·.tally.bytesFetched) =
    (one.readers[number]?).map (·.tally.bytesFetched)
  otherReaders : ∀ other, other ≠ number → several.readers[other]? = one.readers[other]?
  connections : several.host.network.connections = one.host.network.connections
  waiting : several.host.network.waiting = one.host.network.waiting
  givenIds : several.host.givenIds = one.host.givenIds
  sharedIds : several.host.sharedIds = one.host.sharedIds
  accepted : ∀ k, accepted k several.trace = accepted k one.trace
  opened : opened several.trace = opened one.trace
  closed : closed several.trace = closed one.trace

/-- Windows that hold as many bytes in all make the same world. -/
theorem Poised.matches (p : Poised world number) {es fs : List Event} (receives : Receives p.c es)
    (receives' : Receives p.c fs) (count count' n : Nat) (log log' : List Log.Entry) :
    Matches number (p.behind count n es log) (p.behind count' n fs log') := by
  obtain ⟨inside, -⟩ := List.getElem?_eq_some_iff.1 p.reads
  have trace (count : Nat) (es : List Event) (log : List Log.Entry) :
      (p.behind count n es log).trace = p.host.network.trace ++ es := rfl
  constructor
  case fetched =>
    unfold behind
    dsimp only
    rw [List.getElem?_set_self inside, List.getElem?_set_self inside]
    rfl
  case otherReaders =>
    intro other apart
    unfold behind
    dsimp only
    rw [List.getElem?_set_ne apart.symm, List.getElem?_set_ne apart.symm]
  case accepted =>
    intro k
    rw [trace, trace, accepted_append, accepted_append, receives.accepted_eq_nil,
      receives'.accepted_eq_nil]
  case opened =>
    rw [trace, trace, opened_append, opened_append, receives.traffic.opened_eq_nil,
      receives'.traffic.opened_eq_nil]
  case closed =>
    rw [trace, trace, closed_append, closed_append, receives.traffic.closed_eq_nil,
      receives'.traffic.closed_eq_nil]
  all_goals rfl

section Contiguous

variable {reader : Attached} {stream : ByteStream} {lengths : List Nat}

theorem sum_pos (nonempty : lengths ≠ []) (positive : ∀ length ∈ lengths, 0 < length) :
    0 < lengths.sum := by
  obtain ⟨length, later, rfl⟩ := List.exists_cons_of_ne_nil nonempty
  rw [List.sum_cons]
  exact Nat.add_pos_left (List.forall_mem_cons.1 positive).1 _

/-- Windows that are all served lead to a data connection at the start of the first. -/
theorem poised_of_windows {offset : Nat} (reads : world.readers[number]? = some reader)
    (has : world.streams[reader.stream]? = some stream) (nonempty : lengths ≠ [])
    (positive : ∀ length ∈ lengths, 0 < length) {windows : List Bytes}
    (ran : (run (Step.windows number offset lengths) world).1 = Answer.windows windows) :
    ∃ p : Poised world number, p.stream = stream ∧ p.after.position = offset := by
  obtain ⟨length, later, rfl⟩ := List.exists_cons_of_ne_nil nonempty
  unfold Step.windows at ran
  cases windows with
  | nil => cases ran
  | cons window windows =>
    rw [run] at ran
    exact poised_of_fetch reads has (List.forall_mem_cons.1 positive).1 (List.cons.inj ran).1

/-- One window is served exactly if all its parts are. -/
theorem served_iff_all_served {offset : Nat} (reads : world.readers[number]? = some reader)
    (has : world.streams[reader.stream]? = some stream) (nonempty : lengths ≠ [])
    (positive : ∀ length ∈ lengths, 0 < length) :
    (∃ window, (step (.onReader number (.fetch offset (lengths.sum : Nat))) world).1 =
        .ok (.bytes window)) ↔
      Buffer.Fits stream.settings.memory lengths.sum ∧
        ∃ windows, (run (Step.windows number offset lengths) world).1 = Answer.windows windows := by
  constructor
  · rintro ⟨window, ok⟩
    obtain ⟨p, rfl, rfl⟩ := poised_of_fetch reads has (sum_pos nonempty positive) ok
    obtain ⟨room, enough⟩ := p.enough_of_first (sum_pos nonempty positive) ok
    have rooms : ∀ length ∈ lengths, p.Roomy length := by
      intro length inside
      obtain ⟨earlier, later, rfl⟩ := List.append_of_mem inside
      refine room.of_le ?_
      rw [List.sum_append, List.sum_cons]
      omega
    obtain ⟨windows, es, log, ran, -⟩ := p.run_windows nonempty positive rooms enough
    exact ⟨room, windows, by rw [ran]⟩
  · rintro ⟨room, windows, ran⟩
    obtain ⟨p, rfl, rfl⟩ := poised_of_windows reads has nonempty positive ran
    obtain ⟨-, enough⟩ := p.enough_of_windows nonempty positive ran
    obtain ⟨es, stepped, -⟩ := p.step_first (sum_pos nonempty positive) room enough
    exact ⟨_, by rw [stepped]⟩

/-- One window and its parts, if they are served. -/
theorem matches_of_served {offset : Nat} (reads : world.readers[number]? = some reader)
    (has : world.streams[reader.stream]? = some stream) (nonempty : lengths ≠ [])
    (positive : ∀ length ∈ lengths, 0 < length) {window : Bytes} {windows : List Bytes}
    (ok : (step (.onReader number (.fetch offset (lengths.sum : Nat))) world).1 =
      .ok (.bytes window))
    (ran : (run (Step.windows number offset lengths) world).1 = Answer.windows windows) :
    windows.flatten = window ∧
      Matches number (step (.onReader number (.fetch offset (lengths.sum : Nat))) world).2
        (run (Step.windows number offset lengths) world).2 := by
  obtain ⟨p, -, rfl⟩ := poised_of_fetch reads has (sum_pos nonempty positive) ok
  obtain ⟨room, enough⟩ := p.enough_of_first (sum_pos nonempty positive) ok
  obtain ⟨rooms, -⟩ := p.enough_of_windows nonempty positive ran
  obtain ⟨es, stepped, receives⟩ := p.step_first (sum_pos nonempty positive) room enough
  obtain ⟨windows', fs, log, ran', receives', flat⟩ :=
    p.run_windows nonempty positive rooms enough
  rw [stepped] at ok
  rw [ran'] at ran
  cases ok
  have same : windows' = windows := List.map_injective_iff.2 (fun _ _ h => by cases h; rfl) ran
  rw [stepped, ran', ← same]
  exact ⟨flat, p.matches receives receives' _ _ _ _ _⟩

/-- What a window that is served says. -/
theorem calls_of_served {offset length : Nat} (sound : world.Sound)
    (reads : world.readers[number]? = some reader)
    (has : world.streams[reader.stream]? = some stream) (positive : 0 < length) {answer : Answer}
    (ok : (step (.onReader number (.fetch offset length)) world).1 = .ok answer) :
    ∃ control es newer, stream.control = some control ∧
      (step (.onReader number (.fetch offset length)) world).2.trace = world.trace ++ es ∧
      (opened es).length ≤ 1 ∧
      dialogue control (step (.onReader number (.fetch offset length)) world).2.trace =
        newer ++ dialogue control world.trace ∧
      newer.length ≤ 1 ∧
      ∀ x ∈ newer, x.line = (Command.transfer stream.direction offset).line := by
  obtain ⟨p, rfl, rfl⟩ := poised_of_fetch reads has positive ok
  obtain ⟨room, enough⟩ := p.enough_of_first positive ok
  obtain ⟨gs, stepped, receives⟩ := p.step_first positive room enough
  obtain ⟨link, mid, after, host', host'', es, fs, isOpen, ready, approached⟩ :=
    WindowReader.approached_of_ok p.approach
  have hasLink : world.streams[p.reader.stream]? = some (.opened link) := isOpen ▸ p.has
  have control : p.stream.control = some link.control := by rw [isOpen]; rfl
  have direction : p.stream.direction = link.session.direction := by rw [isOpen]; rfl
  have host : p.host = host'' := congrArg Held.host ready
  have grows : p.host.network.trace = world.trace ++ (es ++ fs) :=
    host ▸ approached.grows.trace_eq
  have nodup : (opened (world.trace ++ (es ++ fs))).Nodup := by
    have numbered := (approached.grows.numbered sound.numbered).nodup
    rwa [← host, grows] at numbered
  obtain ⟨few, apart, newer, said, short, line⟩ := approached.calls sound.orderly
    (sound.streams _ _ hasLink _ rfl) nodup
  have away : Untouched link.control gs := untouched_of_target receives.traffic.target? apart.symm
  have trace : (p.behind 1 length gs p.host.log).trace = world.trace ++ (es ++ fs) ++ gs :=
    congrArg (· ++ gs) grows
  rw [stepped, trace]
  refine ⟨link.control, es ++ fs ++ gs, newer, control, List.append_assoc .., ?_, ?_, short, ?_⟩
  · rw [opened_append, receives.traffic.opened_eq_nil, List.append_nil]
    exact few
  · rw [away.dialogue_append, said]
  · rw [direction]
    exact line

end Contiguous

/-- **Windows that follow one another are one window.** In every state that a run reaches, windows
that follow one another are all served exactly if the one window that they make up is served, as far
as the memory has room for all of it at once. Then their bytes together are the bytes of that
window, and the worlds behind them differ only in how the windows were cut: the stream is the same,
on every connection the same is unread and the same was sent, the same connections were made and
closed, and the reader has counted the same bytes. However many windows there are, at most one
transfer is announced, from the start of the first one, and at most one connection is made. -/
theorem contiguous_windows {firstId : Int} {waiting : List Peer}
    (start : begin firstId waiting = .ok world) (before : List Step) {reader : Attached}
    {stream : ByteStream} (reads : (after before world).readers[number]? = some reader)
    (has : (after before world).streams[reader.stream]? = some stream) (offset : Nat)
    {lengths : List Nat} (nonempty : lengths ≠ []) (positive : ∀ length ∈ lengths, 0 < length) :
    let here := after before world
    let one := step (.onReader number (.fetch offset (lengths.sum : Nat))) here
    let several := run (Step.windows number offset lengths) here
    ((∃ window, one.1 = .ok (.bytes window)) ↔
      Buffer.Fits stream.settings.memory lengths.sum ∧
        ∃ windows, several.1 = Answer.windows windows) ∧
    ∀ window windows, one.1 = .ok (.bytes window) → several.1 = Answer.windows windows →
      windows.flatten = window ∧ Matches number one.2 several.2 ∧
      ∃ control es newer, stream.control = some control ∧ one.2.trace = here.trace ++ es ∧
        (opened es).length ≤ 1 ∧
        dialogue control one.2.trace = newer ++ dialogue control here.trace ∧ newer.length ≤ 1 ∧
        ∀ x ∈ newer, x.line = (Command.transfer stream.direction offset).line := by
  intro here one several
  have sound : here.Sound := sound_after before (sound_begin start)
  refine ⟨served_iff_all_served reads has nonempty positive, fun window windows ok ran => ?_⟩
  obtain ⟨flat, same⟩ := matches_of_served reads has nonempty positive ok ran
  exact ⟨flat, same, calls_of_served sound reads has (sum_pos nonempty positive) ok⟩

/-- A letter and two more, and all three. -/
theorem contiguous_windows_letters :
    let settings : Settings := { target := "/run/letters", route := ⟨.direct, .given⟩ }
    let waiting : List Peer := [{ incoming := [.bytes (utf8 "ok\n")] },
      { incoming := [.bytes (utf8 "ab"), .bytes (utf8 "c")] }]
    let world : World := { host := { network := { waiting } } }
    let here := after [.startReader settings] world
    let one := step (.onReader 0 (.fetch 0 3)) here
    let several := run (Step.windows 0 0 [1, 2]) here
    begin 1 waiting = .ok world ∧ one.1 = .ok (.bytes (utf8 "abc")) ∧
      several.1 = Answer.windows [utf8 "a", utf8 "bc"] ∧ Matches 0 one.2 several.2 := by
  intro settings waiting world here one several
  have start : begin 1 waiting = .ok world := rfl
  have reads : here.readers[0]? = some { stream := 0 } := by decide +kernel
  have there : here.streams[0]?.isSome = true := by decide +kernel
  obtain ⟨stream, has⟩ := Option.isSome_iff_exists.1 there
  have whole : one.1 = .ok (.bytes (utf8 "abc")) := by decide +kernel
  have parts : several.1 = Answer.windows [utf8 "a", utf8 "bc"] := by decide +kernel
  obtain ⟨-, together⟩ := contiguous_windows start [.startReader settings] reads has 0
    (List.cons_ne_nil 1 [2]) (by decide)
  exact ⟨start, whole, parts, (together _ _ whole parts).2.1⟩

/-- Where there is room for two bytes at once, three letters are served in parts and not as one
window. -/
theorem contiguous_windows_without_room :
    let settings : Settings :=
      { target := "/run/letters", route := ⟨.direct, .given⟩, memory := 2 }
    let waiting : List Peer := [{ incoming := [.bytes (utf8 "ok\n")] },
      { incoming := [.bytes (utf8 "ab"), .bytes (utf8 "c")] }]
    let here := after [.startReader settings] { host := { network := { waiting } } }
    (run (Step.windows 0 0 [1, 2]) here).1 = Answer.windows [utf8 "a", utf8 "bc"] ∧
      (step (.onReader 0 (.fetch 0 3)) here).1 = .error .outOfMemory := by
  intro settings waiting here
  exact ⟨by decide +kernel, by decide +kernel⟩

end World

end SessionStream
