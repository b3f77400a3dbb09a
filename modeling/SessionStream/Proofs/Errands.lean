import SessionStream.Proofs.Minting
import SessionStream.Proofs.Spending

/-!
# What a command asks of its stream

A command opens its stream, asks operations of it, hands on what it is given or takes up what it has
to write, and closes the stream. Whatever the network and the files answer, the stream is led
through a list of tasks, each with its result; such a list is what the itinerary of a command comes
to. A task of the body that fails is its last one, and the close comes all the same.

Where no peer refuses a value, an operation fails with a system failure, unless a number of the
stream is too large: its connect timeout for a socket, or its position for the text that it would
go into.

## Main definitions

- `Errand`, `ByteStream.Runs` — tasks with their results, and the states of the stream between them
- `ByteStream.Explained` — the failures that a stream can bring about
- `Working.Stages` — opening, body and close of a command
- `Working.Asks` — a body runs certain errands, and ends in a certain way
- `Itinerary` — the errands of a command

## Main results

- `ByteStream.Runs.conserves` — a run of errands loses no connection
- `Working.Stages.itinerary` — the itinerary of a command, from the errands of its body
-/

namespace SessionStream

open HasNetwork (network)

variable {es : List Event} {c : ConnectionId}

/-- What a command has to do while its stream is in use. -/
inductive Task where
  /-- Ask an operation of the stream. -/
  | ask (operation : ByteStream.Operation)
  /-- Hand bytes on to the file that they are copied into. -/
  | hand
  /-- Read on in the file that is written into the stream. -/
  | take
  deriving DecidableEq, Repr

/-- A task, and how it ended. -/
structure Errand where
  task : Task
  /-- How it ended. -/
  result : Except Failure Answer
  deriving DecidableEq, Repr

/-- A task that the system permitted or refused. -/
def Errand.permission (task : Task) (refusal : Option Refusal) : Errand :=
  ⟨task, (permitted refusal).map fun _ => .done⟩

/-- The failure of a result, if it is one. -/
def failure? {α : Type} : Except Failure α → Option Failure
  | .ok _ => none
  | .error e => some e

/-- The failures among errands. -/
def failures (errands : List Errand) : List Failure :=
  errands.filterMap fun errand => failure? errand.result

theorem failures_append (errands later : List Errand) :
    failures (errands ++ later) = failures errands ++ failures later :=
  List.filterMap_append

/-- None of the faults of the network is the refusal of a value. -/
abbrev Network.Accepting (net : Network) : Prop :=
  net.Within fun f => f.isSystem = true

/-- On a network that refuses no value, no action fails with the refusal of one. -/
theorem Network.Pays.proper {α : Type} {net after : Network} {bytes sends : α → Nat}
    {r : Except Failure α} (h : net.Pays (fun f => f.isSystem = true) bytes sends r after) :
    Proper r := by
  rintro text rfl
  cases h.2 _ rfl

/-- What an action does on a network that refuses no value. -/
theorem Act.Does.accepting {σ α : Type} [HasNetwork σ] {act : Act σ α} {s : σ}
    {post : Except Failure α → List Event → σ → Prop} {bytes sends : α → Nat}
    (h : Act.Does act s post) (spends : Act.Spends (fun f => f.isSystem = true) act bytes sends)
    (accepting : (network s).Accepting) : Act.Does act s fun r es t =>
      post r es t ∧ Proper r ∧ (network t).Accepting ∧
        (network s).Pays (fun f => f.isSystem = true) bytes sends r (network t) := by
  obtain ⟨es, grows, h⟩ := h
  have pays := spends.pays s accepting
  exact ⟨es, grows, h, pays.proper, pays.leaves.within accepting, pays⟩

namespace ByteStream

-- ════════════════════════════════════════════════════════════════════════
-- Runs
-- ════════════════════════════════════════════════════════════════════════

/-- A stream is led through errands, one after the other. Only operations that are asked of it
change it. -/
inductive Runs : Held ByteStream → List Errand → Held ByteStream → Prop
  | idle (held : Held ByteStream) : Runs held [] held
  | performed {held mid after : Held ByteStream} {operation : Operation}
      {r : Except Failure Answer} {later : List Errand}
      (performs : Act.outcome (perform operation) held = (r, mid)) (rest : Runs mid later after) :
      Runs held (⟨.ask operation, r⟩ :: later) after
  | aside {held after : Held ByteStream} {errand : Errand} {later : List Errand}
      (unasked : ∀ operation, errand.task ≠ .ask operation) (rest : Runs held later after) :
      Runs held (errand :: later) after

variable {held mid after : Held ByteStream} {errands later : List Errand}

theorem Runs.one {operation : Operation} {r : Except Failure Answer}
    (performs : Act.outcome (perform operation) held = (r, after)) :
    Runs held [⟨.ask operation, r⟩] after :=
  .performed performs (.idle after)

theorem Runs.trans (h : Runs held errands mid) (h' : Runs mid later after) :
    Runs held (errands ++ later) after := by
  induction h with
  | idle => exact h'
  | performed performs _ ih => exact .performed performs (ih h')
  | aside unasked _ ih => exact .aside unasked (ih h')

/-- A stream keeps what it was asked to be, and its session once that has an id. -/
theorem Runs.settled (h : Runs held errands after) : after.own.settings = held.own.settings ∧
    (held.own.session.assigned = true → after.own.session = held.own.session) := by
  induction h with
  | idle => exact ⟨rfl, fun _ => rfl⟩
  | @performed held mid _ operation _ _ performs _ ih =>
    obtain ⟨es, -, performing⟩ := perform_does operation held
    rw [performs] at performing
    obtain ⟨ps, evolves, -⟩ := performing.evolves
    obtain ⟨settings, session⟩ := evolves.settled
    refine ⟨ih.1.trans settings, fun assigned => ?_⟩
    have same := session assigned
    exact (ih.2 (same.symm ▸ assigned)).trans same
  | aside _ _ ih => exact ih

/-- **Run lemma**: where no peer refuses a value, and no number of the stream is too large, no
connection is lost. -/
theorem Runs.conserves (h : Runs held errands after) (accepting : held.host.network.Accepting)
    (regular : after.own.Regular) : ∃ es, held.host.network.Extends es after.host.network ∧
      Conserves held.own.connections es after.own.connections := by
  induction h with
  | idle held => exact ⟨[], .refl _, .refl _⟩
  | @performed held mid _ operation r _ performs rest ih =>
    obtain ⟨es, grows, performing, proper, accepting, -⟩ :=
      (perform_does operation held).accepting (perform_frugal operation) accepting
    rw [performs] at grows performing proper accepting
    have middle : mid.own.Regular := by
      obtain ⟨settings, session⟩ := rest.settled
      refine ⟨settings ▸ regular.timeout, fun id known => regular.id id ?_⟩
      rw [session (by rw [Session.assigned, known]; rfl), known]
    obtain ⟨fs, grows', conserves⟩ := ih accepting regular
    exact ⟨es ++ fs, grows.trans grows', (performing.conserves proper middle).trans conserves⟩
  | aside _ _ ih => exact ih accepting regular

-- ════════════════════════════════════════════════════════════════════════
-- Failures
-- ════════════════════════════════════════════════════════════════════════

/-- The failures that a stream brings about where no peer refuses a value. -/
inductive Explained (stream : ByteStream) : Failure → Prop
  /-- The outside world or the protocol is to blame. -/
  | system {e : Failure} (system : e.isSystem = true) : Explained stream e
  /-- The connect timeout is refused. -/
  | timeout {e : Failure} (refused : stream.settings.route.dialer.refusal?
      stream.settings.timeout.effective = some e) : Explained stream e
  /-- The position is too long to be written down. -/
  | position (long : ¬Text.Writable stream.position) : Explained stream .numberTooLong

end ByteStream

/-- A fault that is not the refusal of a value comes from the outside world. -/
theorem Proper.isSystem {α : Type} {f : Fault} (h : Proper (.error (.fault f) : Except Failure α)) :
    f.isSystem = true := by
  cases f with
  | badValue text => exact absurd rfl (h text)
  | _ => rfl

theorem GivenUp.isSystem {cause final e : Failure} (h : GivenUp c cause final es e)
    (origin : cause = .peerClosed ∨ ∃ fault, cause = .fault fault)
    (passed : cause.isSystem = true → final.isSystem = true)
    (proper : Proper (.error e : Except Failure Unit)) : e.isSystem = true := by
  cases h with
  | closed system => exact passed system
  | closeFailed _ fault => exact proper.isSystem
  | left misuse =>
    rcases origin with rfl | ⟨fault, rfl⟩
    · rfl
    · exact proper.isSystem

theorem Wire.Hearing.isSystem {limit : Int} {room : Nat} {line : Bytes} {e : Failure}
    (h : Hearing c (.replyTooLong limit) room line es (.error e))
    (proper : Proper (.error e : Except Failure Unit)) : e.isSystem = true := by
  generalize hr : (Except.error e : Except Failure Bytes) = r at h
  induction h with
  | overflowed => exact Except.error.inj hr ▸ rfl
  | ended => cases hr
  | advanced _ _ ih => exact ih hr
  | cut => exact Except.error.inj hr ▸ rfl
  | failed fault =>
    obtain rfl := Except.error.inj hr
    exact proper.isSystem

theorem Wire.Exchanged.isSystem {line : Bytes} {e : Failure}
    (h : Exchanged c line es (.error e)) (proper : Proper (.error e : Except Failure Unit)) :
    e.isSystem = true := by
  cases h with
  | unsent sends =>
    rcases sends.error_cases with rfl | ⟨fault, rfl⟩
    · rfl
    · exact proper.isSystem
  | sent _ receives => exact receives.isSystem proper

theorem Dialing.explained {address : Address} {timeout : Int} {dialer : Dialer} {e : Failure}
    (h : Dialing address timeout dialer es (.error e))
    (proper : Proper (.error e : Except Failure Unit)) :
    e.isSystem = true ∨ dialer.refusal? timeout = some e := by
  cases h with
  | refused fault => exact .inl proper.isSystem
  | noSocket fault =>
    by_cases system : fault.isSystem = true
    · rw [if_pos system]
      exact .inl rfl
    · rw [if_neg system] at proper
      exact absurd proper.isSystem system
  | unsettable _ large => exact .inr (Timeout.refusal?_of_large _ large)
  | unset _ small refused => exact .inr ((Timeout.refusal?_of_representable _ small).trans refused)
  | socketRefused _ _ fault gone =>
    exact .inl (gone.isSystem (.inr ⟨fault, rfl⟩) (fun _ => rfl) proper)

/-- A session that could not be joined ran into a failure of the outside world, or its timeout was
refused, unless its id is too long. -/
theorem Session.Joining.explained {route : Route} {address : Address} {timeout : Int}
    {session after : Session} {e : Failure}
    (h : Joining route address timeout session es (.error e) after)
    (proper : Proper (.error e : Except Failure Unit))
    (short : ∀ id, after.id = some id → Text.Writable id) :
    e.isSystem = true ∨ route.dialer.refusal? timeout = some e := by
  cases h with
  | @undialed _ e dial =>
    rcases dial.explained proper.of_unreached with system | refused
    · left
      unfold unreached
      split
      · rfl
      · exact system
    · right
      rwa [unreached, Dialer.isSystem_of_refusal? refused]
  | unset _ gone => exact .inl (gone.isSystem (.inr ⟨_, rfl⟩) (fun system => system) proper)
  | unwritable _ introduced long =>
    refine absurd ?_ long
    cases introduced with
    | resumed known => exact short _ known
    | created _ id => exact short _ rfl
  | unsent _ _ sends gone =>
    exact .inl (gone.isSystem sends.error_cases (fun system => system) proper)

namespace Link

variable {link after : Link} {e : Failure}

theorem Stating.isSystem (h : Stating link es (.error e) after)
    (proper : Proper (.error e : Except Failure Unit)) : e.isSystem = true := by
  generalize hr : (Except.error e : Except Failure Int) = r at h
  cases h with
  | unusable => exact Except.error.inj hr ▸ rfl
  | @exchanged _ heard _ exchange =>
    cases heard with
    | error e' =>
      obtain rfl : e = e' := Except.error.inj hr
      exact exchange.isSystem proper
    | ok line =>
      have refused : Reply.size (asciiText line) = .error e := hr.symm
      unfold Reply.size at refused
      split at refused
      · exact Except.error.inj refused ▸ rfl
      · split at refused
        · cases refused
        · exact Except.error.inj refused ▸ rfl

/-- Where there is no data connection, one fails to come about for a failure of the outside world,
or for a number that is too large. -/
theorem Connecting.explained (h : Connecting link es (.error e) after)
    (proper : Proper (.error e : Except Failure Unit))
    (short : ∀ id, after.session.id = some id → Text.Writable id) :
    link.data = none ∧ (ByteStream.opened link).Explained e := by
  cases h with
  | unwritable without long => exact ⟨without, .position long⟩
  | unheard without exchange => exact ⟨without, .system (exchange.isSystem proper)⟩
  | rejected without => exact ⟨without, .system rfl⟩
  | unjoined without _ _ join =>
    rcases join.explained proper short with system | refused
    · exact ⟨without, .system system⟩
    · exact ⟨without, .timeout refused⟩

theorem Receiving.explained {limit : Nat} (h : Receiving limit link es (.error e) after)
    (proper : Proper (.error e : Except Failure Unit))
    (short : ∀ id, after.session.id = some id → Text.Writable id) :
    (∃ position, e = .streamEnded position) ∨ (ByteStream.opened link).Explained e := by
  generalize hr : (Except.error e : Except Failure Bytes) = r at h
  cases h with
  | unusable => exact .inr (.system (Except.error.inj hr ▸ rfl))
  | misdirected => exact .inr (.system (Except.error.inj hr ▸ rfl))
  | unconnected _ _ connect =>
    obtain rfl := Except.error.inj hr
    exact .inr (connect.explained proper short).2
  | failed fault =>
    obtain rfl := Except.error.inj hr
    exact .inr (.system proper.isSystem)
  | ended _ _ connect =>
    by_cases short : Text.Writable link.position
    · rw [endOfStream, connect.position_eq, Failure.quoting_of_writable _ short] at hr
      exact .inl ⟨_, Except.error.inj hr⟩
    · rw [endOfStream, connect.position_eq, Failure.quoting_of_long _ short] at hr
      exact .inr (Except.error.inj hr ▸ .position short)
  | received => cases hr

theorem Reading.explained {wanted : Nat} (h : Reading wanted link es (.error e) after)
    (proper : Proper (.error e : Except Failure Unit))
    (short : ∀ id, after.session.id = some id → Text.Writable id) :
    (ByteStream.opened link).Explained e := by
  generalize hr : (Except.error e : Except Failure Bytes) = r at h
  cases h with
  | unusable => exact .system (Except.error.inj hr ▸ rfl)
  | nothing => cases hr
  | @once _ r _ _ receive =>
    unfold withoutEnd at hr
    split at hr
    · cases hr
    · next other =>
      subst hr
      refine (receive.explained proper short).resolve_left ?_
      rintro ⟨position, rfl⟩
      exact other position rfl

/-- A write that fails, fails in the send, unless there is no data connection yet. -/
theorem Writing.explained {data : Bytes} (h : Writing data link es (.error e) after)
    (proper : Proper (.error e : Except Failure Unit))
    (short : ∀ id, after.session.id = some id → Text.Writable id) :
    e.isSystem = true ∨ link.data = none ∧ (ByteStream.opened link).Explained e := by
  generalize hr : (Except.error e : Except Failure Nat) = r at h
  cases h with
  | unusable => exact .inl (Except.error.inj hr ▸ rfl)
  | misdirected => exact .inl (Except.error.inj hr ▸ rfl)
  | unconnected _ _ connect =>
    obtain rfl := Except.error.inj hr
    exact .inr (connect.explained proper short)
  | failed fault =>
    obtain rfl := Except.error.inj hr
    exact .inl proper.isSystem
  | sent => cases hr

/-- A query for the size fails as a size does. -/
theorem Seeking.isSystem_of_size {offset : Int}
    (h : Seeking offset Origin.size.code link es (.error e) after)
    (proper : Proper (.error e : Except Failure Unit)) : e.isSystem = true := by
  have code : Origin.ofCode? Origin.size.code = some .size := rfl
  generalize hr : (Except.error e : Except Failure Int) = r at h
  cases h with
  | unusable => exact Except.error.inj hr ▸ rfl
  | size _ _ stat =>
    subst hr
    exact stat.isSystem proper
  | unknown _ origin | start _ origin | current _ origin | unsized _ origin | negativeSize _ origin
  | finish _ origin =>
    rw [code] at origin
    cases origin

theorem Releasing.isSystem (h : Releasing link es (.error e))
    (proper : Proper (.error e : Except Failure Unit)) : e.isSystem = true := by
  cases h with
  | single _ control => cases control with | failed fault => exact proper.isSystem
  | both _ control => cases control with | failed fault => exact proper.isSystem
  | misused fault => exact proper.isSystem

/-- A receive moves by the bytes that it gives. -/
theorem Receiving.position_eq_add {limit : Nat} {r : Except Failure Bytes}
    (h : Receiving limit link es r after) :
    after.position = link.position + (r.toOption.getD []).length := by
  cases h with
  | unusable => rfl
  | misdirected => rfl
  | unconnected _ _ connect => exact connect.position_eq
  | failed _ _ _ connect => exact connect.position_eq
  | ended _ _ connect => exact connect.position_eq
  | received _ _ connect => exact congrArg (· + _) connect.position_eq

/-- A read moves by the bytes that it gives. -/
theorem Reading.position_eq_add {wanted : Nat} {r : Except Failure Bytes}
    (h : Reading wanted link es r after) :
    after.position = link.position + (r.toOption.getD []).length := by
  cases h with
  | unusable => rfl
  | nothing => rfl
  | @once _ r _ _ receive =>
    have moved := receive.position_eq_add
    unfold withoutEnd
    split
    · exact moved
    · exact moved

end Link

-- ════════════════════════════════════════════════════════════════════════
-- The stages of a command
-- ════════════════════════════════════════════════════════════════════════

namespace Working

open ByteStream (Runs perform)

variable {τ α β : Type}

/-- The stream of a command, with the host. -/
def streamOf (s : Held (Working τ)) : Held ByteStream :=
  ⟨s.own.stream, s.host⟩

/-- A command with another state of its stream and of the host. -/
def carry (s : Held (Working τ)) (t : Held ByteStream) : Held (Working τ) :=
  ⟨⟨t.own, s.own.work⟩, t.host⟩

theorem outcome_onStream (act : Act (Held ByteStream) α) (s : Held (Working τ)) :
    Act.outcome (onStream act) s =
      ((Act.outcome act (streamOf s)).1, carry s (Act.outcome act (streamOf s)).2) :=
  Act.outcome_zoom ..

/-- Opening, body and close of a command, and how it ends. -/
inductive Stages (body : Act (Held (Working τ)) α) (s : Held (Working τ)) :
    Except Failure α → Held (Working τ) → Prop
  | unopened {e : Failure} {t : Held ByteStream}
      (refused : Act.outcome ByteStream.connect (streamOf s) = (.error e, t)) :
      Stages body s (.error e) (carry s t)
  | ran {mid t : Held ByteStream} {late : Held (Working τ)} {r : Except Failure α}
      {closing : Except Failure Unit}
      (opened : Act.outcome ByteStream.connect (streamOf s) = (.ok (), mid))
      (ran : Act.outcome body (carry s mid) = (r, late))
      (closed : Act.outcome ByteStream.close (streamOf late) = (closing, t)) :
      Stages body s (closing >>= fun _ => r) (carry late t)

theorem during_stages (body : Act (Held (Working τ)) α) (s : Held (Working τ)) :
    Stages body s (Act.outcome (during body) s).1 (Act.outcome (during body) s).2 := by
  unfold during
  rw [Act.outcome_bind, outcome_onStream]
  cases opened : Act.outcome ByteStream.connect (streamOf s) with
  | mk r mid =>
    cases r with
    | error e => exact .unopened opened
    | ok u =>
      dsimp only
      have caught : ∀ t : Held (Working τ), Act.outcome (tryCatch (Except.ok <$> body) fun e =>
          pure (.error e)) t = (.ok (Act.outcome body t).1, (Act.outcome body t).2) := by
        intro t
        rw [Act.outcome_tryCatch, map_eq_pure_bind, Act.outcome_bind]
        generalize Act.outcome body t = o
        obtain ⟨e | a, t⟩ := o <;> rfl
      rw [Act.outcome_bind, caught]
      cases ran : Act.outcome body (carry s mid) with
      | mk r late =>
        dsimp only
        rw [Act.outcome_bind, outcome_onStream]
        cases closed : Act.outcome ByteStream.close (streamOf late) with
        | mk closing t =>
          have stages := Stages.ran opened ran closed
          cases closing with
          | error e => exact stages
          | ok u =>
            cases r <;> exact stages

-- ════════════════════════════════════════════════════════════════════════
-- Bodies
-- ════════════════════════════════════════════════════════════════════════

/-- How errands fit to the result of what they were run for: nothing is done after a failure. -/
inductive Through : Except Failure α → List Errand → Prop
  | ok {a : α} {errands : List Errand} (smooth : failures errands = []) : Through (.ok a) errands
  | error {e : Failure} {before : List Errand} {task : Task} (smooth : failures before = []) :
      Through (.error e) (before ++ [⟨task, .error e⟩])

theorem Through.one {task : Task} {g : α → Answer} (r : Except Failure α) :
    Through r [⟨task, r.map g⟩] := by
  cases r with
  | ok a => exact .ok rfl
  | error e =>
    have one : Through (.error e : Except Failure α) ([] ++ [⟨task, .error e⟩]) := .error rfl
    exact one

theorem Through.failures_eq {r : Except Failure α} {errands : List Errand}
    (h : Through r errands) : failures errands = (failure? r).toList := by
  cases h with
  | ok smooth => exact smooth
  | error smooth =>
    rw [failures_append, smooth]
    rfl

theorem Through.failures_dropLast {r : Except Failure α} {errands : List Errand}
    (h : Through r errands) : failures errands.dropLast = [] := by
  cases h with
  | ok smooth =>
    refine List.filterMap_eq_nil_iff.2 fun errand herrand => ?_
    exact List.filterMap_eq_nil_iff.1 smooth errand (List.dropLast_subset _ herrand)
  | error smooth =>
    rw [List.dropLast_concat]
    exact smooth

theorem Through.trans {a : α} {r : Except Failure β} {errands later : List Errand}
    (h : Through (.ok a : Except Failure α) errands) (h' : Through r later) :
    Through r (errands ++ later) := by
  cases h with
  | ok smooth =>
    cases h' with
    | ok smooth' =>
      refine .ok ?_
      rw [failures_append, smooth, smooth']
      rfl
    | error smooth' =>
      rw [← List.append_assoc]
      refine .error ?_
      rw [failures_append, smooth, smooth']
      rfl

/-- Started in `s`, the action runs errands of certain kinds, none after one that failed, and its
end, its events and the state after it are as `post` says. -/
def Asks (calls : Errand → Prop) (act : Act (Held (Working τ)) α) (s : Held (Working τ))
    (post : Except Failure α → List Event → Held (Working τ) → Prop) : Prop :=
  Act.Does act s fun r es t => post r es t ∧
    ∃ errands, (∀ errand ∈ errands, calls errand) ∧ Through r errands ∧
      Runs (streamOf s) errands (streamOf t)

section Asks

variable {calls : Errand → Prop} {act : Act (Held (Working τ)) α}
  {f : α → Act (Held (Working τ)) β} {s : Held (Working τ)}

theorem asks_pure {a : α} {post : Except Failure α → List Event → Held (Working τ) → Prop}
    (h : post (.ok a) [] s) : Asks calls (pure a) s post :=
  Act.does_pure.2 ⟨h, [], fun _ herrand => absurd herrand List.not_mem_nil, .ok rfl, .idle _⟩

theorem asks_get_bind {g : Held (Working τ) → Act (Held (Working τ)) α}
    {post : Except Failure α → List Event → Held (Working τ) → Prop} (h : Asks calls (g s) s post) :
    Asks calls (get >>= g) s post :=
  h

/-- What was done before is no errand. -/
theorem asks_advance_bind {g : τ → τ} {f : Unit → Act (Held (Working τ)) α}
    {post : Except Failure α → List Event → Held (Working τ) → Prop}
    (h : Asks calls (f ()) { s with own := { s.own with work := g s.own.work } } post) :
    Asks calls (advance g >>= f) s post :=
  (Act.does_bind_of_outcome (s := s)
    (t := { s with own := { s.own with work := g s.own.work } }) rfl rfl).2 h

/-- **Consequence rule**: weaken the post-condition. -/
theorem Asks.mono {post post' : Except Failure α → List Event → Held (Working τ) → Prop}
    (h : Asks calls act s post) (hpost : ∀ r es t, post r es t → post' r es t) :
    Asks calls act s post' :=
  Act.Does.mono h fun r es t ⟨h, errands⟩ => ⟨hpost r es t h, errands⟩

/-- **Sequencing**: the errands of the parts come one after the other. -/
theorem Asks.bind {post : Except Failure β → List Event → Held (Working τ) → Prop}
    (h : Asks calls act s fun r es t => match r with
      | .ok a => Asks calls (f a) t fun r' fs u => post r' (es ++ fs) u
      | .error e => post (.error e) es t) :
    Asks calls (act >>= f) s post := by
  refine Act.Does.bind (Act.Does.mono h ?_)
  rintro r es t ⟨h, errands, asked, through, runs⟩
  cases r with
  | error e =>
    refine ⟨h, errands, asked, ?_, runs⟩
    cases through with
    | error smooth => exact .error smooth
  | ok a =>
    refine Act.Does.mono h ?_
    rintro r' fs u ⟨h, later, asked', through', runs'⟩
    refine ⟨h, errands ++ later, ?_, through.trans through', runs.trans runs'⟩
    exact fun errand herrand => (List.mem_append.1 herrand).elim (asked errand) (asked' errand)

/-- One operation. -/
theorem asks_onStream {act : Act (Held ByteStream) α} {g : α → Answer}
    {operation : ByteStream.Operation}
    {post : Except Failure α → List Event → Held (Working τ) → Prop}
    (performs : perform operation = do pure (g (← act)))
    (allowed : ∀ r, calls ⟨.ask operation, r⟩)
    (h : Act.Does act (streamOf s) fun r es t => post r es (carry s t)) :
    Asks calls (onStream act) s post := by
  obtain ⟨es, grows, h⟩ := h
  have ended : Act.outcome (perform operation) (streamOf s) =
      ((Act.outcome act (streamOf s)).1.map g, (Act.outcome act (streamOf s)).2) := by
    rw [performs, Act.outcome_bind]
    generalize Act.outcome act (streamOf s) = o
    obtain ⟨e | a, t⟩ := o <;> rfl
  unfold Asks Act.Does
  rw [outcome_onStream]
  generalize Act.outcome act (streamOf s) = o at grows h ended ⊢
  obtain ⟨r, t⟩ := o
  refine ⟨es, grows, h, [⟨.ask operation, r.map g⟩], ?_, .one r, .one ended⟩
  intro errand herrand
  rw [List.mem_singleton.1 herrand]
  exact allowed _

/-- A step that the system may refuse. -/
theorem asks_permit {task : Task} {refusal : Option Refusal}
    {post : Except Failure Unit → List Event → Held (Working τ) → Prop}
    (allowed : calls (.permission task refusal)) (unasked : ∀ operation, task ≠ .ask operation)
    (h : post (permitted refusal) [] s) : Asks calls (permit refusal) s post := by
  unfold permit Asks
  rw [Act.does_ofExcept]
  refine ⟨h, [.permission task refusal], ?_, .one _, .aside unasked (.idle _)⟩
  intro errand herrand
  rw [List.mem_singleton.1 herrand]
  exact allowed

end Asks

end Working

-- ════════════════════════════════════════════════════════════════════════
-- Itineraries
-- ════════════════════════════════════════════════════════════════════════

/-- The errands of a command. A stream that cannot be opened ends them. With one that can, errands
are run up to the first that fails, and then comes a close. -/
inductive Itinerary (calls : Errand → Prop) : List Errand → Prop
  | unopened (e : Failure) : Itinerary calls [⟨.ask .connect, .error e⟩]
  | opened {body : List Errand} {closing : Except Failure Answer}
      (asked : ∀ errand ∈ body, calls errand) (smooth : failures body.dropLast = []) :
      Itinerary calls (⟨.ask .connect, .ok .done⟩ :: body ++ [⟨.ask .close, closing⟩])

namespace Working

variable {τ α : Type} {calls : Errand → Prop} {body : Act (Held (Working τ)) α}
  {s t : Held (Working τ)} {r : Except Failure α}

/-- The failure that a command ends with is the last one of its itinerary. -/
theorem Stages.itinerary {post : Except Failure α → List Event → Held (Working τ) → Prop}
    (h : Stages body s r t)
    (asks : ∀ mid, Act.outcome ByteStream.connect (streamOf s) = (.ok (), mid) →
      Asks calls body (carry s mid) post) :
    ∃ errands, ByteStream.Runs (streamOf s) errands (streamOf t) ∧ Itinerary calls errands ∧
      (failures errands).getLast? = failure? r := by
  have connecting : ∀ {r : Except Failure Unit} {t : Held ByteStream},
      Act.outcome ByteStream.connect (streamOf s) = (r, t) →
      Act.outcome (ByteStream.perform .connect) (streamOf s) = (r.map fun _ => .done, t) := by
    intro r t ended
    unfold ByteStream.perform
    rw [Act.outcome_bind, ended]
    cases r <;> rfl
  cases h with
  | unopened refused => exact ⟨_, .one (connecting refused), .unopened _, rfl⟩
  | @ran mid t late r closing opened ran closed =>
    obtain ⟨es, -, -, errands, asked, through, runs⟩ := asks mid opened
    rw [ran] at through runs
    have last : Act.outcome (ByteStream.perform .close) (streamOf late) =
        (closing.map fun _ => .done, t) := by
      unfold ByteStream.perform
      rw [Act.outcome_bind, closed]
      cases closing <;> rfl
    refine ⟨_, .performed (connecting opened) (runs.trans (.one last)),
      .opened asked through.failures_dropLast, ?_⟩
    change (failures (errands ++ [⟨.ask .close, closing.map fun _ => .done⟩])).getLast? = _
    rw [failures_append, through.failures_eq]
    cases closing with
    | error e =>
      change ((failure? r).toList ++ [e]).getLast? = some e
      rw [List.getLast?_concat]
    | ok u =>
      change ((failure? r).toList ++ []).getLast? = failure? r
      rw [List.append_nil]
      cases r <;> rfl

end Working

end SessionStream
