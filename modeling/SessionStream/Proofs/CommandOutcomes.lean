import SessionStream.Proofs.Copying

/-!
# How commands end

Whatever goes wrong in a command, in opening its stream, in an operation, in its file or in the
close, its exit code says so. A failure that has the outside world or the protocol to blame is told,
and it is the last one that there was while the stream was in use. Where no peer refuses a value,
only a few failures are not told: that of a connect timeout that a socket does not take, that of a
target that is broken, and that of a position that is too long to be written down. Behind all that,
the command may still fail to let go of its file or to tell anything at all.

## Main definitions

- `Invocation.Opens` — the file of a command can be opened
- `Invocation.Unreported` — the failures that a command does not tell
- `Invocation.Settled`, `Invocation.Concluded` — how a command ends whose work ended with this
  failure, or with none

## Main results

- `CommandLine.command_outcome` — exit code, report and connections of every command
-/

namespace SessionStream

open HasNetwork (network)

-- ════════════════════════════════════════════════════════════════════════
-- Outcomes
-- ════════════════════════════════════════════════════════════════════════

namespace Invocation

/-- Whether a command copies payload. Such a command has nothing to tell if all goes well. -/
def copies : Invocation → Bool
  | .cat .. => true
  | _ => false

/-- The file that a command needs, if it needs one, can be opened, and then it can be let go of in
the end or cannot. -/
inductive Opens (around : Surroundings) : Invocation → Option Refusal → Prop
  | sink {target : Word} {offset : Nat} {length : Option Nat} {output : Option Word} {timeout : Int}
      {sink : Sink} (found : around.sink output = .ok sink) :
      Opens around (.cat target offset length output timeout) sink.release
  | source {target name : Word} {offset : Nat} {timeout : Int} {source : Source}
      (found : around.source name = .ok source) :
      Opens around (.put target name offset timeout) source.release
  | nothing (target : Word) (timeout : Int) : Opens around (.stat target timeout) none

/-- What a command tells if all goes well. -/
inductive Tells : Invocation → Utterance → Prop
  | count {target name : Word} {offset : Nat} {timeout : Int} (written : Nat) :
      Tells (.put target name offset timeout) (.said (CommandLine.countText written))
  | size {target : Word} {timeout : Int} (size : Int) (id : Option Int) :
      Tells (.stat target timeout) (.printed (CommandLine.sizeText target size id))

theorem Tells.copies_eq_false {invocation : Invocation} {utterance : Utterance}
    (h : invocation.Tells utterance) : invocation.copies = false := by
  cases h <;> rfl

/-- The failures that a command does not tell, with the position that its stream got to. -/
inductive Unreported (invocation : Invocation) (range : Timeout.Range) (position : Nat) :
    Failure → Prop
  /-- The stream cannot be opened with what the command asks for. -/
  | unopenable {e : Failure} (reason : invocation.Unopenable range e) :
      Unreported invocation range position e
  /-- The place to start at is too long to be written down. -/
  | offset (long : ¬Text.Writable invocation.offset) :
      Unreported invocation range position .numberTooLong
  /-- The end of what is copied lies at a position that is too long to be written down. -/
  | position (copies : invocation.copies = true) (long : ¬Text.Writable position) :
      Unreported invocation range position .numberTooLong

theorem Unreported.isSystem {invocation : Invocation} {range : Timeout.Range} {position : Nat}
    {e : Failure} (h : invocation.Unreported range position e) : e.isSystem = false := by
  cases h with
  | unopenable reason =>
    cases reason with
    | timeout refused => exact Dialer.isSystem_of_refusal? refused
    | target => rfl
  | offset => rfl
  | position => rfl

section Conclusions

variable (invocation : Invocation) (around : Surroundings) (position : Nat)

/-- What comes of the end of the work, which was this failure or none. -/
inductive Settled : Option Failure → Conclusion → Prop
  | well : Settled none { ending := .success }
  | reported {e : Failure} (system : e.isSystem = true) (heard : around.mute = none) :
      Settled (some e) { ending := .reported e, told := some (.said s!"error: {e.message}") }
  | unheard {e : Failure} {refusal : Refusal} (system : e.isSystem = true)
      (mute : around.mute = some refusal) :
      Settled (some e) { ending := .escaped refusal.failure }
  | escaped {e : Failure} (unreported : invocation.Unreported around.timeouts position e) :
      Settled (some e) { ending := .escaped e }

/-- How a command ends whose work ended with this failure, or with none. A file that cannot be let
go of takes the place of that; otherwise the command may have something to tell. -/
inductive Concluded (release : Option Refusal) : Option Failure → Conclusion → Prop
  | unreleased {refusal : Refusal} {last : Option Failure} {conclusion : Conclusion}
      (kept : release = some refusal)
      (settled : Settled invocation around position last conclusion) :
      Concluded release last { conclusion with ending := .escaped refusal.failure }
  | failed {e : Failure} {conclusion : Conclusion} (released : release = none)
      (settled : Settled invocation around position (some e) conclusion) :
      Concluded release (some e) conclusion
  | silent (released : release = none) (copies : invocation.copies = true) :
      Concluded release none { ending := .success }
  | told {utterance : Utterance} (released : release = none) (tells : invocation.Tells utterance)
      (heard : around.mute = none) :
      Concluded release none { ending := .success, told := some utterance }
  | untold {utterance : Utterance} {refusal : Refusal} (released : release = none)
      (tells : invocation.Tells utterance) (mute : around.mute = some refusal) :
      Concluded release none { ending := .escaped refusal.failure }

end Conclusions

end Invocation

variable {invocation : Invocation} {around : Surroundings} {position : Nat}
  {release : Option Refusal} {last : Option Failure} {conclusion : Conclusion}

theorem Invocation.Settled.of_result {α : Type} {r : Except Failure α}
    (explained : ∀ e, r = .error e →
      e.isSystem = true ∨ invocation.Unreported around.timeouts position e) :
    invocation.Settled around position (failure? r) (CommandLine.settle around r) := by
  cases r with
  | ok a => exact .well
  | error e =>
    unfold CommandLine.settle
    dsimp only
    rcases explained e rfl with system | unreported
    · rw [if_pos system, CommandLine.tell]
      cases mute : around.mute with
      | none => exact .reported system mute
      | some refusal => exact .unheard system mute
    · have misuse : ¬e.isSystem = true := by
        rw [unreported.isSystem]
        exact Bool.false_ne_true
      rw [if_neg misuse]
      exact .escaped unreported

/-- A command says how its work ended. -/
theorem Invocation.Concluded.of_result {α : Type} {r : Except Failure α}
    {success : α → Option Utterance}
    (telling : ∀ a, success a = none ∧ invocation.copies = true ∨
      ∃ utterance, success a = some utterance ∧ invocation.Tells utterance)
    (explained : ∀ e, r = .error e →
      e.isSystem = true ∨ invocation.Unreported around.timeouts position e) :
    invocation.Concluded around position release (failure? r)
      (CommandLine.conclude around release success r) := by
  have settled := Invocation.Settled.of_result explained
  cases release with
  | some refusal => exact .unreleased rfl settled
  | none =>
    cases r with
    | error e => exact .failed rfl settled
    | ok a =>
      unfold CommandLine.conclude
      dsimp only
      rcases telling a with ⟨nothing, copies⟩ | ⟨utterance, some, tells⟩
      · rw [nothing]
        exact .silent rfl copies
      · rw [some]
        dsimp only
        rw [CommandLine.tell]
        cases mute : around.mute with
        | none => exact .told rfl tells mute
        | some refusal => exact .untold rfl tells mute

theorem Invocation.Settled.exitCode_eq_one {e : Failure}
    (h : invocation.Settled around position (some e) conclusion) :
    conclusion.ending.exitCode = 1 := by
  cases h <;> rfl

/-- The exit code is 0 exactly if nothing went wrong while the stream was in use, the file was let
go of, and what there was to tell was told. -/
theorem Invocation.Concluded.exitCode_eq {errands : List Errand}
    (h : invocation.Concluded around position release (failures errands).getLast? conclusion) :
    conclusion.ending.exitCode =
      if failures errands = [] ∧ release = none ∧
        (invocation.copies = true ∨ around.mute = none) then 0 else 1 := by
  generalize ends : (failures errands).getLast? = last at h
  cases h with
  | unreleased kept =>
    rw [if_neg fun well => by rw [kept] at well; cases well.2.1]
    rfl
  | failed released settled =>
    rw [if_neg fun well => by rw [well.1] at ends; cases ends]
    exact settled.exitCode_eq_one
  | silent released copies =>
    rw [if_pos ⟨List.getLast?_eq_none_iff.1 ends, released, .inl copies⟩]
    rfl
  | told released _ heard =>
    rw [if_pos ⟨List.getLast?_eq_none_iff.1 ends, released, .inr heard⟩]
    rfl
  | untold released tells mute =>
    have unheard : ¬(invocation.copies = true ∨ around.mute = none) := by
      rw [tells.copies_eq_false, mute]
      rintro (⟨⟨⟩⟩ | ⟨⟨⟩⟩)
    rw [if_neg fun well => unheard well.2.2]
    rfl

/-- A failure that was told is the last one. -/
theorem Invocation.Concluded.eq_of_reported {e : Failure}
    (h : invocation.Concluded around position release last conclusion)
    (ending : conclusion.ending = .reported e) : last = some e := by
  cases h with
  | unreleased => cases ending
  | failed _ settled =>
    cases settled with
    | reported => exact congrArg some (Ending.reported.inj ending)
    | unheard => cases ending
    | escaped => cases ending
  | silent => cases ending
  | told => cases ending
  | untold => cases ending

-- ════════════════════════════════════════════════════════════════════════
-- From the body to the command
-- ════════════════════════════════════════════════════════════════════════

namespace Working

open ByteStream (Runs)
open Invocation (opened_of_connect unopened_of_connect)

variable {τ α : Type} {range : Timeout.Range} {body : Act (Held (Working τ)) α}

/-- The end of a body that keeps the stream of its command open. -/
def Explains (invocation : Invocation) (range : Timeout.Range) (r : Except Failure α)
    (t : Held (Working τ)) : Prop :=
  ∃ after, t.own.stream = .opened after ∧ after.Serves invocation range ∧
    t.host.network.Accepting ∧
    ∀ e, r = .error e → e.isSystem = true ∨ invocation.Unreported range after.position e

/-- Everything that can be said of a command from the errands of its body with a fresh stream. -/
theorem Stages.concluded {calls : Errand → Prop} {work : τ} {net : Network} {r : Except Failure α}
    {t : Held (Working τ)}
    (h : Stages body ⟨⟨invocation.stream range, work⟩, { network := net }⟩ r t)
    (accepting : net.Accepting)
    (asks : ∀ (link : Link) (host : Host), link.Fresh → link.Serves invocation range →
      host.network.Accepting → Asks calls body ⟨⟨.opened link, work⟩, host⟩
        fun r _ t => Explains invocation range r t) :
    ∃ errands, Runs ⟨invocation.stream range, { network := net }⟩ errands (streamOf t) ∧
      Itinerary calls errands ∧ (failures errands).getLast? = failure? r ∧
      t.own.stream.phase ≠ .opened ∧ t.own.stream.settings = invocation.settings range ∧
      (∀ id, t.own.stream.session.id = some id → id = 1) ∧
      ∀ e, r = .error e →
        e.isSystem = true ∨ invocation.Unreported range t.own.stream.position e := by
  obtain ⟨errands, runs, course, last⟩ := h.itinerary fun mid opened => by
    obtain ⟨link, -, isOpen, fresh, serves, -⟩ := opened_of_connect opened
    have accepting := ByteStream.accepting_of_connect accepting opened
    obtain ⟨own, host⟩ := mid
    obtain rfl : own = .opened link := isOpen
    exact asks link host fresh serves accepting
  refine ⟨errands, runs, course, last, ?_⟩
  cases h with
  | @unopened e mid refused =>
    obtain ⟨⟨session, isUnopened⟩, numbers, explained⟩ := unopened_of_connect accepting refused
    obtain ⟨own, host⟩ := mid
    obtain rfl : own = .unopened (invocation.settings range) session := isUnopened
    refine ⟨nofun, rfl, numbers, fun e' failed => ?_⟩
    obtain rfl := Except.error.inj failed
    exact explained.imp_right .unopenable
  | @ran mid t late r closing opened ran closed =>
    obtain ⟨link, -, isOpen, fresh, serves, -⟩ := opened_of_connect opened
    have accepting := ByteStream.accepting_of_connect accepting opened
    obtain ⟨own, host⟩ := mid
    obtain rfl : own = .opened link := isOpen
    obtain ⟨-, -, ⟨after, isOpen, serves, accepting, explained⟩, -⟩ :=
      asks link host fresh serves accepting
    rw [show carry _ _ = (⟨⟨.opened link, work⟩, host⟩ : Held (Working τ)) from rfl] at ran
    rw [ran] at isOpen accepting explained
    obtain ⟨⟨late, work⟩, host⟩ := late
    obtain rfl : late = .opened after := isOpen
    obtain ⟨es, -, closes, proper, -⟩ :=
      (ByteStream.close_does ⟨.opened after, host⟩).accepting ByteStream.close_frugal accepting
    rw [show streamOf _ = (⟨.opened after, host⟩ : Held ByteStream) from rfl] at closed
    rw [closed] at closes proper
    obtain ⟨own, host⟩ := t
    cases closes with
    | idle notOpen => exact absurd rfl notOpen
    | released release =>
      refine ⟨nofun, serves.settings, fun id known => ?_, fun e failed => ?_⟩
      · rw [show (carry _ _).own.stream.session = after.session from rfl, serves.session] at known
        exact (Option.some.inj known).symm
      · cases closing with
        | error e' =>
          obtain rfl := Except.error.inj failed
          exact .inl (release.isSystem proper)
        | ok u => exact explained e failed

section Bodies

variable {target name : Word} {offset : Nat} {length : Option Nat} {output : Option Word}
  {timeout : Int} {link : Link} {host : Host}

theorem asks_cat {sink : Sink} (found : around.sink output = .ok sink) (fresh : link.Fresh)
    (serves : link.Serves (.cat target offset length output timeout) range)
    (accepting : host.network.Accepting) :
    Asks (Invocation.Calls around (.cat target offset length output timeout))
      (do startAt offset; copyOut length sink.writes) ⟨⟨.opened link, []⟩, host⟩
      fun r _ t => Explains (.cat target offset length output timeout) range r t := by
  refine Asks.bind ((asks_begin around fresh serves accepting).mono ?_)
  rintro r es t ⟨rfl, -, started, serves, accepting⟩
  have isOpen : t.own.stream = .opened { link with position := offset } := congrArg stream started
  refine (asks_copyOut length sink.writes isOpen serves accepting
    (fun size positive few => .read positive few) fun refusal known => .hand found known).mono ?_
  rintro r fs u ⟨after, isOpen, serves, accepting, explained⟩
  refine ⟨after, isOpen, serves, accepting, fun e failed => ?_⟩
  cases explained e failed with
  | system system => exact .inl system
  | timeout refused => exact .inr (.unopenable (.timeout (serves.settings ▸ refused)))
  | position long => exact .inr (.position rfl long)

theorem asks_put {source : Source} (found : around.source name = .ok source) (fresh : link.Fresh)
    (serves : link.Serves (.put target name offset timeout) range)
    (accepting : host.network.Accepting) :
    Asks (Invocation.Calls around (.put target name offset timeout))
      (do startAt offset; upload source.bytes source.fault) ⟨⟨.opened link, 0⟩, host⟩
      fun r _ t => Explains (.put target name offset timeout) range r t := by
  refine (asks_startAt_upload found fresh serves accepting).mono ?_
  rintro r es t ⟨after, written, isOpen, proper, accepting, uploading, -, ended⟩
  have serves : { link with position := offset }.Serves (.put target name offset timeout) range :=
    ⟨serves.settings, serves.session⟩
  obtain ⟨ps, moves⟩ := uploading.moves
  have serves' := serves.of_moves moves
  refine ⟨after, isOpen, serves', accepting, fun e failed => ?_⟩
  cases written with
  | ok u =>
    -- All was written, so it is the source that cannot be read on.
    obtain ⟨refusal, refused⟩ : ∃ refusal, source.fault = some refusal := by
      refine Option.isSome_iff_exists.1 (Option.isSome_iff_ne_none.2 fun none => ?_)
      rw [failed, none] at ended
      cases ended
    rw [failed, refused] at ended
    obtain rfl := Except.error.inj ended
    exact .inl refusal.isSystem_failure
  | error e' =>
    obtain rfl := Except.error.inj (failed.symm.trans ended)
    rcases uploading.explained proper.error serves'.id_writable with system | ⟨-, explained⟩
    · exact .inl system
    · cases explained with
      | system system => exact .inl system
      | timeout refused => exact .inr (.unopenable (.timeout (serves.settings ▸ refused)))
      | position long => exact .inr (.offset long)

theorem asks_stat (around : Surroundings) (serves : link.Serves (.stat target timeout) range)
    (accepting : host.network.Accepting) :
    Asks (Invocation.Calls around (.stat target timeout))
      (do
        let size ← onStream (ByteStream.seek 0 Origin.size.code)
        pure (size, (← get).own.stream.session.id)) ⟨⟨.opened link, ()⟩, host⟩
      fun r _ t => Explains (.stat target timeout) range r t := by
  refine Asks.bind (asks_onStream rfl .size (((ByteStream.seek_does _ _ _).accepting
    (ByteStream.seek_frugal _ _) accepting).mono ?_))
  rintro r es ⟨own, host⟩ ⟨seeking, proper, accepting, -⟩
  cases seeking with
  | refused notOpen => exact absurd rfl notOpen
  | @done _ after _ _ seeking =>
    have serves' := serves.of_moves seeking.moves
    cases r with
    | ok size =>
      exact asks_get_bind (asks_pure ⟨after, rfl, serves', accepting, fun e failed => by
        cases failed⟩)
    | error e =>
      refine ⟨after, rfl, serves', accepting, fun e' failed => .inl ?_⟩
      obtain rfl := Except.error.inj failed
      exact seeking.isSystem_of_size proper.error

end Bodies

end Working

-- ════════════════════════════════════════════════════════════════════════
-- Commands
-- ════════════════════════════════════════════════════════════════════════

/-- Where each connection was given up or held and none is held, each has been given up once. -/
theorem count_closed {net : Network} (conserves : Conserves [] net.trace [])
    (numbered : net.Numbered) (c : ConnectionId) :
    (closed net.trace).count c = if c ∈ opened net.trace then 1 else 0 := by
  have same : (closed net.trace).Perm (opened net.trace) := by
    unfold Conserves at conserves
    rwa [List.append_nil, List.nil_append] at conserves
  rw [same.count_eq, List.Nodup.count numbered.nodup]

namespace CommandLine

open ByteStream (Runs)

/-- **From the stages to the report**: a command whose body runs the errands that it may run, and
whose report says how the work ended. -/
theorem outcome_of_stages {τ α : Type} {body : Act (Held (Working τ)) α} {work : τ}
    {waiting : List Peer} {r : Except Failure α} {t : Held (Working τ)} {report : Report}
    {success : α → Option Utterance}
    (accepting : ∀ peer ∈ waiting, ∀ f ∈ peer.faults, f.isSystem = true)
    (ended : Act.outcome (Working.during body)
      ⟨⟨invocation.stream around.timeouts, work⟩, { network := { waiting } }⟩ = (r, t))
    (asks : ∀ (link : Link) (host : Host), link.Fresh → link.Serves invocation around.timeouts →
      host.network.Accepting →
      Working.Asks (invocation.Calls around) body ⟨⟨.opened link, work⟩, host⟩
        fun r _ t => Working.Explains invocation around.timeouts r t)
    (network : report.network = t.host.network)
    (concluded : report.toConclusion = conclude around release success r)
    (telling : ∀ a, success a = none ∧ invocation.copies = true ∨
      ∃ utterance, success a = some utterance ∧ invocation.Tells utterance) :
    ∃ errands final,
      Runs ⟨invocation.stream around.timeouts, { network := { waiting } }⟩ errands final ∧
      Itinerary (invocation.Calls around) errands ∧ report.network = final.host.network ∧
      invocation.Concluded around final.own.position release (failures errands).getLast?
        report.toConclusion ∧
      report.ending.exitCode = (if failures errands = [] ∧ release = none ∧
        (invocation.copies = true ∨ around.mute = none) then 0 else 1) ∧
      ((invocation.settings around.timeouts).route.dialer.Takes
          (invocation.settings around.timeouts).timeout.effective → ∀ c,
        (closed report.network.trace).count c =
          if c ∈ opened report.network.trace then 1 else 0) := by
  have within : Network.Accepting { waiting } := accepting
  have stages := Working.during_stages body
    ⟨⟨invocation.stream around.timeouts, work⟩, { network := { waiting } }⟩
  rw [ended] at stages
  obtain ⟨errands, runs, course, last, notOpen, settings, numbers, explained⟩ :=
    stages.concluded within asks
  have concludes : invocation.Concluded around t.own.stream.position release
      (failures errands).getLast? report.toConclusion := by
    rw [last, concluded]
    exact .of_result telling explained
  refine ⟨errands, _, runs, course, network, concludes, concludes.exitCode_eq, fun takes => ?_⟩
  obtain ⟨es, grows, conserves⟩ := runs.conserves within
    ⟨settings ▸ takes, fun id known => by
      rw [numbers id known]
      exact Text.writable_of_natAbs_lt (by decide)⟩
  have all : es = t.host.network.trace := grows.trace_eq.symm
  have none : t.own.stream.connections = [] := by
    cases held : t.own.stream with
    | opened link =>
      rw [held] at notOpen
      exact absurd rfl notOpen
    | _ => rfl
  rw [all, show (Working.streamOf t).own = t.own.stream from rfl, none] at conserves
  rw [network]
  exact count_closed conserves (grows.numbered rfl)

end CommandLine

end SessionStream
