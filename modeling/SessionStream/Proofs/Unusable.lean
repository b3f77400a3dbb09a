import SessionStream.Proofs.Histories

/-!
# Streams that cannot be used any more

A reply without an end, and a transfer that is not admitted, leave the control connection at an
unknown place in the conversation. From then on until it is closed the stream refuses every
operation that would say something or move, and names that failure as the reason. Nothing else makes
it do so.

## Main definitions

- `Failure.Misleads` — the failures after which a stream cannot be used
- `Verdict`, `Heeds` — how an operation ends that finds the stream in step, and one that does not
- `Step.Guarded` — the steps that are refused
- `ByteStream.Frozen` — what a step finds on a stream that cannot be used

## Main results

- `ByteStream.Acts.conduct` — every step of a stream, with respect to this
- `World.frozen_since_misled` — a stream is frozen from such a failure on until it is closed, and
  only then
-/

namespace SessionStream

variable {α β : Type} {r : Except Failure α} {es : List Event} {lost : Option Failure}
  {cause e : Failure}

/-- A failure that leaves the control connection at an unknown place. -/
def Failure.Misleads : Failure → Prop
  | .replyTooLong _ => True
  | .rejected _ => True
  | _ => False

/-- A failure that does not, and does not say that an earlier one did. -/
def Failure.isPlain : Failure → Bool
  | .replyTooLong _ => false
  | .rejected _ => false
  | .unusable _ => false
  | _ => true

/-- A success, or a plain failure. -/
def isPlain : Except Failure α → Bool
  | .ok _ => true
  | .error e => e.isPlain

theorem isPlain_map {f : α → β} (h : isPlain r = true) : isPlain (r.map f) = true := by
  cases r <;> exact h

theorem Failure.Misleads.not_isPlain (h : e.Misleads) : e.isPlain = false := by
  cases e <;> first | rfl | exact False.elim h

/-- How an operation ends that found its control connection in step, and the failure that it leaves
it with, if it misled. -/
inductive Verdict : Except Failure α → Option Failure → Prop
  | inStep {r : Except Failure α} (plain : isPlain r = true) : Verdict r none
  | lapsed {e : Failure} (misleads : e.Misleads) : Verdict (.error e) (some e)

/-- An operation on something that may be out of step: it refuses, or ends in one of the ways in
which it can. -/
structure Heeds {σ : Type} (outOfStep : σ → Option Failure) (s : σ) (es : List Event)
    (r : Except Failure α) (t : σ) : Prop where
  inStep : outOfStep s = none → Verdict r (outOfStep t)
  refused : ∀ cause, outOfStep s = some cause → es = [] ∧ r = .error (.unusable cause) ∧ t = s

namespace Verdict

theorem map (h : Verdict r lost) (f : α → β) : Verdict (r.map f) lost := by
  cases h with
  | inStep plain => exact .inStep (isPlain_map plain)
  | lapsed misleads => exact .lapsed misleads

/-- A failure is passed on. -/
theorem error (h : Verdict (.error e : Except Failure α) lost) :
    Verdict (.error e : Except Failure β) lost := by
  cases h with
  | inStep plain => exact .inStep plain
  | lapsed misleads => exact .lapsed misleads

theorem eq_none {a : α} (h : Verdict (.ok a) lost) : lost = none := by
  cases h
  rfl

theorem ne_unusable (h : Verdict r lost) : r ≠ .error (.unusable cause) := by
  rintro rfl
  cases h with
  | inStep plain => cases plain
  | lapsed misleads => exact misleads

theorem eq_some (h : Verdict (.error e : Except Failure α) lost) (misleads : e.Misleads) :
    lost = some e := by
  cases h with
  | inStep plain => exact absurd (misleads.not_isPlain.symm.trans plain) (by decide)
  | lapsed => rfl

end Verdict

namespace Heeds

variable {σ : Type} {outOfStep : σ → Option Failure} {s t : σ}

theorem refusal (broken : outOfStep s = some cause) :
    Heeds outOfStep s [] (.error (.unusable cause) : Except Failure α) s := by
  refine ⟨fun inStep => ?_, fun cause' broken' => ?_⟩
  · rw [inStep] at broken
    cases broken
  · obtain rfl := Option.some.inj (broken.symm.trans broken')
    exact ⟨rfl, rfl, rfl⟩

theorem usable (inStep : outOfStep s = none) (verdict : Verdict r (outOfStep t)) :
    Heeds outOfStep s es r t := by
  refine ⟨fun _ => verdict, fun cause broken => ?_⟩
  rw [inStep] at broken
  cases broken

/-- An operation that plainly ends in step. -/
theorem plain (inStep : outOfStep s = none) (inStep' : outOfStep t = none)
    (plain : isPlain r = true) : Heeds outOfStep s es r t := by
  refine usable inStep ?_
  rw [inStep']
  exact .inStep plain

theorem map (h : Heeds outOfStep s es r t) (f : α → β) : Heeds outOfStep s es (r.map f) t := by
  refine ⟨fun inStep => (h.inStep inStep).map f, fun cause broken => ?_⟩
  obtain ⟨silent, rfl, same⟩ := h.refused cause broken
  exact ⟨silent, rfl, same⟩

end Heeds

-- ════════════════════════════════════════════════════════════════════════
-- Plain failures
-- ════════════════════════════════════════════════════════════════════════

theorem Failure.isPlain_quoting {n : Int} (named : e.isPlain = true) :
    (quoting n e).isPlain = true := by
  rcases quoting_eq n e with same | same <;> rw [same]
  · exact named
  · rfl

theorem Failure.isPlain_of_ofCall (h : e.ofCall = true) : e.isPlain = true := by
  cases e <;> first | rfl | cases h

theorem Reply.isPlain_size (reply : String) : isPlain (Reply.size reply) = true := by
  unfold Reply.size
  split
  · rfl
  · split <;> rfl

theorem Buffer.isPlain_of_reserve {memory size : Nat} (h : reserve memory size = .error e) :
    e.isPlain = true := by
  unfold reserve at h
  split at h
  · cases h
    rfl
  · split at h <;> cases h
    rfl

theorem Word.isPlain_of_address {target : Word} (h : target.address = .error e) :
    e.isPlain = true := by
  rcases Word.address_cases h with rfl | ⟨_, _, _, rfl⟩ <;> rfl

-- ════════════════════════════════════════════════════════════════════════
-- Operations of an open stream
-- ════════════════════════════════════════════════════════════════════════

namespace Link

variable {link after : Link}

/-- An exchange that got no reply. -/
theorem verdict_of_exchanged {c : ConnectionId} {line : Bytes} (usable : link.outOfStep = none)
    (h : Wire.Exchanged c line es (.error e)) :
    Verdict (.error e : Except Failure α) (link.afterExchange (.error e)).outOfStep := by
  have kept : e.isPlain = true → (link.afterExchange (.error e)).outOfStep = none := by
    intro plain
    cases e <;> first | exact usable | cases plain
  rcases h.ofCall with rfl | called
  · exact .lapsed trivial
  · have plain := Failure.isPlain_of_ofCall called
    rw [kept plain]
    exact .inStep plain

theorem Stating.heeds {r : Except Failure Int} (h : Stating link es r after) :
    Heeds outOfStep link es r after := by
  cases h with
  | unusable broken => exact .refusal broken
  | @exchanged _ heard usable exchange =>
    cases heard with
    | error e => exact .usable usable (verdict_of_exchanged usable exchange)
    | ok line => exact .plain usable usable (Reply.isPlain_size _)

theorem Connecting.verdict {r : Except Failure ConnectionId} (h : Connecting link es r after)
    (usable : link.outOfStep = none) : Verdict r after.outOfStep := by
  cases h with
  | kept => exact usable ▸ .inStep rfl
  | unwritable => exact usable ▸ .inStep rfl
  | unheard _ exchange => exact verdict_of_exchanged usable exchange
  | rejected => exact .lapsed trivial
  | unjoined _ _ _ join => exact usable ▸ .inStep (Failure.isPlain_of_ofCall join.ofCall)
  | joined => exact usable ▸ .inStep rfl

theorem Receiving.heeds {limit : Nat} {r : Except Failure Bytes}
    (h : Receiving limit link es r after) : Heeds outOfStep link es r after := by
  cases h with
  | unusable broken => exact .refusal broken
  | misdirected usable => exact .plain usable usable rfl
  | unconnected usable _ connect => exact .usable usable (connect.verdict usable).error
  | failed _ usable _ connect => exact .plain usable (connect.verdict usable).eq_none rfl
  | ended usable _ connect =>
    exact .plain usable (connect.verdict usable).eq_none (Failure.isPlain_quoting rfl)
  | received usable _ connect => exact .plain usable (connect.verdict usable).eq_none rfl

theorem verdict_withoutEnd {r : Except Failure Bytes} (h : Verdict r lost) :
    Verdict (withoutEnd r) lost := by
  unfold withoutEnd
  split
  · cases h with
    | inStep => exact .inStep rfl
    | lapsed misleads => exact misleads.elim
  · exact h

theorem Reading.heeds {wanted : Nat} {r : Except Failure Bytes}
    (h : Reading wanted link es r after) : Heeds outOfStep link es r after := by
  cases h with
  | unusable _ broken => exact .refusal broken
  | nothing _ usable => exact .plain usable usable rfl
  | once _ receive =>
    refine ⟨fun inStep => verdict_withoutEnd (receive.heeds.inStep inStep), fun cause broken => ?_⟩
    obtain ⟨silent, rfl, same⟩ := receive.heeds.refused cause broken
    exact ⟨silent, rfl, same⟩

theorem Writing.heeds {data : Bytes} {r : Except Failure Nat} (h : Writing data link es r after) :
    Heeds outOfStep link es r after := by
  cases h with
  | unusable broken => exact .refusal broken
  | misdirected usable => exact .plain usable usable rfl
  | unconnected usable _ connect => exact .usable usable (connect.verdict usable).error
  | failed _ usable _ connect => exact .plain usable (connect.verdict usable).eq_none rfl
  | sent usable _ connect => exact .plain usable (connect.verdict usable).eq_none rfl

/-- A move says nothing on the control connection. -/
theorem Moving.isPlain {target : Int} {r : Except Failure Nat} (h : Moving target link es r after) :
    isPlain r = true ∧ after.outOfStep = link.outOfStep := by
  cases h with
  | negative => exact ⟨Failure.isPlain_quoting rfl, rfl⟩
  | _ => exact ⟨rfl, rfl⟩

theorem Seeking.heeds {offset code : Int} {r : Except Failure Int}
    (h : Seeking offset code link es r after) : Heeds outOfStep link es r after := by
  cases h with
  | unusable broken => exact .refusal broken
  | unknown usable => exact .plain usable usable (Failure.isPlain_quoting rfl)
  | size usable _ stat => exact stat.heeds
  | start usable _ move =>
    obtain ⟨plain, same⟩ := move.isPlain
    exact .plain usable (same.trans usable) (isPlain_map plain)
  | current usable _ move =>
    obtain ⟨plain, same⟩ := move.isPlain
    exact .plain usable (same.trans usable) (isPlain_map plain)
  | unsized usable _ stat => exact .usable usable (stat.heeds.inStep usable).error
  | negativeSize usable _ stat => exact .plain usable (stat.heeds.inStep usable).eq_none rfl
  | finish usable _ stat _ move =>
    obtain ⟨plain, same⟩ := move.isPlain
    exact .plain usable (same.trans (stat.heeds.inStep usable).eq_none) (isPlain_map plain)

/-- The closes of the connections: all of them, unless the close of the data connection refuses a
value. -/
theorem Releasing.calls {r : Except Failure Unit} (h : Releasing link es r) :
    isPlain r = true ∧ ((∃ result result' : Option Unit,
        es = link.data.toList.map (Event.close · result) ++ [.close link.control result']) ∨
      ∃ c fault, link.data = some c ∧ es = [.close c none] ∧ r = .error (.fault fault) ∧
        fault.isSystem = false) := by
  cases h with
  | single without control =>
    rw [without]
    cases control with
    | answered => exact ⟨rfl, .inl ⟨none, _, rfl⟩⟩
    | failed => exact ⟨rfl, .inl ⟨none, _, rfl⟩⟩
  | both has control =>
    rw [has]
    cases control with
    | answered => exact ⟨rfl, .inl ⟨_, _, rfl⟩⟩
    | failed => exact ⟨rfl, .inl ⟨_, _, rfl⟩⟩
  | misused fault has misuse => exact ⟨rfl, .inr ⟨_, fault, has, rfl, rfl, misuse⟩⟩

end Link

-- ════════════════════════════════════════════════════════════════════════
-- Steps of a stream
-- ════════════════════════════════════════════════════════════════════════

/-- The steps that a stream refuses if it cannot be used: those that ask something of its
connections or move it. To read takes room for the bytes first, so the size has to be one that the
memory has room for; and a window has to be one that can be served at all. -/
def Step.Guarded (memory : Nat) : Step → Prop
  | .onStream _ (.read size) => Buffer.Fits memory (ByteStream.wantedSize size)
  | .onStream _ (.receive _) => True
  | .onStream _ (.write _) => True
  | .onStream _ (.seek ..) => True
  | .onStream _ .stat => True
  | .onReader _ (.fetch first length) => 0 ≤ first ∧ 0 < length
  | .onReader _ .size => True
  | _ => False

/-- The steps that close a stream. -/
def Step.Closes : Step → Prop
  | .onStream _ .close => True
  | .onReader _ .close => True
  | _ => False

namespace ByteStream

variable {stream after : ByteStream} {d : Deed} {ds : List Deed}

/-- An operation of an open stream, on a stream in any state. -/
theorem WhileOpen.heeds {does : Link → List Event → Except Failure α → Link → Prop}
    (h : WhileOpen does stream es r after)
    (hdoes : ∀ {link es r after}, does link es r after → Heeds Link.outOfStep link es r after) :
    Heeds outOfStep stream es r after := by
  cases h with
  | refused notOpen =>
    have inStep : stream.outOfStep = none := by
      cases stream with
      | opened => exact absurd rfl notOpen
      | _ => rfl
    exact .plain inStep inStep rfl
  | done operation =>
    refine ⟨(hdoes operation).inStep, fun cause broken => ?_⟩
    obtain ⟨silent, answer, rfl⟩ := (hdoes operation).refused cause broken
    exact ⟨silent, answer, rfl⟩

theorem Opening.verdict {r : Except Failure Unit} (h : Opening stream es r after)
    (inStep : stream.outOfStep = none) : Verdict r after.outOfStep := by
  cases h with
  | again => exact inStep ▸ .inStep rfl
  | unlocated target => exact .inStep (Word.isPlain_of_address target)
  | unjoined _ join => exact .inStep (Failure.isPlain_of_ofCall join.ofCall)
  | joined => exact .inStep rfl

end ByteStream

namespace WindowReader

variable {stream after : ByteStream}

theorem verdict_cutShort {length start got : Nat}
    (h : Verdict (.error e : Except Failure Bytes) lost) :
    Verdict (.error (cutShort length start got e) : Except Failure Bytes) lost := by
  unfold cutShort
  split
  · cases h with
    | inStep => exact .inStep rfl
    | lapsed misleads => exact misleads.elim
  · exact h

theorem Gathering.verdict {start missing : Nat} {got : Bytes} {r : Except Failure Bytes}
    (h : Gathering start missing got stream es r after) (inStep : stream.outOfStep = none) :
    Verdict r after.outOfStep := by
  induction h with
  | done => exact inStep ▸ .inStep rfl
  | stopped _ receive =>
    exact verdict_cutShort ((receive.heeds Link.Receiving.heeds).inStep inStep)
  | more _ receive _ ih => exact ih ((receive.heeds Link.Receiving.heeds).inStep inStep).eq_none

/-- A window that can be served at all is refused already by the move to its start. -/
theorem Fetching.heeds {start length : Int} {r : Except Failure Bytes} (nonneg : 0 ≤ start)
    (positive : 0 < length) (h : Fetching start length stream es r after) :
    Heeds ByteStream.outOfStep stream es r after := by
  cases h with
  | negativeStart => omega
  | nonPositiveLength => omega
  | unmoved _ _ seek =>
    have heeds := seek.heeds Link.Seeking.heeds
    refine ⟨fun inStep => (heeds.inStep inStep).error, fun cause broken => ?_⟩
    obtain ⟨silent, answer, same⟩ := heeds.refused cause broken
    cases answer
    exact ⟨silent, rfl, same⟩
  | unroomy _ _ seek room =>
    have heeds := seek.heeds Link.Seeking.heeds
    refine ⟨fun inStep => ?_, fun cause broken => nomatch (heeds.refused cause broken).2.1⟩
    exact (heeds.inStep inStep).eq_none ▸ .inStep (Buffer.isPlain_of_reserve room)
  | gathered _ _ seek gather =>
    have heeds := seek.heeds Link.Seeking.heeds
    refine ⟨fun inStep => ?_, fun cause broken => nomatch (heeds.refused cause broken).2.1⟩
    exact gather.verdict (heeds.inStep inStep).eq_none

end WindowReader

namespace ByteStream

variable {stream mid after : ByteStream} {d : Deed} {ds : List Deed}

/-- What a step of a stream has to do with whether the stream is in step: it heeds it, or asks
nothing of an open stream, or closes the stream. -/
inductive Conduct (stream : ByteStream) (d : Deed) (after : ByteStream) : Prop
  | heeding (goesOn : ¬d.step.Closes) (heeds : Heeds outOfStep stream d.calls d.answer after)
  | aside (goesOn : ¬d.step.Closes) (unguarded : ¬d.step.Guarded stream.settings.memory)
      (verdict : stream.outOfStep = none → Verdict d.answer after.outOfStep)
      (silent : stream.phase = .opened → d.calls = [] ∧ isPlain d.answer = true ∧ after = stream)
  | closing {r : Except Failure Unit} (closes : d.step.Closes)
      (unguarded : ¬d.step.Guarded stream.settings.memory)
      (closing : Closing stream d.calls r after) (answer : d.answer = r.map fun _ => .done)

/-- **Step lemma**: the conduct of every step. -/
theorem Acts.conduct (h : Acts stream d after) : Conduct stream d after := by
  have quiet : ∀ {d : Deed} {stream : ByteStream}, ¬d.step.Closes →
      ¬d.step.Guarded stream.settings.memory → d.calls = [] → isPlain d.answer = true →
      Conduct stream d stream :=
    fun goesOn unguarded silent plain => .aside goesOn unguarded
      (fun inStep => inStep ▸ .inStep plain) (fun _ => ⟨silent, plain, rfl⟩)
  cases h with
  | operation performs =>
    cases performs with
    | connect opening =>
      refine .aside id id (fun inStep => (opening.verdict inStep).map _) fun isOpen => ?_
      cases opening with
      | again => exact ⟨rfl, rfl, rfl⟩
      | _ => cases isOpen
    | unroomy room =>
      refine quiet id (fun roomy => ?_) rfl (Buffer.isPlain_of_reserve room)
      rw [Buffer.reserve_eq_ok_iff.2 roomy] at room
      cases room
    | read reading => exact .heeding id ((reading.heeds Link.Reading.heeds).map _)
    | receive receiving => exact .heeding id ((receiving.heeds Link.Receiving.heeds).map _)
    | write writing => exact .heeding id ((writing.heeds Link.Writing.heeds).map _)
    | seek seeking => exact .heeding id ((seeking.heeds Link.Seeking.heeds).map _)
    | stat stating => exact .heeding id ((stating.heeds Link.Stating.heeds).map _)
    | position => exact quiet id id rfl rfl
    | descriptor describing =>
      cases describing with
      | refused => exact quiet id id rfl rfl
      | done operation =>
        obtain ⟨rfl, rfl, rfl⟩ := operation
        exact quiet id id rfl rfl
    | inspect => exact quiet id id rfl rfl
    | close closing => exact .closing trivial id closing rfl
  | window performs =>
    cases performs with
    | @fetch start length _ _ _ _ fetching =>
      by_cases servable : 0 ≤ start ∧ 0 < length
      · exact .heeding id ((fetching.heeds servable.1 servable.2).map _)
      · cases fetching with
        | negativeStart => exact quiet id servable rfl rfl
        | nonPositiveLength => exact quiet id servable rfl rfl
        | unmoved nonneg positive => exact absurd ⟨nonneg, positive⟩ servable
        | unroomy nonneg positive => exact absurd ⟨nonneg, positive⟩ servable
        | gathered nonneg positive => exact absurd ⟨nonneg, positive⟩ servable
    | size seeking => exact .heeding id ((seeking.heeds Link.Seeking.heeds).map _)
    | close closing => exact .closing trivial id closing rfl

theorem Closing.isPlain {r : Except Failure Unit} (h : Closing stream es r after) :
    SessionStream.isPlain r = true ∧ after.outOfStep = none := by
  cases h with
  | idle notOpen =>
    refine ⟨rfl, ?_⟩
    cases stream with
    | opened => exact absurd rfl notOpen
    | _ => rfl
  | released release => exact ⟨release.calls.1, rfl⟩

/-- A new stream is in step. -/
theorem Born.outOfStep (h : Born es stream) : stream.outOfStep = none := by
  cases h with
  | unopened => rfl
  | opened opening => exact (opening.verdict rfl).eq_none

theorem phase_of_outOfStep (broken : stream.outOfStep = some cause) : stream.phase = .opened := by
  cases stream with
  | opened => rfl
  | _ => cases broken

theorem Conduct.verdict (h : Conduct stream d after) (inStep : stream.outOfStep = none) :
    Verdict d.answer after.outOfStep := by
  cases h with
  | heeding _ heeds => exact heeds.inStep inStep
  | aside _ _ verdict => exact verdict inStep
  | closing _ _ closing answer =>
    obtain ⟨plain, same⟩ := closing.isPlain
    rw [answer, same]
    exact .inStep (isPlain_map plain)

/-- On a stream that is out of step nothing misleads. -/
theorem Conduct.answer (h : Conduct stream d after) (broken : stream.outOfStep = some cause) :
    d.answer = .error (.unusable cause) ∨ isPlain d.answer = true := by
  cases h with
  | heeding _ heeds => exact .inl (heeds.refused cause broken).2.1
  | aside _ _ _ silent => exact .inr (silent (phase_of_outOfStep broken)).2.1
  | closing _ _ closing answer =>
    rw [answer]
    exact .inr (isPlain_map closing.isPlain.1)

/-- A failure that misleads leaves the stream out of step. -/
theorem Conduct.outOfStep_of_misleads (h : Conduct stream d after) (raised : d.answer = .error e)
    (misleads : e.Misleads) : after.outOfStep = some e := by
  cases known : stream.outOfStep with
  | none =>
    have verdict := h.verdict known
    rw [raised] at verdict
    exact verdict.eq_some misleads
  | some cause =>
    rcases h.answer known with refused | plain
    · cases raised.symm.trans refused
      exact misleads.elim
    · rw [raised] at plain
      exact absurd (misleads.not_isPlain.symm.trans plain) (by decide)

/-- A stream that says it cannot be used is out of step. -/
theorem Conduct.outOfStep_of_unusable (h : Conduct stream d after)
    (raised : d.answer = .error (.unusable e)) : stream.outOfStep = some e := by
  cases known : stream.outOfStep with
  | none => exact absurd raised (h.verdict known).ne_unusable
  | some cause =>
    rcases h.answer known with refused | plain
    · cases raised.symm.trans refused
      rfl
    · rw [raised] at plain
      cases plain

/-- What a step finds on a stream that cannot be used because of `cause`: it makes no call, it is
refused if it would say something or move, and it is told the position and the descriptor of the
control connection as ever. -/
structure Frozen (stream : ByteStream) (cause : Failure) (d : Deed) : Prop where
  silent : d.calls = []
  refused : d.step.Guarded stream.settings.memory → d.answer = .error (.unusable cause)
  position : ∀ number, d.step = .onStream number .position →
    d.answer = .ok (.number stream.position)
  descriptor : ∀ number, d.step = .onStream number .descriptor →
    ∃ control, stream.control = some control ∧ d.answer = .ok (.number control.descriptor)

theorem Acts.position (h : Acts stream d after) {number : Nat}
    (asks : d.step = .onStream number .position) : d.answer = .ok (.number stream.position) := by
  cases h with
  | operation performs =>
    cases asks
    cases performs
    rfl
  | window => cases asks

theorem Acts.descriptor (h : Acts stream d after) {number : Nat} (isOpen : stream.phase = .opened)
    (asks : d.step = .onStream number .descriptor) :
    ∃ control, stream.control = some control ∧ d.answer = .ok (.number control.descriptor) := by
  cases h with
  | operation performs =>
    cases asks
    cases performs with
    | descriptor describing =>
      cases describing with
      | refused notOpen => exact absurd isOpen notOpen
      | done operation =>
        obtain ⟨-, rfl, -⟩ := operation
        exact ⟨_, rfl, rfl⟩
  | window => cases asks

/-- **Step lemma**: a stream that cannot be used stays as it is until it is closed. -/
theorem Acts.frozen (h : Acts stream d after) (broken : stream.outOfStep = some cause)
    (goesOn : ¬d.step.Closes) : after = stream ∧ Frozen stream cause d := by
  have isOpen := phase_of_outOfStep broken
  suffices kept : d.calls = [] ∧ after = stream ∧
      (d.step.Guarded stream.settings.memory → d.answer = .error (.unusable cause)) from
    ⟨kept.2.1, kept.1, kept.2.2, fun _ => h.position, fun _ => h.descriptor isOpen⟩
  cases h.conduct with
  | heeding _ heeds =>
    obtain ⟨silent, answer, same⟩ := heeds.refused cause broken
    exact ⟨silent, same, fun _ => answer⟩
  | aside _ unguarded _ silent =>
    obtain ⟨calls, -, same⟩ := silent isOpen
    exact ⟨calls, same, fun guarded => absurd guarded unguarded⟩
  | closing closes => exact absurd closes goesOn

/-- **Run lemma**: nor does any number of steps change it. -/
theorem Lives.frozen (h : Lives stream ds after) (broken : stream.outOfStep = some cause)
    (goesOn : ∀ d ∈ ds, ¬d.step.Closes) : after = stream ∧ ∀ d ∈ ds, Frozen stream cause d := by
  induction h with
  | still => exact ⟨rfl, fun d hd => absurd hd List.not_mem_nil⟩
  | acted _ acts ih =>
    obtain ⟨rfl, earlier⟩ := ih fun d hd => goesOn d (List.mem_append_left _ hd)
    obtain ⟨same, last⟩ := acts.frozen broken
      (goesOn _ (List.mem_append_right _ (List.mem_singleton.2 rfl)))
    refine ⟨same, fun d hd => ?_⟩
    rcases List.mem_append.1 hd with hd | hd
    · exact earlier d hd
    · exact List.mem_singleton.1 hd ▸ last

/-- **Run lemma**: a stream that is out of step was misled, and has not been closed since. -/
theorem Lives.misled (h : Lives stream ds after) (inStep : stream.outOfStep = none)
    (broken : after.outOfStep = some e) : ∃ before d later, ds = before ++ d :: later ∧
      d.answer = .error e ∧ e.Misleads ∧ ∀ d' ∈ later, ¬d'.step.Closes := by
  induction h with
  | still =>
    rw [inStep] at broken
    cases broken
  | @acted ds d mid after _ acts ih =>
    cases known : mid.outOfStep with
    | none =>
      have verdict := acts.conduct.verdict known
      rw [broken] at verdict
      cases hd : d.answer with
      | ok => rw [hd] at verdict; cases verdict
      | error e' =>
        rw [hd] at verdict
        cases verdict with
        | lapsed misleads =>
          exact ⟨ds, d, [], rfl, hd, misleads, fun _ hd => absurd hd List.not_mem_nil⟩
    | some cause =>
      have goesOn : ¬d.step.Closes := by
        intro closes
        cases acts.conduct with
        | heeding goesOn => exact goesOn closes
        | aside goesOn => exact goesOn closes
        | closing _ _ closing =>
          rw [closing.isPlain.2] at broken
          cases broken
      obtain ⟨rfl, -⟩ := acts.frozen known goesOn
      obtain ⟨before, d', later, rfl, raised, misleads, unclosed⟩ := ih broken
      refine ⟨before, d', later ++ [d], ?_, raised, misleads, fun d'' hd => ?_⟩
      · rw [List.append_assoc, List.cons_append]
      · rcases List.mem_append.1 hd with hd | hd
        · exact unclosed d'' hd
        · exact List.mem_singleton.1 hd ▸ goesOn

end ByteStream

namespace World

variable {world : World} {number : Nat} {step : Step} {d : Deed}

/-- The calls of a step that closes an open stream: all its connections, unless the close of the
data connection refuses a value. -/
theorem closes_of_mem_deeds {stream : ByteStream} (has : world.streams[number]? = some stream)
    (isOpen : stream.phase = .opened) (hd : d ∈ deeds number [step] world)
    (closes : d.step.Closes) :
    (∃ result result' : Option Unit, d.calls = stream.data.toList.map (Event.close · result) ++
        stream.control.toList.map (Event.close · result')) ∨
      ∃ c fault, stream.data = some c ∧ d.calls = [.close c none] ∧
        d.answer = .error (.fault fault) ∧ fault.isSystem = false := by
  rcases acts_of_mem_deeds hd with ⟨stream', after, has', -, acts⟩ | ⟨fresh, -⟩
  · obtain rfl := Option.some.inj (has.symm.trans has')
    cases acts.conduct with
    | heeding goesOn => exact absurd closes goesOn
    | aside goesOn => exact absurd closes goesOn
    | closing _ _ closing answer =>
      generalize d.calls = es at closing
      cases closing with
      | idle notOpen => exact absurd isOpen notOpen
      | released release =>
        rcases release.calls.2 with ⟨result, result', calls⟩ | ⟨c, fault, has, calls, rfl, misuse⟩
        · exact .inl ⟨result, result', calls⟩
        · exact .inr ⟨c, fault, has, calls, answer, misuse⟩
  · rw [fresh] at has
    cases has

/-- **An unusable stream is frozen.** Take any step of a stream in a run. If it ends with a failure
that misleads, then the stream is open behind it, and stays exactly as it is until it is closed:
every later step on it makes no call, is refused on account of that failure if it would say
something or move, and is told the same position and descriptor. The close then still closes the
data connection, if there is one, and the control connection; only if the first of these closes
refuses a value, the second is not made. And if the step was refused because of a failure, that
failure was one that misleads, of an earlier step, and the stream has not been closed since. -/
theorem frozen_since_misled {firstId : Int} {waiting : List Peer}
    (start : begin firstId waiting = .ok world) (before : List Step)
    (hd : d ∈ deeds number [step] (after before world)) :
    let broken := after (before ++ [step]) world
    (∀ e, d.answer = .error e → e.Misleads →
      ∃ stream, broken.streams[number]? = some stream ∧ stream.phase = .opened ∧
        ∀ later, (∀ d ∈ deeds number later broken, ¬d.step.Closes) →
          (after later broken).streams[number]? = some stream ∧
          (∀ d ∈ deeds number later broken, stream.Frozen e d) ∧
          ∀ next, ∀ d ∈ deeds number [next] (after later broken), d.step.Closes →
            (∃ result result' : Option Unit,
              d.calls = stream.data.toList.map (Event.close · result) ++
                stream.control.toList.map (Event.close · result')) ∨
            ∃ c fault, stream.data = some c ∧ d.calls = [.close c none] ∧
              d.answer = .error (.fault fault) ∧ fault.isSystem = false) ∧
    ∀ e, d.answer = .error (.unusable e) → ∃ earlier misled since,
      deeds number before world = earlier ++ misled :: since ∧ misled.answer = .error e ∧
        e.Misleads ∧ ∀ d ∈ since, ¬d.step.Closes := by
  intro broken
  have hbroken : broken = (World.step step (after before world)).2 := after_append ..
  constructor
  · intro e raised misleads
    rcases acts_of_mem_deeds hd with ⟨_, stream, -, becomes, acts⟩ | ⟨-, a, made⟩
    · rw [← hbroken] at becomes
      have lost := acts.conduct.outOfStep_of_misleads raised misleads
      have isOpen := ByteStream.phase_of_outOfStep lost
      refine ⟨stream, becomes, isOpen, fun later goesOn => ?_⟩
      obtain ⟨last, has, lives⟩ := lives_after later becomes
      obtain ⟨rfl, frozen⟩ := lives.frozen lost goesOn
      exact ⟨has, frozen, fun next d hd closes => closes_of_mem_deeds has isOpen hd closes⟩
    · cases raised.symm.trans made
  · intro e refused
    rcases acts_of_mem_deeds hd with ⟨stream, _, has, -, acts⟩ | ⟨-, a, made⟩
    · obtain ⟨birth, later, first, hdeeds, -, born, lives⟩ :=
        life before (fresh_begin start number).1 has
      obtain ⟨earlier, misled, since, rfl, rest⟩ :=
        lives.misled born.outOfStep (acts.conduct.outOfStep_of_unusable refused)
      exact ⟨birth :: earlier, misled, since, hdeeds, rest⟩
    · cases refused.symm.trans made

/-- The reply to a size query has no end. The stream has a data connection, which it keeps. -/
theorem frozen_since_misled_endless :
    let settings : Settings := { target := "/run/letters", route := ⟨.direct, .given⟩ }
    let waiting : List Peer :=
      [{ incoming := [.bytes (utf8 "ok\n"), .bytes (List.replicate 60 120)] },
        { incoming := [.bytes (utf8 "abc")] }]
    let world : World := { host := { network := { waiting } } }
    let before : List Step := [.start settings "r", .onStream 0 (.receive 2)]
    let broken := after (before ++ [.onStream 0 .stat]) world
    let later : List Step := [.onStream 0 (.read (some 0)), .onStream 0 (.seek 0 9),
      .onStream 0 .position]
    (World.step (.onStream 0 .stat) (after before world)).1 = .error (.replyTooLong 50) ∧
      ∃ stream, broken.streams[0]? = some stream ∧ stream.data = some ⟨1⟩ ∧
        (after later broken).streams[0]? = some stream ∧
        ∀ d ∈ deeds 0 later broken, stream.Frozen (.replyTooLong 50) d := by
  intro settings waiting world before broken later
  have start : begin 1 waiting = .ok world := rfl
  have answers : (deeds 0 [.onStream 0 .stat] (after before world)).map Deed.answer =
      [.error (.replyTooLong 50)] := by decide +kernel
  have steps : (deeds 0 later broken).map Deed.step = later := by decide +kernel
  have data : ∀ stream ∈ broken.streams, stream.data = some ⟨1⟩ := by decide +kernel
  obtain ⟨d, hd, raised⟩ := List.map_eq_singleton_iff.1 answers
  obtain ⟨stream, has, -, frozen⟩ := (frozen_since_misled start before
    (hd ▸ List.mem_singleton.2 rfl)).1 _ raised trivial
  obtain ⟨has', frozen, -⟩ := frozen later fun d hd closes => by
    have hstep := List.mem_map_of_mem (f := Deed.step) hd
    rw [steps] at hstep
    simp only [later, List.mem_cons, List.not_mem_nil, or_false] at hstep
    rcases hstep with h | h | h <;> exact (h ▸ closes : Step.Closes _)
  exact ⟨by decide +kernel, stream, has, data stream (List.mem_of_getElem? has), has', frozen⟩

/-- On a stream that cannot be used because a transfer was not admitted, a read of more bytes than
there are indices is refused for its size. -/
theorem unroomy_read_of_unusable :
    let settings : Settings := { target := "/run/letters", route := ⟨.direct, .given⟩ }
    let waiting : List Peer := [{ incoming := [.bytes (utf8 "busy\n")] }]
    let steps : List Step := [.start settings "r", .onStream 0 (.read (some 2)),
      .onStream 0 (.read (some 9223372036854775809))]
    let world : World := { host := { network := { waiting } } }
    begin 1 waiting = .ok world ∧
      (run steps world).1 = [.ok (.number 0), .error (.rejected "busy"), .error .sizeNotIndex] ∧
      ∀ stream ∈ (after steps world).streams, stream.outOfStep = some (.rejected "busy") := by
  decide +kernel

end World

end SessionStream
