import SessionStream.Proofs.CommandRecords
import SessionStream.Proofs.WillingPeers

/-!
# Copies

A copy reads a stream chunk by chunk, until it has all the bytes it was asked for, or until a
receive is empty or fails. What it has copied then is a beginning of what the peer of the data
connection delivers up to there, and how the peer cuts that into segments makes no difference.

## Main definitions

- `leading` — the bytes that come before the first receive that is empty or fails
- `Copied` — how a copy ends that has these segments before it
- `Working.negotiate` — the way to a data connection at an offset
- `Working.Ready` — a stream that has gone this way

## Main results

- `Working.outcome_copyTurns` — the loop of a copy
- `Working.Ready.copyRecord` — from the loop to the record of the command
- `CommandLine.cat_copies_range` — a copy of a range, whatever the peers do
-/

namespace SessionStream

open HasNetwork (network)

variable {c : ConnectionId} {es fs : List Event}

-- ════════════════════════════════════════════════════════════════════════
-- What a peer delivers
-- ════════════════════════════════════════════════════════════════════════

/-- The bytes that come before the first receive that is empty or fails. -/
def leading : List Segment → Bytes
  | .bytes (b :: bs) :: later => b :: bs ++ leading later
  | _ => []

namespace Peer

variable {size : Nat} {peer after : Peer} {bytes : Bytes}

/-- A receive that gives bytes takes them from what comes first. -/
theorem leading_eq_append (h : peer.deliver size = (.ok bytes, after)) (some : bytes ≠ []) :
    leading peer.incoming = bytes ++ leading after.incoming := by
  obtain ⟨incoming, acceptances⟩ := peer
  unfold deliver at h
  split at h
  · cases h
    exact absurd rfl some
  · dsimp only at h ⊢
    split at h
    · cases h
      exact absurd rfl some
    · cases h
    · next bs later =>
      cases h
      cases bs with
      | nil => exact absurd List.take_nil some
      | cons b bs =>
        cases kept : (b :: bs).drop size with
        | nil =>
          have all : (b :: bs).take size = b :: bs := by
            conv => rhs; rw [← List.take_append_drop size (b :: bs), kept, List.append_nil]
          rw [all]
          rfl
        | cons b' bs' =>
          have split := List.take_append_drop size (b :: bs)
          rw [kept] at split
          change b :: bs ++ leading later = _ ++ (b' :: bs' ++ leading later)
          rw [← List.append_assoc, split]

/-- Nothing comes before a receive that is empty. -/
theorem leading_eq_nil_of_empty (positive : size ≠ 0) (h : peer.deliver size = (.ok [], after)) :
    leading peer.incoming = [] := by
  obtain ⟨incoming, acceptances⟩ := peer
  unfold deliver at h
  rw [if_neg positive] at h
  dsimp only at h ⊢
  split at h
  · rfl
  · cases h
  · next bs later =>
    cases bs with
    | nil => rfl
    | cons b bs =>
      obtain ⟨size, rfl⟩ := Nat.exists_eq_succ_of_ne_zero positive
      cases h

/-- Nothing comes before a receive that fails. -/
theorem leading_eq_nil_of_fault {f : Fault} (h : peer.deliver size = (.error f, after)) :
    leading peer.incoming = [] := by
  obtain ⟨incoming, acceptances⟩ := peer
  unfold deliver at h
  split at h
  · cases h
  · dsimp only at h ⊢
    split at h
    · cases h
    · rfl
    · cases h

/-- Nothing comes before a receive that gives nothing. -/
theorem leading_eq_nil_of_nothing {r : Except Fault Bytes} (positive : size ≠ 0)
    (nothing : r.toOption.getD [] = []) (h : peer.deliver size = (r, after)) :
    leading peer.incoming = [] := by
  cases r with
  | error f => exact leading_eq_nil_of_fault h
  | ok bytes =>
    obtain rfl : bytes = [] := nothing
    exact leading_eq_nil_of_empty positive h

/-- What comes first is among what is still to come. -/
theorem length_leading_le (peer : Peer) : (leading peer.incoming).length ≤ peer.undelivered := by
  unfold undelivered
  generalize peer.incoming = incoming
  induction incoming with
  | nil => exact Nat.le_refl 0
  | cons segment later ih =>
    cases segment with
    | fault f => exact Nat.zero_le _
    | bytes bs =>
      cases bs with
      | nil => exact Nat.zero_le _
      | cons b bs =>
        rw [leading, List.flatMap_cons, List.length_append, List.length_append]
        exact Nat.add_le_add_left ih _

end Peer

/-- No peer has more to deliver than all of them. -/
theorem Network.undelivered_peer_le (net : Network) (c : ConnectionId) :
    (net.peer c).undelivered ≤ net.undelivered := by
  have all : (net.peer c).Leaves (net.peer c).undelivered 0 {} :=
    ⟨Nat.le_of_eq (Nat.zero_add _), Nat.zero_le _, List.nil_subset _⟩
  have spent : net.Leaves (fun _ => True) _ 0 (net.setPeer c {}) := leaves_setPeer all
  have less := spent.undelivered
  omega

-- ════════════════════════════════════════════════════════════════════════
-- One read
-- ════════════════════════════════════════════════════════════════════════

/-- The host after one receive on a data connection, with what its peer has left. -/
def Host.received (c : ConnectionId) (limit : Nat) (result : Option Bytes) (later : Peer)
    (host : Host) : Host :=
  { host with network := host.network.called c later [.receiveInto c limit result] }

namespace Link

variable {link after : Link} {host host' : Host} {α : Type}

theorem outcome_requireUsable_bind {f : Unit → Act (Held Link) α}
    (usable : link.outOfStep = none) :
    Act.outcome (requireUsable >>= f) ⟨link, host⟩ = Act.outcome (f ()) ⟨link, host⟩ := by
  unfold requireUsable
  rw [bind_assoc, Act.outcome_get_bind]
  dsimp only
  rw [usable]
  rfl

theorem outcome_requireDirection_bind {f : Unit → Act (Held Link) α} {wanted : Direction}
    {complaint : String} (same : link.session.direction = wanted) :
    Act.outcome (requireDirection wanted complaint >>= f) ⟨link, host⟩ =
      Act.outcome (f ()) ⟨link, host⟩ := by
  unfold requireDirection
  rw [bind_assoc, Act.outcome_get_bind]
  dsimp only
  rw [if_neg (not_not_intro same)]
  rfl

theorem outcome_dataConnection_of_data (has : link.data = some c) :
    Act.outcome dataConnection ⟨link, host⟩ = (.ok c, ⟨link, host⟩) := by
  unfold dataConnection
  rw [Act.outcome_get_bind]
  dsimp only
  rw [has]
  rfl

/-- A receive is one call on the data connection. -/
theorem outcome_receive (limit : Nat) (usable : link.outOfStep = none)
    (reads : link.session.direction = .read)
    (connected : Act.outcome dataConnection ⟨link, host⟩ = (.ok c, ⟨after, host'⟩)) :
    Act.outcome (receive limit) ⟨link, host⟩ =
      match (host'.network.peer c).deliver limit with
      | (.error f, later) => (.error (.fault f), ⟨after, host'.received c limit none later⟩)
      | (.ok bytes, later) =>
        if nonempty : bytes ≠ [] then
          (.ok ⟨bytes, nonempty⟩, ⟨{ after with position := after.position + bytes.length },
            host'.received c limit (some bytes) later⟩)
        else (.error (endOfStream after.position),
          ⟨after, host'.received c limit (some bytes) later⟩) := by
  unfold receive
  rw [outcome_requireUsable_bind usable, outcome_requireDirection_bind reads, Act.outcome_bind,
    connected]
  dsimp only
  have called : Act.outcome (Network.receiveInto c limit) host'.network =
      match (host'.network.peer c).deliver limit with
      | (.error f, later) =>
        (.error (.fault f), host'.network.called c later [.receiveInto c limit none])
      | (.ok bytes, later) =>
        (.ok bytes, host'.network.called c later [.receiveInto c limit (some bytes)]) := by
    unfold Act.outcome Network.receiveInto Network.call
    rcases (host'.network.peer c).deliver limit with ⟨f | bytes, later⟩ <;> rfl
  rw [Act.outcome_bind, Act.outcome_onHeldNetwork, called]
  rcases (host'.network.peer c).deliver limit with ⟨f | bytes, later⟩
  · rfl
  · dsimp only
    by_cases nonempty : bytes ≠ []
    · rw [dif_pos nonempty, dif_pos nonempty]
      rfl
    · rw [dif_neg nonempty, dif_neg nonempty]
      rfl

/-- The bytes of a read, or how it failed, after a receive. -/
def readOutcome (position : Nat) : Except Fault Bytes → Except Failure Bytes
  | .error f => .error (.fault f)
  | .ok bytes =>
    if bytes = [] ∧ ¬Text.Writable position then .error .numberTooLong else .ok bytes

theorem readOutcome_of_ne_nil {bytes : Bytes} (position : Nat) (nonempty : bytes ≠ []) :
    readOutcome position (.ok bytes) = .ok bytes := by
  simp only [readOutcome, nonempty, false_and, if_false]

theorem readOutcome_of_writable {position : Nat} (bytes : Bytes)
    (writable : Text.Writable position) : readOutcome position (.ok bytes) = .ok bytes := by
  simp only [readOutcome, writable, not_true_eq_false, and_false, if_false]

theorem readOutcome_nil {position : Nat} (long : ¬Text.Writable position) :
    readOutcome position (.ok []) = .error .numberTooLong := by
  simp only [readOutcome, long, not_false_eq_true, and_self, if_true]

/-- A read is one call on the data connection. At the end of the stream it gives no bytes, unless
the position is too long to be written down. -/
theorem outcome_read {size : Nat} (positive : size ≠ 0) (usable : link.outOfStep = none)
    (reads : link.session.direction = .read)
    (connected : Act.outcome dataConnection ⟨link, host⟩ = (.ok c, ⟨after, host'⟩)) :
    Act.outcome (read size) ⟨link, host⟩ =
      match (host'.network.peer c).deliver size with
      | (r, later) => (readOutcome after.position r,
        ⟨{ after with position := after.position + (r.toOption.getD []).length },
          host'.received c size r.toOption later⟩) := by
  unfold read
  rw [if_neg positive, Act.outcome_tryCatch, map_eq_pure_bind, Act.outcome_bind,
    outcome_receive size usable reads connected]
  rcases (host'.network.peer c).deliver size with ⟨f | bytes, later⟩
  · rfl
  · dsimp only
    by_cases nonempty : bytes ≠ []
    · rw [dif_pos nonempty, readOutcome_of_ne_nil after.position nonempty]
      rfl
    · obtain rfl : bytes = [] := by simpa using nonempty
      rw [dif_neg nonempty]
      unfold endOfStream
      by_cases short : Text.Writable after.position
      · rw [Failure.quoting_of_writable _ short, readOutcome_of_writable [] short]
        rfl
      · rw [Failure.quoting_of_long _ short, readOutcome_nil short]
        rfl

/-- A link without a data connection moves to a position without calling on anybody. -/
theorem outcome_seek_start (offset : Nat) (host : Host) (usable : link.outOfStep = none)
    (without : link.data = none) :
    ∃ log, Act.outcome (seek offset Origin.start.code) ⟨link, host⟩ =
      (.ok offset, ⟨{ link with position := offset }, { host with log }⟩) := by
  refine ⟨host.log ++ [⟨.info, .stream, s!"SEEK_SET {link.position} {(offset : Int)}"⟩], ?_⟩
  have moved (host : Host) : Act.outcome (moveTo offset) ⟨link, host⟩ =
      (.ok offset, ⟨{ link with position := offset }, host⟩) := by
    have nonneg : ¬(offset : Int) < 0 := Int.not_lt.2 (Int.natCast_nonneg offset)
    have released : Act.outcome releaseData ⟨link, host⟩ = (.ok (), ⟨link, host⟩) := by
      unfold releaseData
      rw [Act.outcome_get_bind]
      dsimp only
      rw [without]
      rfl
    unfold moveTo
    rw [if_neg nonneg, Int.toNat_natCast]
    dsimp only
    rw [Act.outcome_get_bind]
    dsimp only
    split
    · rw [Act.outcome_bind, released]
      rfl
    · rfl
  unfold seek
  rw [outcome_requireUsable_bind usable, Act.outcome_get_bind]
  dsimp only
  rw [show Origin.ofCode? Origin.start.code = some .start from rfl]
  dsimp only
  rw [outcome_note_bind, map_eq_pure_bind, Act.outcome_bind]
  rw [show Held.logged _ _ = (⟨link, host.logged _⟩ : Held Link) from rfl, moved]
  rfl

/-- A link stays in step when its data connection comes about. -/
theorem Connecting.usable_of_ok (h : Connecting link es (.ok c) after)
    (usable : link.outOfStep = none) : after.outOfStep = none := by
  cases h <;> exact usable

end Link

-- ════════════════════════════════════════════════════════════════════════
-- The copy
-- ════════════════════════════════════════════════════════════════════════

/-- These calls do nothing but ask a connection for bytes. -/
def Receives (c : ConnectionId) (es : List Event) : Prop :=
  ∀ e ∈ es, ∃ limit result, e = .receiveInto c limit result

theorem Receives.one (c : ConnectionId) (limit : Nat) (result : Option Bytes) :
    Receives c [.receiveInto c limit result] :=
  fun _ he => ⟨limit, result, List.mem_singleton.1 he⟩

theorem Receives.append (h : Receives c es) (h' : Receives c fs) : Receives c (es ++ fs) :=
  fun e he => (List.mem_append.1 he).elim (h e) (h' e)

theorem Receives.traffic (h : Receives c es) : Traffic c es := by
  intro e he
  obtain ⟨limit, result, rfl⟩ := h e he
  exact ⟨rfl, rfl, rfl⟩

/-- To receive offers no bytes. -/
theorem Receives.accepted_eq_nil (h : Receives c es) (k : ConnectionId) : accepted k es = [] := by
  refine List.flatMap_eq_nil_iff.2 fun e he => ?_
  obtain ⟨limit, result, rfl⟩ := h e he
  rfl

/-- To receive payload reads no line. -/
theorem Receives.delivered_eq_nil (h : Receives c es) (k : ConnectionId) : delivered k es = [] := by
  refine List.flatMap_eq_nil_iff.2 fun e he => ?_
  obtain ⟨limit, result, rfl⟩ := h e he
  rfl

/-- None of these calls asks for payload. -/
def Unread (es : List Event) : Prop :=
  ∀ c limit result, .receiveInto c limit result ∉ es

theorem Unread.append (h : Unread es) (h' : Unread fs) : Unread (es ++ fs) :=
  fun c limit result he => (List.mem_append.1 he).elim (h c limit result) (h' c limit result)

theorem Outward.unread (h : Outward es) : Unread es :=
  fun _ _ _ he => absurd (h _ he) (Bool.noConfusion)

theorem Wire.Exchanged.unread {line : Bytes} {r : Except Failure Bytes}
    (h : Exchanged c line es r) : Unread es := by
  cases h with
  | unsent sends => exact sends.outward.unread
  | sent sends receives =>
    refine sends.outward.unread.append fun c limit result he => ?_
    obtain ⟨result, same⟩ := receives.isReceive _ he
    cases same

/-- Payload is only asked for on a data connection that there is. -/
theorem Link.Connecting.unread {link after : Link} (h : Connecting link es (.ok c) after) :
    Unread es := by
  cases h with
  | kept => exact fun c limit result => List.not_mem_nil
  | joined _ exchange _ join => exact exchange.unread.append join.greeting_of_ok.1.outward.unread

/-- No line is read from a new data connection. -/
theorem Link.Connecting.delivered_eq_nil {link after : Link} (h : Connecting link es (.ok c) after)
    (other : c ≠ link.control) : delivered c es = [] := by
  cases h with
  | kept => rfl
  | joined _ exchange _ join =>
    rw [delivered_append, (untouched_of_target exchange.target? other).delivered_eq_nil,
      join.greeting_of_ok.1.outward.delivered_eq_nil]
    rfl

theorem Unread.received_eq_nil (h : Unread es) (c : ConnectionId) : received c es = [] := by
  refine List.flatMap_eq_nil_iff.2 fun e he => ?_
  cases e with
  | receiveInto c limit result => exact absurd he (h c limit result)
  | _ => rfl

/-- Calls on a connection add themselves to the record. -/
theorem Network.extends_called (net : Network) (c : ConnectionId) (later : Peer)
    (none : opened es = []) : net.Extends es (net.called c later es) where
  trace_eq := rfl
  numbered numbered := by
    simp only [Numbered, called, opened_append, none, List.append_nil, List.length_set]
    exact numbered

/-- How a copy of `remaining` bytes ends that starts at `position`, from a peer that has these
segments to deliver. -/
inductive Copied (c : ConnectionId) (remaining : Option Nat) (position : Nat)
    (incoming : List Segment) (es : List Event) : Except Failure Unit → Prop
  /-- All bytes that were asked for have come. -/
  | filled {n : Nat} (asked : remaining = some n) (enough : n ≤ (leading incoming).length)
      (full : ∀ size, .receiveInto c size (some []) ∉ es) :
      Copied c remaining position incoming es (.ok ())
  /-- A receive was empty. -/
  | ended {size : Nat} (short : ∀ n ∈ remaining, (leading incoming).length < n)
      (empty : .receiveInto c size (some []) ∈ es)
      (writable : Text.Writable ((position + (leading incoming).length : Nat) : Int)) :
      Copied c remaining position incoming es (.ok ())
  /-- A receive was empty, at a position that is too long to be written down. -/
  | unwritable {size : Nat} (short : ∀ n ∈ remaining, (leading incoming).length < n)
      (empty : .receiveInto c size (some []) ∈ es)
      (long : ¬Text.Writable ((position + (leading incoming).length : Nat) : Int)) :
      Copied c remaining position incoming es (.error .numberTooLong)
  /-- A receive failed. -/
  | failed (fault : Fault) (short : ∀ n ∈ remaining, (leading incoming).length < n)
      (full : ∀ size, .receiveInto c size (some []) ∉ es) :
      Copied c remaining position incoming es (.error (.fault fault))

/-- A copy ends well if it has all that was asked for, or if a receive was empty at a position that
can be written down. -/
theorem Copied.ok_iff {remaining : Option Nat} {position : Nat} {incoming : List Segment}
    {r : Except Failure Unit} (h : Copied c remaining position incoming es r) :
    r = .ok () ↔ (∃ n ∈ remaining, n ≤ (leading incoming).length) ∨
      (∃ size, .receiveInto c size (some []) ∈ es) ∧
        Text.Writable ((position + (leading incoming).length : Nat) : Int) := by
  cases h with
  | filled asked enough => exact ⟨fun _ => .inl ⟨_, asked, enough⟩, fun _ => rfl⟩
  | ended _ empty writable => exact ⟨fun _ => .inr ⟨⟨_, empty⟩, writable⟩, fun _ => rfl⟩
  | unwritable short _ long =>
    refine ⟨fun fine => (by cases fine), ?_⟩
    rintro (⟨n, asked, enough⟩ | ⟨-, writable⟩)
    · exact absurd enough (Nat.not_le_of_lt (short n asked))
    · exact absurd writable long
  | failed _ short full =>
    refine ⟨fun fine => (by cases fine), ?_⟩
    rintro (⟨n, asked, enough⟩ | ⟨⟨size, empty⟩, -⟩)
    · exact absurd enough (Nat.not_le_of_lt (short n asked))
    · exact absurd empty (full size)

/-- Only the receives that were empty matter. -/
theorem Copied.congr {remaining : Option Nat} {position : Nat} {incoming : List Segment}
    {r : Except Failure Unit} (h : Copied c remaining position incoming es r)
    (same : ∀ size, .receiveInto c size (some []) ∈ es ↔ .receiveInto c size (some []) ∈ fs) :
    Copied c remaining position incoming fs r := by
  cases h with
  | filled asked enough full => exact .filled asked enough fun size => (same size).not.1 (full size)
  | ended short empty writable => exact .ended short ((same _).1 empty) writable
  | unwritable short empty long => exact .unwritable short ((same _).1 empty) long
  | failed fault short full => exact .failed fault short fun size => (same size).not.1 (full size)

/-- What is left to be copied behind the first bytes. -/
theorem elim_take_append {bytes rest : Bytes} {remaining : Option Nat}
    (fits : ∀ n ∈ remaining, bytes.length ≤ n) :
    bytes ++ (remaining.map (· - bytes.length)).elim rest rest.take =
      remaining.elim (bytes ++ rest) (bytes ++ rest).take := by
  cases remaining with
  | none => rfl
  | some n =>
    change bytes ++ rest.take (n - bytes.length) = (bytes ++ rest).take n
    rw [List.take_append, List.take_of_length_le (fits n rfl)]

/-- A receive that gives nothing ends a copy. -/
theorem Copied.last {remaining : Option Nat} {position size : Nat} {peer later : Peer}
    {r : Except Fault Bytes} (positive : size ≠ 0) (within : ∀ n ∈ remaining, size ≤ n)
    (nothing : r.toOption.getD [] = []) (delivers : peer.deliver size = (r, later)) :
    Copied c remaining position peer.incoming [.receiveInto c size r.toOption]
      ((Link.readOutcome position r).map fun _ => ()) := by
  have empty := Peer.leading_eq_nil_of_nothing positive nothing delivers
  have short : ∀ n ∈ remaining, (leading peer.incoming).length < n := fun n asked => by
    rw [empty]
    exact Nat.lt_of_lt_of_le (Nat.pos_of_ne_zero positive) (within n asked)
  have place : position + (leading peer.incoming).length = position := by
    rw [empty]
    rfl
  cases r with
  | error f =>
    refine .failed f short fun size' there => ?_
    cases List.mem_singleton.1 there
  | ok bytes =>
    obtain rfl : bytes = [] := nothing
    have there : Event.receiveInto c size (some []) ∈ [Event.receiveInto c size (some [])] :=
      List.mem_singleton.2 rfl
    by_cases writable : Text.Writable position
    · rw [Link.readOutcome_of_writable [] writable]
      exact .ended short there (place.symm ▸ writable)
    · rw [Link.readOutcome_nil writable]
      exact .unwritable short there (place.symm ▸ writable)

/-- The first bytes of a copy, and the copy behind them. -/
theorem Copied.behind {remaining : Option Nat} {position size : Nat} {bytes : Bytes}
    {peer later : Peer} {r : Except Failure Unit} (nonempty : bytes ≠ [])
    (delivers : peer.deliver size = (.ok bytes, later)) (fits : ∀ n ∈ remaining, bytes.length ≤ n)
    (h : Copied c (remaining.map (· - bytes.length)) (position + bytes.length) later.incoming es
      r) :
    Copied c remaining position peer.incoming (.receiveInto c size (some bytes) :: es) r := by
  have first := Peer.leading_eq_append delivers nonempty
  have count : (leading peer.incoming).length = bytes.length + (leading later.incoming).length := by
    rw [first, List.length_append]
  have short (h : ∀ n ∈ remaining.map (· - bytes.length), (leading later.incoming).length < n) :
      ∀ n ∈ remaining, (leading peer.incoming).length < n := by
    intro n asked
    have less := h _ (Option.mem_map_of_mem _ asked)
    omega
  have full (h : ∀ size, .receiveInto c size (some []) ∉ es) :
      ∀ size', .receiveInto c size' (some []) ∉
        .receiveInto c size (some bytes) :: es := by
    intro size' there
    rcases List.mem_cons.1 there with same | there
    · cases same
      exact nonempty rfl
    · exact h size' there
  have place : position + (leading peer.incoming).length =
      position + bytes.length + (leading later.incoming).length := by
    rw [count, Nat.add_assoc]
  cases h with
  | filled asked enough none =>
    obtain ⟨n, whole, rfl⟩ := Option.map_eq_some_iff.1 asked
    refine .filled whole ?_ (full none)
    omega
  | ended less empty writable =>
    exact .ended (short less) (List.mem_cons_of_mem _ empty) (place ▸ writable)
  | unwritable less empty long =>
    exact .unwritable (short less) (List.mem_cons_of_mem _ empty) (place ▸ long)
  | failed fault less none => exact .failed fault (short less) (full none)

namespace Working

open ByteStream (wantedSize_natCast)

variable {link after : Link} {host host' : Host} {work : Bytes} {remaining : Option Nat}

/-- A read of a command is a read of its link. -/
theorem outcome_onStream_read {size : Nat} (roomy : link.Roomy)
    (few : size ≤ Link.defaultReadSize) :
    Act.outcome (onStream (ByteStream.read (some (size : Int))))
        (⟨⟨.opened link, work⟩, host⟩ : Held (Working Bytes)) =
      ((Act.outcome (Link.read size) ⟨link, host⟩).1,
        ⟨⟨.opened (Act.outcome (Link.read size) ⟨link, host⟩).2.own, work⟩,
          (Act.outcome (Link.read size) ⟨link, host⟩).2.host⟩) := by
  have read : Act.outcome (ByteStream.read (some (size : Int))) ⟨.opened link, host⟩ =
      Act.outcome (ByteStream.whileOpen (Link.read size)) ⟨.opened link, host⟩ := by
    have fits : Buffer.Fits (ByteStream.opened link).settings.memory size := roomy.of_le few
    unfold ByteStream.read
    rw [wantedSize_natCast, ByteStream.outcome_reserve_bind fits]
  rw [outcome_onStream]
  rw [show streamOf _ = (⟨.opened link, host⟩ : Held ByteStream) from rfl, read,
    ByteStream.outcome_whileOpen_opened]
  rfl

/-- A turn of a copy into a file that takes everything is a read; it is the last one if that fails
or gives no bytes. -/
theorem outcome_copyTurns_turn {turns : Nat} (roomy : link.Roomy) (more : remaining ≠ some 0) :
    Act.outcome (copyTurns (turns + 1) remaining []) ⟨⟨.opened link, work⟩, host⟩ =
      match Act.outcome (Link.read (turnSize remaining)) ⟨link, host⟩ with
      | (.error e, held) => (.error e, ⟨⟨.opened held.own, work⟩, held.host⟩)
      | (.ok chunk, held) =>
        if chunk = [] then (.ok (), ⟨⟨.opened held.own, work⟩, held.host⟩)
        else Act.outcome (copyTurns turns (remaining.map (· - chunk.length)) [])
          ⟨⟨.opened held.own, work ++ chunk⟩, held.host⟩ := by
  obtain ⟨-, few, -⟩ := turnSize_spec more
  rw [copyTurns, if_neg more]
  change Act.outcome (onStream (ByteStream.read (some (turnSize remaining : Int))) >>= _) _ = _
  rw [Act.outcome_bind, outcome_onStream_read roomy few]
  rcases Act.outcome (Link.read (turnSize remaining)) ⟨link, host⟩ with ⟨e | chunk, held⟩
  · rfl
  · cases chunk <;> rfl

/-- A copy makes its data connection first, if it copies anything at all. -/
theorem outcome_copyTurns_of_connected {turns : Nat} (roomy : link.Roomy)
    (more : remaining ≠ some 0) (usable : link.outOfStep = none)
    (reads : link.session.direction = .read)
    (connected : Act.outcome Link.dataConnection ⟨link, host⟩ = (.ok c, ⟨after, host'⟩))
    (connecting : Link.Connecting link es (.ok c) after) :
    Act.outcome (copyTurns (turns + 1) remaining []) ⟨⟨.opened link, work⟩, host⟩ =
      Act.outcome (copyTurns (turns + 1) remaining []) ⟨⟨.opened after, work⟩, host'⟩ := by
  obtain ⟨positive, -, -⟩ := turnSize_spec more
  have reads' : after.session.direction = .read := connecting.direction_eq.trans reads
  rw [outcome_copyTurns_turn roomy more,
    outcome_copyTurns_turn (connecting.roomy usable roomy) more,
    Link.outcome_read positive usable reads connected,
    Link.outcome_read positive (connecting.usable_of_ok usable) reads'
      (Link.outcome_dataConnection_of_data connecting.data_eq)]

/-- The turn of a copy that is given nothing. -/
theorem outcome_copyTurns_last {turns : Nat} {r : Except Fault Bytes} {later : Peer}
    (roomy : link.Roomy) (more : remaining ≠ some 0) (usable : link.outOfStep = none)
    (reads : link.session.direction = .read) (has : link.data = some c)
    (nothing : r.toOption.getD [] = [])
    (delivers : (host.network.peer c).deliver (turnSize remaining) = (r, later)) :
    Act.outcome (copyTurns (turns + 1) remaining []) ⟨⟨.opened link, work⟩, host⟩ =
      ((Link.readOutcome link.position r).map fun _ => (),
        ⟨⟨.opened link, work⟩, host.received c (turnSize remaining) r.toOption later⟩) := by
  obtain ⟨positive, -, -⟩ := turnSize_spec more
  rw [outcome_copyTurns_turn roomy more, Link.outcome_read positive usable reads
    (Link.outcome_dataConnection_of_data has), delivers]
  dsimp only
  rw [nothing]
  cases r with
  | error f => rfl
  | ok bytes =>
    obtain rfl : bytes = [] := nothing
    by_cases writable : Text.Writable link.position
    · rw [Link.readOutcome_of_writable [] writable]
      rfl
    · rw [Link.readOutcome_nil writable]
      rfl

/-- The turn of a copy that is given some bytes. -/
theorem outcome_copyTurns_next {turns : Nat} {bytes : Bytes} {later : Peer}
    (roomy : link.Roomy) (more : remaining ≠ some 0) (usable : link.outOfStep = none)
    (reads : link.session.direction = .read) (has : link.data = some c) (nonempty : bytes ≠ [])
    (delivers : (host.network.peer c).deliver (turnSize remaining) = (.ok bytes, later)) :
    Act.outcome (copyTurns (turns + 1) remaining []) ⟨⟨.opened link, work⟩, host⟩ =
      Act.outcome (copyTurns turns (remaining.map (· - bytes.length)) [])
        ⟨⟨.opened { link with position := link.position + bytes.length }, work ++ bytes⟩,
          host.received c (turnSize remaining) (some bytes) later⟩ := by
  obtain ⟨positive, -, -⟩ := turnSize_spec more
  rw [outcome_copyTurns_turn roomy more, Link.outcome_read positive usable reads
    (Link.outcome_dataConnection_of_data has), delivers]
  dsimp only
  rw [Link.readOutcome_of_ne_nil link.position nonempty]
  dsimp only
  rw [if_neg nonempty]
  rfl

theorem nothing_of_nothing (remaining : Option Nat) :
    ([] : Bytes) = remaining.elim [] ([] : Bytes).take := by
  cases remaining with
  | none => rfl
  | some n => exact List.take_nil.symm

/-- **The loop of a copy** into a file that takes everything. -/
theorem outcome_copyTurns (turns : Nat) (remaining : Option Nat) (link : Link) (work : Bytes)
    (host : Host) (roomy : link.Roomy) (has : link.data = some c)
    (usable : link.outOfStep = none) (reads : link.session.direction = .read)
    (made : c.index < host.network.connections.length)
    (enough : (leading (host.network.peer c).incoming).length < turns) :
    ∃ r later es copied,
      Act.outcome (copyTurns turns remaining []) ⟨⟨.opened link, work⟩, host⟩ =
        (r, ⟨⟨.opened { link with position := link.position + copied.length }, work ++ copied⟩,
          { host with network := host.network.called c later es }⟩) ∧
      copied = remaining.elim (leading (host.network.peer c).incoming)
        (leading (host.network.peer c).incoming).take ∧
      received c es = copied ∧ Receives c es ∧
      Copied c remaining link.position (host.network.peer c).incoming es r := by
  induction turns generalizing link host work remaining with
  | zero => omega
  | succ turns ih =>
    -- Every turn but the last takes a byte of what comes first, so there are enough of them.
    by_cases more : remaining = some 0
    · unfold copyTurns
      rw [if_pos more]
      subst more
      refine ⟨.ok (), host.network.peer c, [], [], ?_, rfl, rfl, fun _ he => ?_,
        .filled rfl (Nat.zero_le _) fun _ => List.not_mem_nil⟩
      · rw [Network.called_self, List.append_nil, List.append_nil]
        rfl
      · cases he
    obtain ⟨positive, -, within⟩ := turnSize_spec more
    rcases delivers : (host.network.peer c).deliver (turnSize remaining) with ⟨r, later⟩
    by_cases nothing : r.toOption.getD [] = []
    · have empty := Peer.leading_eq_nil_of_nothing positive nothing delivers
      refine ⟨_, later, [.receiveInto c (turnSize remaining) r.toOption], [], ?_, ?_, ?_,
        .one c _ _, .last positive within nothing delivers⟩
      · rw [outcome_copyTurns_last roomy more usable reads has nothing delivers, List.append_nil]
        rfl
      · rw [empty]
        exact nothing_of_nothing remaining
      · rw [received_cons_self, nothing]
        rfl
    cases r with
    | error f => exact absurd rfl nothing
    | ok bytes =>
      have nonempty : bytes ≠ [] := nothing
      have first := Peer.leading_eq_append delivers nonempty
      have fits (n : Nat) (asked : n ∈ remaining) : bytes.length ≤ n :=
        Nat.le_trans (Peer.length_le_of_deliver delivers) (within n asked)
      let mid : Host := host.received c (turnSize remaining) (some bytes) later
      have here : mid.network.peer c = later := by
        rw [show mid.network = host.network.called c later _ from rfl, Network.peer_called,
          if_pos ⟨rfl, made⟩]
      have made' : c.index < mid.network.connections.length :=
        Nat.lt_of_lt_of_eq made List.length_set.symm
      have enough' : (leading (mid.network.peer c).incoming).length < turns := by
        have positive := List.length_pos_iff.2 nonempty
        rw [here]
        rw [first, List.length_append] at enough
        omega
      obtain ⟨r, last, es, copied, ended, all, gave, receives, copy⟩ :=
        ih (remaining.map (· - bytes.length))
          { link with position := link.position + bytes.length } (work ++ bytes) mid roomy has
          usable reads made' enough'
      rw [here] at all copy
      refine ⟨r, last, .receiveInto c (turnSize remaining) (some bytes) :: es, bytes ++ copied,
        ?_, ?_, ?_, (Receives.one c _ _).append receives, copy.behind nonempty delivers fits⟩
      · rw [outcome_copyTurns_next roomy more usable reads has nonempty delivers, ended]
        simp only [mid, Host.received, Network.called_called, List.append_assoc,
          List.length_append, Nat.add_assoc]
        rfl
      · rw [all, first]
        exact elim_take_append fits
      · rw [← gave]
        simp

/-- The body of a copy into a file that takes everything. -/
def copyFrom (offset : Nat) (length : Option Nat) : Act (Held (Working Bytes)) Unit := do
  startAt offset
  copyOut length []

-- ════════════════════════════════════════════════════════════════════════
-- The way to the data connection
-- ════════════════════════════════════════════════════════════════════════

/-- A stream is opened and moved to an offset, and its data connection is made there. -/
def negotiate (offset : Nat) : Act (Held (Working Bytes)) ConnectionId := do
  onStream ByteStream.connect
  startAt offset
  onStream (ByteStream.whileOpen Link.dataConnection)

/-- A stream that has just been opened is moved to the offset, and nobody is called on. -/
theorem outcome_startAt (offset : Nat) (host : Host) (work : Bytes) (fresh : link.Fresh) :
    ∃ log, Act.outcome (startAt offset) ⟨⟨.opened link, work⟩, host⟩ =
      (.ok (), ⟨⟨.opened { link with position := offset }, work⟩, { host with log }⟩) := by
  unfold startAt
  split
  · obtain ⟨log, ended⟩ :=
      Link.outcome_seek_start offset host fresh.outOfStep fresh.data
    refine ⟨log, ?_⟩
    rw [discard_eq_bind, Act.outcome_bind, outcome_onStream]
    rw [show streamOf _ = (⟨.opened link, host⟩ : Held ByteStream) from rfl]
    unfold ByteStream.seek
    rw [ByteStream.outcome_whileOpen_opened, ended]
    rfl
  · next stays =>
    obtain rfl : offset = 0 := by simpa using stays
    refine ⟨host.log, ?_⟩
    rw [show ({ link with position := 0 } : Link) = link by rw [← fresh.position]]
    rfl

/-- A stream that is ready for a copy: it has been opened and moved to an offset, and has its data
connection. -/
structure Ready (invocation : Invocation) (range : Timeout.Range) (net : Network) (offset : Nat)
    (c : ConnectionId) (link after : Link) (fresh host : Host) (log : List Log.Entry) : Prop where
  opens : Act.outcome ByteStream.connect ⟨invocation.stream range, { network := net }⟩ =
    (.ok (), ⟨.opened link, fresh⟩)
  starts : Act.outcome (startAt offset) (⟨⟨.opened link, []⟩, fresh⟩ : Held (Working Bytes)) =
    (.ok (), ⟨⟨.opened { link with position := offset }, []⟩, { fresh with log }⟩)
  connects : Act.outcome Link.dataConnection
    ⟨{ link with position := offset }, { fresh with log }⟩ = (.ok c, ⟨after, host⟩)

/-- Between willing peers a stream gets its data connection at any offset that can be written
down. -/
theorem negotiate_of_willing {invocation : Invocation} {net : Network} {offset : Nat}
    {rest : List Acceptance} {fresh : Host}
    (opened : Act.outcome ByteStream.connect ⟨invocation.stream range, { network := net }⟩ =
      (.ok (), ⟨.opened link, fresh⟩))
    (writable : Text.Writable offset) (made : link.control.index < fresh.network.connections.length)
    (willing : (fresh.network.peer link.control).Admits
      (Command.transfer invocation.direction offset).line.length)
    (ready : fresh.network.nextPeer.Ready (invocation.settings range) 1)
    (takes : TakesLine (Command.runSession 1).line.length fresh.network.nextPeer.acceptances rest) :
    ∃ after, Act.outcome (negotiate offset) ⟨⟨invocation.stream range, []⟩, { network := net }⟩ =
        (.ok fresh.network.nextId, after) ∧
      after.host.network.peer fresh.network.nextId =
        { fresh.network.nextPeer with acceptances := rest } := by
  obtain ⟨link', -, isOpen, new, serves, -, -⟩ := Invocation.opened_of_connect opened
  obtain rfl := ByteStream.opened.inj isOpen
  obtain ⟨log, started⟩ := outcome_startAt offset fresh [] new
  have announcement : Link.announcement { link with position := offset } =
      .transfer invocation.direction offset :=
    congrArg (fun session : Session => Command.transfer session.direction offset) serves.session
  have known : ({ link with position := offset } : Link).session.id = some 1 :=
    congrArg Session.id serves.session
  rw [← announcement] at willing
  rw [← serves.settings] at ready
  obtain ⟨host, connected, there⟩ := Link.outcome_dataConnection { link with position := offset }
    { fresh with log } new.data known writable made willing ready takes
  refine ⟨⟨⟨.opened { link with position := offset, data := some fresh.network.nextId }, []⟩, host⟩,
    ?_, there⟩
  unfold negotiate
  rw [Act.outcome_bind, outcome_onStream]
  rw [show streamOf _ = (⟨invocation.stream range, { network := net }⟩ : Held ByteStream) from rfl,
    opened]
  dsimp only [carry]
  rw [Act.outcome_bind, started]
  dsimp only
  rw [outcome_onStream]
  rw [show streamOf _ = (⟨.opened { link with position := offset }, { fresh with log }⟩ :
    Held ByteStream) from rfl, ByteStream.outcome_whileOpen_opened, connected]
  rfl

namespace Ready

variable {invocation : Invocation} {net : Network} {waiting : List Peer} {offset : Nat}
  {length : Option Nat} {fresh : Host} {log : List Log.Entry}

/-- The only way to get ready. -/
theorem of_negotiate (invocation : Invocation) {ready : Held (Working Bytes)}
    (negotiated : Act.outcome (negotiate offset)
      ⟨⟨invocation.stream range, []⟩, { network := net }⟩ = (.ok c, ready)) :
    ∃ link after fresh host log, Ready invocation range net offset c link after fresh host log ∧
      ready = ⟨⟨.opened after, []⟩, host⟩ := by
  unfold negotiate at negotiated
  rw [Act.outcome_bind, outcome_onStream] at negotiated
  rw [show streamOf _ = (⟨invocation.stream range, { network := net }⟩ : Held ByteStream) from rfl]
    at negotiated
  cases opened : Act.outcome ByteStream.connect ⟨invocation.stream range, { network := net }⟩ with
  | mk r mid =>
    rw [opened] at negotiated
    cases r with
    | error e => cases negotiated
    | ok u =>
      obtain ⟨link, -, isOpen, new, -, -, -⟩ := Invocation.opened_of_connect opened
      obtain ⟨own, fresh⟩ := mid
      obtain rfl : own = .opened link := isOpen
      dsimp only [carry] at negotiated
      obtain ⟨log, started⟩ := outcome_startAt offset fresh [] new
      rw [Act.outcome_bind, started] at negotiated
      dsimp only at negotiated
      rw [outcome_onStream] at negotiated
      rw [show streamOf _ = (⟨.opened { link with position := offset }, { fresh with log }⟩ :
        Held ByteStream) from rfl, ByteStream.outcome_whileOpen_opened] at negotiated
      cases connected : Act.outcome Link.dataConnection
        ⟨{ link with position := offset }, { fresh with log }⟩ with
      | mk r mid =>
        rw [connected] at negotiated
        cases negotiated
        exact ⟨_, _, _, _, _, ⟨opened, started, connected⟩, rfl⟩

/-- What stands behind the three steps. -/
theorem calls (ready : Ready invocation range net offset c link after fresh host log) :
    ∃ es fs, link.Fresh ∧ link.Serves invocation range ∧ net.Extends es fresh.network ∧
      Session.Joining (invocation.settings range).route link.address
        (invocation.settings range).timeout.effective
        { direction := invocation.direction } es (.ok link.control) link.session ∧
      Link.Connecting { link with position := offset } fs (.ok c) after ∧
      fresh.network.Extends fs host.network := by
  obtain ⟨link', es, isOpen, new, serves, grows, join⟩ := Invocation.opened_of_connect ready.opens
  obtain rfl := ByteStream.opened.inj isOpen
  obtain ⟨fs, grows', connecting⟩ :=
    Link.dataConnection_does ⟨{ link with position := offset }, { fresh with log }⟩
  rw [ready.connects] at grows' connecting
  exact ⟨es, fs, new, serves, grows, join, connecting, grows'⟩

/-- The peer of the data connection has no more to deliver than the network had before. -/
theorem enough (ready : Ready invocation range net offset c link after fresh host log) :
    (leading (host.network.peer c).incoming).length < fresh.network.undelivered + 1 := by
  have frugal : Act.Frugal (fun _ => True) Link.dataConnection := Link.dataConnection_frugal
  have pays := frugal.pays ⟨{ link with position := offset }, { fresh with log }⟩
    fun _ _ _ _ => trivial
  rw [ready.connects] at pays
  have less := pays.leaves.undelivered
  have first := (host.network.peer c).length_leading_le
  have part := host.network.undelivered_peer_le c
  change host.network.undelivered + 0 ≤ fresh.network.undelivered at less
  omega

/-- What the way to the data connection leaves on record. -/
structure Record (offset : Nat) (control c : ConnectionId) (net : Network) : Prop where
  numbered : net.Numbered
  connections : opened net.trace = [control, c]
  announced : accepted control net.trace =
    (Command.newSession .read 1).line ++ (Command.transfer .read offset).line
  bound : accepted c net.trace = (Command.runSession 1).line
  unheard : delivered c net.trace = []
  kept : control ∉ closed net.trace
  unread : Unread net.trace

theorem record (ready : Ready invocation range { waiting } offset c link after fresh host log)
    (reads : invocation.direction = .read) :
    Record offset link.control c host.network ∧ after.control = link.control ∧
      after.data = some c ∧ after.position = offset ∧ after.outOfStep = none ∧
      after.session.direction = .read := by
  obtain ⟨es, fs, new, serves, grows, join, connecting, grows'⟩ := ready.calls
  obtain ⟨made, kept, greeting⟩ := serves.greeting join
  have whole := grows.trans grows'
  have trace : host.network.trace = es ++ fs := whole.trace_eq
  have numbered : host.network.Numbered := whole.numbered rfl
  have nodup := numbered.nodup
  rw [trace, opened_append, made.opened_eq] at nodup
  have apart : link.control ∉ opened fs := (List.nodup_cons.1 nodup).1
  have known : link.session = { direction := .read, id := some 1 } := reads ▸ serves.session
  have negotiating := connecting.negotiating new.data (congrArg Session.id known) apart
  refine ⟨?_, ?_, connecting.data_eq, connecting.position_eq, connecting.usable_of_ok new.outOfStep,
    connecting.direction_eq.trans (congrArg Session.direction known)⟩
  · cases negotiating with
    | bound second announced line kept' =>
      have other : c ≠ link.control := by
        rintro rfl
        exact apart (second ▸ List.mem_singleton.2 rfl)
      have announced : accepted link.control fs =
          (Command.transfer link.session.direction offset).line := announced
      refine ⟨numbered, ?_, ?_, ?_, ?_, ?_, ?_⟩
      · rw [trace, opened_append, made.opened_eq, second]
        rfl
      · rw [trace, accepted_append, greeting, announced, known, reads]
      · rw [trace, accepted_append, line,
          (untouched_of_target made.target other).accepted_eq_nil, List.nil_append]
      · rw [trace, delivered_append, made.outward.delivered_eq_nil,
          connecting.delivered_eq_nil other]
        rfl
      · rw [trace, closed_append, kept, List.nil_append]
        exact kept'
      · rw [trace]
        exact made.outward.unread.append connecting.unread
  · cases connecting <;> rfl

/-- The body of a copy, behind the way to its data connection. -/
theorem outcome_copyFrom
    (ready : Ready invocation range { waiting } offset c link after fresh host log)
    (reads : invocation.direction = .read) (more : length ≠ some 0) :
    ∃ r later es copied,
      Act.outcome (copyFrom offset length) (⟨⟨.opened link, []⟩, fresh⟩ : Held (Working Bytes)) =
        (r, ⟨⟨.opened { after with position := offset + copied.length }, copied⟩,
          { host with network := host.network.called c later es }⟩) ∧
      copied = length.elim (leading (host.network.peer c).incoming)
        (leading (host.network.peer c).incoming).take ∧
      received c es = copied ∧ Receives c es ∧
      Copied c length offset (host.network.peer c).incoming es r := by
  obtain ⟨record, -, has, position, usable, direction⟩ := ready.record reads
  obtain ⟨es, fs, new, serves, -, -, connecting, -⟩ := ready.calls
  have made : c.index < host.network.connections.length := by
    have there : c ∈ opened host.network.trace := by
      rw [record.connections]
      exact List.mem_cons_of_mem _ (List.mem_cons_self ..)
    rw [record.numbered] at there
    obtain ⟨i, inside, rfl⟩ := List.mem_map.1 there
    exact List.mem_range.1 inside
  unfold copyFrom copyOut
  rw [Act.outcome_bind, ready.starts]
  change ∃ r later es copied,
    Act.outcome (copyTurns (fresh.network.undelivered + 1) length []) _ = _ ∧ _
  have usable' : ({ link with position := offset } : Link).outOfStep = none := new.outOfStep
  have direction' : ({ link with position := offset } : Link).session.direction = .read :=
    (congrArg Session.direction serves.session).trans reads
  have roomy : ({ link with position := offset } : Link).Roomy := serves.roomy
  rw [outcome_copyTurns_of_connected roomy more usable' direction' ready.connects connecting]
  have loop := outcome_copyTurns _ length after [] host (connecting.roomy usable' roomy) has
    usable direction made ready.enough
  rw [position] at loop
  exact loop

end Ready

-- ════════════════════════════════════════════════════════════════════════
-- The command
-- ════════════════════════════════════════════════════════════════════════

/-- What a copy with a data connection leaves on record: how its body ended, and its close. -/
structure CopyRecord (offset : Nat) (length : Option Nat) (incoming : List Segment)
    (c : ConnectionId) (trace : List Event) (r closing : Except Failure Unit) : Prop where
  connections : opened trace = [⟨0⟩, c]
  announced : accepted ⟨0⟩ trace =
    (Command.newSession .read 1).line ++ (Command.transfer .read offset).line
  bound : accepted c trace = (Command.runSession 1).line
  taken : received c trace = length.elim (leading incoming) (leading incoming).take
  unheard : delivered c trace = []
  copied : Copied c length offset incoming trace r
  closes : .close ⟨0⟩ (some ()) ∈ trace ↔ closing = .ok ()
  unclosed : ∀ e, closing = .error e → ∃ f, e = .fault f

variable {invocation : Invocation} {waiting : List Peer} {offset : Nat} {length : Option Nat}
  {fresh : Host} {log : List Log.Entry} {r : Except Failure Unit} {t : Held (Working Bytes)}

/-- A copy behind the way to its data connection: receives and close. -/
theorem Ready.Record.copied {control : ConnectionId} {net last : Network} {gs : List Event}
    {incoming : List Segment} {closing : Except Failure Unit}
    (record : Record offset control c net)
    (trace : last.trace = net.trace ++ (fs ++ gs)) (numbered : last.Numbered)
    (receives : Receives c fs)
    (gave : received c fs = length.elim (leading incoming) (leading incoming).take)
    (copy : Copied c length offset incoming fs r) (release : after.Releasing gs closing)
    (control_eq : after.control = control) (has : after.data = some c) :
    CopyRecord offset length incoming c last.trace r closing := by
  obtain ⟨mute, -⟩ := release.mute
  have connections : opened last.trace = [control, c] := by
    rw [trace, opened_append, opened_append, record.connections, receives.traffic.opened_eq_nil,
      release.opened_eq_nil]
    rfl
  have numbers := numbered.opened_eq connections
  obtain rfl : control = ⟨0⟩ := List.head_eq_of_cons_eq numbers
  obtain rfl : c = ⟨1⟩ := List.head_eq_of_cons_eq (List.tail_eq_of_cons_eq numbers)
  have apart : after.data ≠ some after.control := by
    rw [has, control_eq]
    decide
  have closes : .close ⟨0⟩ (some ()) ∈ last.trace ↔ closing = .ok () := by
    have only := release.mem_iff net.trace fs apart (control_eq ▸ record.kept)
      (receives.traffic.closed_eq_nil ▸ List.not_mem_nil)
    rwa [control_eq, ← trace] at only
  have taken (k : ConnectionId) : accepted k last.trace = accepted k net.trace := by
    rw [trace, accepted_append, accepted_append, receives.accepted_eq_nil, mute.accepted_eq_nil,
      List.append_nil, List.append_nil]
  have empty (size : Nat) : .receiveInto ⟨1⟩ size (some []) ∈ last.trace ↔
      .receiveInto ⟨1⟩ size (some []) ∈ fs := by
    rw [trace, List.mem_append, List.mem_append, or_iff_right (record.unread _ _ _),
      or_iff_left (mute.outward.unread _ _ _)]
  refine ⟨connections, (taken _).trans record.announced, (taken _).trans record.bound, ?_, ?_,
    copy.congr fun size => (empty size).symm, closes, ?_⟩
  · rw [trace, received_append, received_append, record.unread.received_eq_nil,
      mute.outward.received_eq_nil, List.append_nil]
    exact gave
  · rw [trace, delivered_append, delivered_append, record.unheard, receives.delivered_eq_nil,
      mute.outward.delivered_eq_nil]
    rfl
  · rintro e rfl
    exact release.exists_fault

/-- A copy that is ready for it. -/
theorem Ready.copyRecord
    (ready : Ready invocation range { waiting } offset c link after fresh host log)
    (reads : invocation.direction = .read) (more : length ≠ some 0)
    (h : Stages (copyFrom offset length) ⟨⟨invocation.stream range, []⟩, { network := { waiting } }⟩
      r t) :
    t.own.work = length.elim (leading (host.network.peer c).incoming)
        (leading (host.network.peer c).incoming).take ∧
      ∃ body closing, r = (closing >>= fun _ => body) ∧ CopyRecord offset length
        (host.network.peer c).incoming c t.host.network.trace body closing := by
  obtain ⟨record, control, has, -, -, -⟩ := ready.record reads
  obtain ⟨r', later, fs, copied, ended, all, gave, receives, copy⟩ :=
    ready.outcome_copyFrom reads more
  cases h with
  | unopened refused =>
    rw [show streamOf _ = (⟨invocation.stream range, { network := { waiting } }⟩ : Held ByteStream)
      from rfl, ready.opens] at refused
    cases refused
  | @ran mid t late r closing opened ran closed =>
    rw [show streamOf _ = (⟨invocation.stream range, { network := { waiting } }⟩ : Held ByteStream)
      from rfl, ready.opens] at opened
    cases opened
    rw [show carry _ _ = (⟨⟨.opened link, []⟩, fresh⟩ : Held (Working Bytes)) from rfl, ended]
      at ran
    cases ran
    refine ⟨all, ?_⟩
    obtain ⟨gs, grows, closes⟩ := ByteStream.close_does (streamOf
      ⟨⟨.opened { after with position := offset + copied.length }, copied⟩,
        { host with network := host.network.called c later fs }⟩)
    rw [closed] at grows closes
    obtain ⟨own, last⟩ := t
    cases closes with
    | idle notOpen => exact absurd rfl notOpen
    | released release =>
      have trace : last.network.trace = host.network.trace ++ (fs ++ gs) :=
        grows.trace_eq.trans (List.append_assoc ..)
      have quiet := host.network.extends_called c later receives.traffic.opened_eq_nil
      have numbered := grows.numbered (quiet.numbered record.numbered)
      exact ⟨_, _, rfl,
        record.copied trace numbered receives (gave.trans all) copy release control has⟩

/-- A copy of nothing: the stream is opened and closed. -/
theorem Stages.copied_nothing (invocation : Invocation) (reads : invocation.direction = .read)
    (opens : (Act.outcome ByteStream.connect
      ⟨invocation.stream range, { network := { waiting } }⟩).1 = .ok ())
    (h : Stages (copyFrom offset (some 0))
      ⟨⟨invocation.stream range, []⟩, { network := { waiting } }⟩ r t) :
    t.own.work = [] ∧ SessionStream.opened t.host.network.trace = [⟨0⟩] ∧
      accepted ⟨0⟩ t.host.network.trace = (Command.newSession .read 1).line ∧
      (r = .ok () ↔ .close ⟨0⟩ (some ()) ∈ t.host.network.trace) := by
  cases h with
  | unopened refused =>
    rw [show streamOf _ = (⟨invocation.stream range, { network := { waiting } }⟩ : Held ByteStream)
      from rfl] at refused
    rw [refused] at opens
    cases opens
  | @ran mid t late r closing opened ran closed =>
    obtain ⟨link, es, isOpen, new, serves, grows, join⟩ := Invocation.opened_of_connect opened
    obtain ⟨made, kept, greeting⟩ := serves.greeting join
    obtain ⟨own, host⟩ := mid
    obtain rfl : own = .opened link := isOpen
    rw [show carry _ _ = (⟨⟨.opened link, []⟩, host⟩ : Held (Working Bytes)) from rfl] at ran
    obtain ⟨log, started⟩ := outcome_startAt offset host [] new
    unfold copyFrom at ran
    rw [Act.outcome_bind, started] at ran
    cases ran
    obtain ⟨gs, grows', closes⟩ := ByteStream.close_does (streamOf
      (⟨⟨.opened { link with position := offset }, []⟩, { host with log }⟩ : Held (Working Bytes)))
    rw [closed] at grows' closes
    obtain ⟨own, last⟩ := t
    cases closes with
    | idle notOpen => exact absurd rfl notOpen
    | released release =>
      have whole := grows.trans grows'
      have trace : last.network.trace = es ++ ([] ++ gs) := whole.trace_eq
      obtain ⟨connections, greeted, -, closes⟩ :=
        release.visited rfl (new.data ▸ nofun) made kept greeting []
      rw [← trace] at connections greeted closes
      have closes := closes List.not_mem_nil
      have zero : link.control = ⟨0⟩ :=
        List.head_eq_of_cons_eq ((whole.numbered rfl).opened_eq connections)
      rw [zero] at connections greeted closes
      rw [reads] at greeted
      refine ⟨rfl, connections, greeted.trans (List.append_nil _), ?_⟩
      rw [Link.closing_bind_eq_ok_iff]
      exact ⟨fun ⟨fine, _⟩ => closes.2 fine, fun closed => ⟨closes.1 closed, rfl⟩⟩

/-- A command fails with no fault that no peer had, if its body does not. -/
theorem Stages.within {τ α : Type} {body : Act (Held (Working τ)) α} {s t : Held (Working τ)}
    {r : Except Failure α} {allowed : Fault → Prop} (frugal : Act.Frugal allowed body)
    (h : Stages body s r t) (within : s.host.network.Within allowed) (e : Failure)
    (failed : r = .error e) : e.Within allowed := by
  have opening := ByteStream.connect_frugal.pays (streamOf s) within
  cases h with
  | unopened refused =>
    rw [refused] at opening
    obtain rfl := Except.error.inj failed
    exact opening.2
  | @ran mid t late r closing opened ran closed =>
    rw [opened] at opening
    have working := frugal.pays (carry s mid) (opening.leaves.within within)
    rw [ran] at working
    have ending := ByteStream.close_frugal.pays (streamOf late)
      (working.leaves.within (opening.leaves.within within))
    rw [closed] at ending
    cases closing with
    | error e' =>
      obtain rfl := Except.error.inj failed
      exact ending.2
    | ok u =>
      obtain rfl : r = .error e := failed
      exact working.2

/-- A copy takes nothing but what the peers have to give. -/
theorem copyFrom_frugal {allowed : Fault → Prop} (offset : Nat) (length : Option Nat) :
    Act.Frugal allowed (copyFrom offset length) := by
  have turns (turns : Nat) (remaining : Option Nat) :
      Act.Frugal allowed (copyTurns turns remaining []) := by
    induction turns generalizing remaining with
    | zero => exact Act.frugal_pure ()
    | succ turns ih =>
      unfold copyTurns
      split
      · exact Act.frugal_pure ()
      · refine (ByteStream.read_spends _).frugal.onPart.bind fun chunk => ?_
        split
        · exact Act.frugal_pure ()
        · have permits : Act.Frugal allowed (permit none : Act (Held (Working Bytes)) Unit) :=
            Act.frugal_pure ()
          have advances : Act.Frugal allowed (advance (· ++ chunk)) :=
            Act.frugal_modify fun _ => rfl
          exact permits.bind fun _ => advances.bind fun _ => ih _
  have moves : Act.Frugal allowed (startAt offset : Act (Held (Working Bytes)) Unit) := by
    unfold startAt
    split
    · exact (ByteStream.seek_frugal _ _).onPart.bind fun _ => Act.frugal_pure ()
    · exact Act.frugal_pure ()
  exact moves.bind fun _ => Act.spends_get_bind fun _ => turns _ _

end Working

namespace CommandLine

/-- A copy into a file that takes everything does its work on its stream, and what it has copied is
in the file however it ended. -/
theorem cat_spec {output : Option Word} {around : Surroundings} {waiting : List Peer}
    (target : Word) (offset : Nat) (length : Option Nat) (timeout : Int) (level : Log.Level)
    (found : around.sink output = .ok {}) (fresh : around.network = { waiting }) :
    ∃ r t, Working.Stages (Working.copyFrom offset length)
        ⟨⟨newStream target .read timeout around.timeouts, []⟩, { network := { waiting } }⟩ r t ∧
      cat target offset length output timeout level around =
        { conclude around none (fun _ => none) r with
          copied := t.own.work, network := t.host.network, log := shown level t.host.log } := by
  refine ⟨_, _, Working.during_stages _ _, ?_⟩
  unfold cat
  rw [found, fresh]
  dsimp only
  rw [execute_eq]
  rfl

/-- Peers that admit a transfer and deliver one byte. -/
def lastByte : List Peer :=
  [{ incoming := [.bytes (utf8 "ok\n")] }, { incoming := [.bytes [0]] }]

/-- With these peers, a copy gets its data connection at any offset that can be written down. -/
theorem negotiate_lastByte {offset : Nat} (writable : Text.Writable offset) :
    ∃ ready, Act.outcome (Working.negotiate offset)
        ⟨⟨newStream "/run/letters" .read 3000 .clock, []⟩,
          { network := { waiting := lastByte } }⟩ = (.ok ⟨1⟩, ready) ∧
      (ready.host.network.peer ⟨1⟩).incoming = [.bytes [0]] := by
  let invocation : Invocation := .cat "/run/letters" 0 none none 3000
  let start : Held ByteStream :=
    ⟨invocation.stream .clock, { network := { waiting := lastByte } }⟩
  have ended : (Act.outcome ByteStream.connect start).1 = .ok () := by decide +kernel
  have control : (Act.outcome ByteStream.connect start).2.own.control = some ⟨0⟩ := by
    decide +kernel
  have made : (Act.outcome ByteStream.connect start).2.host.network.connections =
      [{ incoming := [.bytes (utf8 "ok\n")] }] := by decide +kernel
  have waits : (Act.outcome ByteStream.connect start).2.host.network.waiting =
      [{ incoming := [.bytes [0]] }] := by decide +kernel
  cases opened : Act.outcome ByteStream.connect start with
  | mk r mid =>
    rw [opened] at ended control made waits
    obtain ⟨own, fresh⟩ := mid
    obtain rfl : r = .ok () := ended
    obtain ⟨link, -, isOpen, -, -, -, -⟩ := Invocation.opened_of_connect opened
    obtain rfl : own = .opened link := isOpen
    obtain ⟨settings, session, address, number, data, position, outOfStep⟩ := link
    obtain rfl : number = ⟨0⟩ := Option.some.inj control
    obtain ⟨⟨waiting, connections, trace⟩, given, shared, log⟩ := fresh
    obtain rfl : connections = [{ incoming := [.bytes (utf8 "ok\n")] }] := made
    obtain rfl : waiting = [{ incoming := [.bytes [0]] }] := waits
    have all (length : Nat) : ∃ rest, TakesLine length [] rest :=
      have ⟨rest, takes, _⟩ := AllTake.takesLine (fun _ h => absurd h List.not_mem_nil) length
      ⟨rest, takes⟩
    have admission : [Segment.bytes (utf8 "ok\n")] =
        [.bytes (utf8 Reply.admission ++ [Reply.lineEnd])] := by decide +kernel
    obtain ⟨rest, takes⟩ := all (Command.runSession 1).line.length
    obtain ⟨ready, negotiated, there⟩ := Working.negotiate_of_willing opened writable
      Nat.one_pos ⟨all _, [], [], admission⟩
      ⟨⟨rfl, by rintro range ⟨⟩; exact ⟨rfl, by decide +kernel⟩⟩, rfl, by decide +kernel⟩ takes
    exact ⟨ready, negotiated, congrArg Peer.incoming there⟩

/-- Where no peer has a fault, all that can go wrong with a copy of all there is, once its data
connection is there, is that the position of its end is too long to be written down. That
escapes. -/
theorem cat_of_long_end {target : Word} {offset : Nat} {timeout : Int} (level : Log.Level)
    {around : Surroundings} {waiting : List Peer} {ready : Held (Working Bytes)} {bytes : Bytes}
    (found : around.sink none = .ok {}) (fresh : around.network = { waiting })
    (faultless : Network.Within (fun _ => False) { waiting })
    (negotiated : Act.outcome (Working.negotiate offset)
      ⟨⟨newStream target .read timeout around.timeouts, []⟩, { network := { waiting } }⟩ =
        (.ok c, ready))
    (all : leading (ready.host.network.peer c).incoming = bytes)
    (long : ¬Text.Writable ((offset + bytes.length : Nat) : Int)) :
    let report := cat target offset none none timeout level around
    report.toConclusion = { ending := .escaped .numberTooLong } ∧ report.copied = bytes ∧
      opened report.network.trace = [⟨0⟩, c] ∧ .close ⟨0⟩ (some ()) ∈ report.network.trace ∧
      ∃ size, .receiveInto c size (some []) ∈ report.network.trace := by
  intro report
  obtain ⟨r, t, stages, reported⟩ := cat_spec target offset none timeout level found fresh
  let invocation : Invocation := .cat target offset none none timeout
  obtain ⟨link, after, new, host, log, way, rfl⟩ :=
    Working.Ready.of_negotiate invocation negotiated
  have more : (none : Option Nat) ≠ some 0 := fun same => by cases same
  obtain ⟨work, body, closing, rfl, record⟩ := way.copyRecord rfl more stages
  have blameless := stages.within (Working.copyFrom_frugal offset none) faultless
  have closed : closing = .ok () := by
    cases closing with
    | ok u => rfl
    | error e =>
      obtain ⟨f, rfl⟩ := record.unclosed e rfl
      exact (blameless _ rfl f rfl).elim
  subst closed
  have failed : body = .error .numberTooLong ∧
      ∃ size, .receiveInto c size (some []) ∈ t.host.network.trace := by
    cases record.copied with
    | filled asked => cases asked
    | ended _ _ writable => exact absurd writable (all ▸ long)
    | unwritable _ empty => exact ⟨rfl, _, empty⟩
    | failed f => exact (blameless _ rfl f rfl).elim
  obtain ⟨rfl, empty⟩ := failed
  rw [show report = _ from reported]
  exact ⟨rfl, work.trans all, record.connections, record.closes.2 rfl, empty⟩

theorem writable_lastPosition : Text.Writable ((Text.textBound - 1 : Nat) : Int) := by
  have zero : Text.Writable 0 := Text.writable_of_natAbs_lt (by decide)
  have positive : 0 < Text.textBound := zero
  rw [Text.Writable, Int.natAbs_natCast]
  omega

/-- A copy that starts at the last position that can be written down, and comes to the end of the
stream behind it. -/
theorem cat_at_last_position :
    let report := cat "/run/letters" (Text.textBound - 1) none none 3000 .warning
      { network := { waiting := lastByte } }
    report.toConclusion = { ending := .escaped .numberTooLong } ∧ report.copied = [0] ∧
      opened report.network.trace = [⟨0⟩, ⟨1⟩] ∧ .close ⟨0⟩ (some ()) ∈ report.network.trace ∧
      ∃ size, .receiveInto ⟨1⟩ size (some []) ∈ report.network.trace := by
  have writable := writable_lastPosition
  have long : ¬Text.Writable ((Text.textBound - 1 + 1 : Nat) : Int) := by
    rw [Text.Writable, Int.natAbs_natCast]
    omega
  generalize Text.textBound - 1 = offset at writable long ⊢
  obtain ⟨ready, negotiated, incoming⟩ := negotiate_lastByte writable
  have none : ∀ peer ∈ lastByte, peer.faults = [] := by decide +kernel
  have faultless : Network.Within (fun _ => False) { waiting := lastByte } := by
    intro peer waits f bad
    rw [none peer waits] at bad
    cases bad
  have all : leading (ready.host.network.peer ⟨1⟩).incoming = [0] := by
    rw [incoming]
    rfl
  let around : Surroundings := { network := { waiting := lastByte } }
  have fresh : around.network = { waiting := lastByte } := rfl
  exact cat_of_long_end .warning rfl fresh faultless negotiated all long

end CommandLine

end SessionStream
