import SessionStream.Proofs.Parallel

/-!
# Bytes on their way out

Bytes go out with as many sends as it takes. This file says what the sends are, for every list of
outcomes that the peer may have laid down for them: what each of them offers, how it is answered,
where the sends stop, and how many outcomes they leave for later.

## Main definitions

- `Acceptance.answer` — what a send gives that meets an outcome
- `Wire.Sends` — the sends of some bytes, from the first to the last

## Main results

- `Network.outcome_send` — one send
- `Wire.Sends.advanced` — a send that accepts something, before the sends of the rest
- `Wire.transmit_sends` — each byte is sent once and in order, or the sends end with a failure

## Design notes

`Wire.Sends` speaks of the sends by their places: what was accepted before a place determines what
is offered there. The lemmas for its cases put one more send in front, so that the places of the
others move by one, and so do the outcomes that they meet.
-/

namespace SessionStream

variable {c : ConnectionId}

/-- What a send of `length` bytes gives that meets this outcome: how many bytes were accepted, or a
fault. Where no outcome is laid down, everything is accepted. -/
def Acceptance.answer (length : Nat) : Option Acceptance → Except Fault Nat
  | none => .ok length
  | some (.upTo count) => .ok (min count length)
  | some (.fault f) => .error f

/-- No more bytes are accepted than offered. -/
theorem Acceptance.le_of_answer {length count : Nat} {outcome : Option Acceptance}
    (h : answer length outcome = .ok count) : count ≤ length := by
  rcases outcome with - | ⟨limit | f⟩ <;> simp [answer] at h <;> omega

/-- A send fails only with a fault that is laid down. -/
theorem Acceptance.eq_of_answer_eq_error {length : Nat} {outcome : Option Acceptance} {f : Fault}
    (h : answer length outcome = .error f) : outcome = some (.fault f) := by
  rcases outcome with - | ⟨limit | g⟩ <;> simp [answer] at h
  rw [h]

namespace Network

/-- One send takes one outcome, if there is one left. -/
theorem outcome_send (c : ConnectionId) (data : Bytes) (net : Network) :
    Act.outcome (send c data) net =
      let peer := net.peer c
      let answer := Acceptance.answer data.length peer.acceptances.head?
      (answer.mapError .fault, net.called c { peer with acceptances := peer.acceptances.tail }
        [.send c data answer.toOption]) := by
  unfold Act.outcome send call Peer.accept
  generalize net.peer c = peer
  obtain ⟨incoming, acceptances⟩ := peer
  rcases acceptances with - | ⟨count | f, later⟩ <;> rfl

/-- After a send its connection has the outcomes that are left. -/
theorem peer_called_tail (net : Network) (c : ConnectionId) (es : List Event) :
    let left := { net.peer c with acceptances := (net.peer c).acceptances.tail }
    (net.called c left es).peer c = left := by
  intro left
  rw [peer_called]
  by_cases made : c.index < net.connections.length
  · rw [if_pos ⟨rfl, made⟩]
  · rw [if_neg fun h => made h.2]
    simp only [left, peer_of_not_made made, List.tail_nil]

end Network

namespace Wire

/-- The sends of `data` on a connection whose sends have these outcomes laid down, and how they
end. -/
structure Sends (c : ConnectionId) (data : Bytes) (outcomes : List Acceptance) (es : List Event)
    (r : Except Failure Unit) : Prop where
  /-- Each send offers what has not been accepted before, and that is something. -/
  offers : ∀ (i : Nat) (e : Event), es[i]? = some e →
    data.drop (accepted c (es.take i)).length ≠ [] ∧
      ∃ result, e = .send c (data.drop (accepted c (es.take i)).length) result
  /-- Each send meets the outcome in its place. -/
  answers : ∀ (i : Nat) (offered : Bytes) (result : Option Nat),
    es[i]? = some (.send c offered result) →
      result = (Acceptance.answer offered.length outcomes[i]?).toOption
  /-- At any time, what has been accepted is a beginning. -/
  accepted_prefix : ∀ i : Nat, accepted c (es.take i) <+: data
  /-- Success means that everything has been accepted. -/
  ok_iff : r = .ok () ↔ accepted c es = data
  /-- A send that accepts nothing is the last one. -/
  refused : ∀ (i : Nat) (offered : Bytes), es[i]? = some (.send c offered (some 0)) →
    es.length = i + 1 ∧ r = .error .peerClosed
  /-- So is a send that fails, and its fault is passed on. -/
  failed : ∀ (i : Nat) (offered : Bytes), es[i]? = some (.send c offered none) →
    es.length = i + 1 ∧ ∃ f, outcomes[i]? = some (.fault f) ∧ r = .error (.fault f)
  /-- Nothing else ends with a failure. -/
  error_cases : ∀ e, r = .error e → ∃ offered,
    es.getLast? = some (.send c offered (some 0)) ∨ es.getLast? = some (.send c offered none)
  /-- There are no more sends than bytes. -/
  length_le : es.length ≤ data.length
  /-- Behind the outcomes that are laid down there is one send at most. -/
  length_le_succ : es.length ≤ outcomes.length + 1

namespace Sends

variable {data later : Bytes} {b : UInt8} {outcomes : List Acceptance} {es : List Event}
  {r : Except Failure Unit} {count : Nat}

theorem eq_send {e : Event} (h : Sends c data outcomes es r) (mem : e ∈ es) :
    ∃ offered result, e = .send c offered result := by
  obtain ⟨i, here⟩ := List.getElem?_of_mem mem
  exact ⟨_, (h.offers i e here).2⟩

/-- Nothing is asked for. -/
theorem outward (h : Sends c data outcomes es r) : Outward es := by
  intro e mem
  obtain ⟨offered, result, rfl⟩ := h.eq_send mem
  rfl

/-- All that has been accepted is a beginning. -/
theorem accepted_isPrefix (h : Sends c data outcomes es r) : accepted c es <+: data := by
  have all := h.accepted_prefix es.length
  rwa [List.take_length] at all

/-- Where there is nothing to send, nothing is sent. -/
theorem done (c : ConnectionId) (outcomes : List Acceptance) :
    Sends c [] outcomes [] (.ok ()) where
  offers i e h := by simp at h
  answers i offered result h := by simp at h
  accepted_prefix i := by simp
  ok_iff := by simp
  refused i offered h := by simp at h
  failed i offered h := by simp at h
  error_cases e h := by cases h
  length_le := Nat.le_refl 0
  length_le_succ := Nat.zero_le _

/-- One send that stands alone. -/
theorem eq_of_getElem?_singleton {α : Type} {a e : α} {i : Nat} (h : [a][i]? = some e) :
    i = 0 ∧ e = a := by
  cases i with
  | zero => simpa [eq_comm] using h
  | succ i => simp at h

/-- The peer is gone. -/
theorem refused_first (meets : Acceptance.answer (b :: later).length outcomes.head? = .ok 0) :
    Sends c (b :: later) outcomes [.send c (b :: later) (some 0)] (.error .peerClosed) where
  offers i e h := by
    obtain ⟨rfl, rfl⟩ := eq_of_getElem?_singleton h
    simp
  answers i offered result h := by
    obtain ⟨rfl, h⟩ := eq_of_getElem?_singleton h
    cases h
    rw [← List.head?_eq_getElem?, meets]
    rfl
  accepted_prefix i := by cases i <;> simp
  ok_iff := by simp
  refused i offered h := by
    obtain ⟨rfl, -⟩ := eq_of_getElem?_singleton h
    exact ⟨rfl, rfl⟩
  failed i offered h := by
    obtain ⟨-, h⟩ := eq_of_getElem?_singleton h
    cases h
  error_cases e h := ⟨_, .inl rfl⟩
  length_le := by simp
  length_le_succ := by simp

/-- The first send fails. -/
theorem failed_first {f : Fault} (meets : outcomes.head? = some (.fault f)) :
    Sends c (b :: later) outcomes [.send c (b :: later) none] (.error (.fault f)) where
  offers i e h := by
    obtain ⟨rfl, rfl⟩ := eq_of_getElem?_singleton h
    simp
  answers i offered result h := by
    obtain ⟨rfl, h⟩ := eq_of_getElem?_singleton h
    cases h
    rw [← List.head?_eq_getElem?, meets]
    rfl
  accepted_prefix i := by cases i <;> simp
  ok_iff := by simp
  refused i offered h := by
    obtain ⟨-, h⟩ := eq_of_getElem?_singleton h
    cases h
  failed i offered h := by
    obtain ⟨rfl, -⟩ := eq_of_getElem?_singleton h
    exact ⟨rfl, f, by rw [← List.head?_eq_getElem?, meets], rfl⟩
  error_cases e h := ⟨_, .inr rfl⟩
  length_le := by simp
  length_le_succ := by simp

/-- **Step lemma**: a send that accepts something, before the sends of the rest. -/
theorem advanced
    (meets : Acceptance.answer (b :: later).length outcomes.head? = .ok (count + 1))
    (rest : Sends c (later.drop count) outcomes.tail es r) :
    Sends c (b :: later) outcomes (.send c (b :: later) (some (count + 1)) :: es) r := by
  have fits : count ≤ later.length := Nat.le_of_succ_le_succ (Acceptance.le_of_answer meets)
  have first (fs : List Event) :
      accepted c (.send c (b :: later) (some (count + 1)) :: fs) =
        b :: later.take count ++ accepted c fs := by
    simp
  have whole : b :: later.take count ++ later.drop count = b :: later := by
    rw [List.cons_append, List.take_append_drop]
  have behind (fs : List Event) :
      (b :: later).drop (accepted c (.send c (b :: later) (some (count + 1)) :: fs)).length =
        (later.drop count).drop (accepted c fs).length := by
    rw [first, List.length_append, List.length_cons, List.length_take, Nat.min_eq_left fits,
      List.drop_drop, Nat.add_right_comm, List.drop_succ_cons]
  have places (i : Nat) : outcomes.tail[i]? = outcomes[i + 1]? := by
    cases outcomes <;> simp
  constructor
  case offers =>
    intro i e h
    cases i with
    | zero =>
      obtain rfl : _ = e := by simpa using h
      simp
    | succ i =>
      rw [List.take_succ_cons, behind]
      exact rest.offers i e h
  case answers =>
    intro i offered result h
    cases i with
    | zero =>
      cases h
      rw [← List.head?_eq_getElem?, meets]
      rfl
    | succ i =>
      rw [← places]
      exact rest.answers i offered result h
  case accepted_prefix =>
    intro i
    cases i with
    | zero => simp
    | succ i =>
      rw [List.take_succ_cons, first, ← whole]
      exact (List.prefix_append_right_inj _).2 (rest.accepted_prefix i)
  case ok_iff =>
    rw [rest.ok_iff, first]
    conv => rhs; rw [← whole]
    exact (List.append_right_inj _).symm
  case refused =>
    intro i offered h
    cases i with
    | zero => simp at h
    | succ i =>
      obtain ⟨all, ended⟩ := rest.refused i offered h
      exact ⟨congrArg (· + 1) all, ended⟩
  case failed =>
    intro i offered h
    cases i with
    | zero => simp at h
    | succ i =>
      obtain ⟨all, ended⟩ := rest.failed i offered h
      exact ⟨congrArg (· + 1) all, by rwa [← places]⟩
  case error_cases =>
    intro e h
    obtain ⟨offered, ended⟩ := rest.error_cases e h
    refine ⟨offered, ended.imp ?_ ?_⟩ <;> intro last <;> rw [List.getLast?_cons, last] <;> rfl
  case length_le =>
    have := rest.length_le
    simp only [List.length_drop, List.length_cons] at this ⊢
    omega
  case length_le_succ =>
    cases outcomes with
    | nil =>
      -- Without an outcome everything is accepted, so that there is no other send.
      have all : later.length = count := by simpa [Acceptance.answer] using meets
      have none := rest.length_le
      simp only [List.length_drop, List.length_cons, List.length_nil] at none ⊢
      omega
    | cons outcome outcomes => simpa using rest.length_le_succ

end Sends

/-- **Run lemma**: the sends of some bytes, and what they leave of the outcomes. -/
theorem outcome_transmit_sends (c : ConnectionId) (data : Bytes) (net : Network) :
    ∃ es r, Act.outcome (transmit c data) net = (r, net.called c { net.peer c with
        acceptances := (net.peer c).acceptances.drop es.length } es) ∧
      Sends c data (net.peer c).acceptances es r := by
  fun_induction transmit c data generalizing net with
  | case1 =>
    refine ⟨[], .ok (), ?_, .done c _⟩
    have same := net.called_self c []
    rw [List.append_nil] at same
    exact congrArg (Prod.mk _) same.symm
  | case2 b later ih =>
    have sent := Network.outcome_send c (b :: later) net
    dsimp only at sent
    cases meets : Acceptance.answer (b :: later).length (net.peer c).acceptances.head? with
    | error f =>
      rw [meets] at sent
      refine ⟨[.send c (b :: later) none], .error (.fault f), ?_,
        .failed_first (Acceptance.eq_of_answer_eq_error meets)⟩
      rw [Act.outcome_bind, sent, List.length_singleton, List.drop_one]
      rfl
    | ok count =>
      rw [meets] at sent
      cases count with
      | zero =>
        refine ⟨[.send c (b :: later) (some 0)], .error .peerClosed, ?_, .refused_first meets⟩
        rw [Act.outcome_bind, sent, List.length_singleton, List.drop_one]
        rfl
      | succ count =>
        let mid := net.called c { net.peer c with acceptances := (net.peer c).acceptances.tail }
          [.send c (b :: later) (some (count + 1))]
        have here : mid.peer c = { net.peer c with
          acceptances := (net.peer c).acceptances.tail } := net.peer_called_tail c _
        obtain ⟨es, r, ended, sends⟩ := ih count mid
        rw [here] at ended sends
        refine ⟨.send c (b :: later) (some (count + 1)) :: es, r, ?_, .advanced meets sends⟩
        rw [Act.outcome_bind, sent]
        show Act.outcome (transmit c (later.drop count)) mid = _
        rw [ended, Network.called_called, List.drop_tail, List.length_cons]
        rfl

/-- **Sending** comes to an end, whatever outcomes are laid down for the sends. Each send offers
what has not been accepted yet, so that each byte is accepted once and in order. It goes on until
everything has been accepted, or until a send accepts nothing or fails; the outcomes behind the last
send are left as they were, and so is everything else. -/
theorem transmit_sends (c : ConnectionId) (data : Bytes) (net : Network) :
    let run := Act.outcome (transmit c data) net
    let es := run.2.trace.drop net.trace.length
    let left := (net.peer c).acceptances.drop es.length
    Sends c data (net.peer c).acceptances es run.1 ∧
      (run.2.peer c).acceptances = left ∧
      run.2 = net.called c { net.peer c with acceptances := left } es := by
  obtain ⟨es, r, ended, sends⟩ := outcome_transmit_sends c data net
  have record : (net.called c { net.peer c with
      acceptances := (net.peer c).acceptances.drop es.length } es).trace.drop net.trace.length =
        es := List.drop_left
  rw [ended]
  dsimp only
  rw [record]
  refine ⟨sends, ?_, rfl⟩
  rw [Network.peer_called]
  by_cases made : c.index < net.connections.length
  · rw [if_pos ⟨rfl, made⟩]
  · rw [if_neg fun h => made h.2, Network.peer_of_not_made made, List.drop_nil]

end Wire

end SessionStream
