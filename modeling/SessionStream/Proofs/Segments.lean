import SessionStream.Proofs.Copying

/-!
# What a connection still has to deliver

The segments of a peer, as the receives of a stream see them: bytes that come first, what ends
them, and what is left when a number of bytes has been taken. A receive takes a beginning of the
bytes that come first, and what several receives leave depends on nothing but how many bytes they
took.

## Main definitions

- `stop` — what the bytes that come first are followed by
- `left` — what is left when a number of bytes has been asked for
- `Network.drained` — a network after a connection has been asked for bytes

## Main results

- `left_add` — to ask for bytes twice is to ask for all of them at once
- `Peer.deliver_of_leading_eq_nil`, `Peer.deliver_of_leading_ne_nil` — one receive
-/

namespace SessionStream

variable {incoming : List Segment} {m n : Nat} {c : ConnectionId}

/-- What the bytes that come first are followed by: a receive that fails, or one that is empty. -/
def stop : List Segment → Option Fault
  | .bytes (_ :: _) :: later => stop later
  | .fault f :: _ => some f
  | _ => none

/-- What is left when `n` bytes have been asked for, piece by piece until all are there: what stands
behind them, or behind the receive that was empty or failed before. -/
def left : Nat → List Segment → List Segment
  | 0, incoming => incoming
  | n + 1, .bytes (_ :: bs) :: later =>
    if n < bs.length then .bytes (bs.drop n) :: later else left (n - bs.length) later
  | _ + 1, incoming => incoming.tail

@[simp] theorem left_zero (incoming : List Segment) : left 0 incoming = incoming := by
  unfold left
  rfl

theorem left_succ_cons (n : Nat) (b : UInt8) (bs : Bytes) (later : List Segment) :
    left (n + 1) (.bytes (b :: bs) :: later) =
      if n < bs.length then .bytes (bs.drop n) :: later else left (n - bs.length) later := by
  rw [left]

/-- Nothing comes first where no segment of bytes does. -/
theorem leading_eq_nil (none : ∀ b bs later, incoming = .bytes (b :: bs) :: later → False) :
    leading incoming = [] := by
  unfold leading
  split
  · next b bs later => exact (none b bs later rfl).elim
  · rfl

/-- Taking bytes leaves those behind them, and what they are followed by. -/
theorem leading_left (h : n ≤ (leading incoming).length) :
    leading (left n incoming) = (leading incoming).drop n ∧
      stop (left n incoming) = stop incoming := by
  fun_induction left n incoming with
  | case1 => exact ⟨rfl, rfl⟩
  | case2 n b bs later inside =>
    obtain ⟨b', bs', rest⟩ := List.exists_cons_of_length_pos (l := bs.drop n)
      (by rw [List.length_drop]; omega)
    rw [rest]
    refine ⟨?_, rfl⟩
    change b' :: bs' ++ leading later = (bs ++ leading later).drop n
    rw [← rest, List.drop_append_of_le_length (Nat.le_of_lt inside)]
  | case3 n b bs later beyond ih =>
    have all : (leading (.bytes (b :: bs) :: later)).length =
        bs.length + 1 + (leading later).length := List.length_append
    obtain ⟨bytes, follows⟩ := ih (by omega)
    refine ⟨?_, follows⟩
    rw [bytes]
    change _ = (bs ++ leading later).drop n
    rw [List.drop_append, List.drop_of_length_le (Nat.le_of_not_lt beyond), List.nil_append]
  | case4 n incoming none =>
    rw [leading_eq_nil none] at h
    cases h

/-- To ask for bytes twice is to ask for all of them at once. -/
theorem left_add (h : m ≤ (leading incoming).length) (n : Nat) :
    left n (left m incoming) = left (m + n) incoming := by
  fun_induction left m incoming with
  | case1 => rw [Nat.zero_add]
  | case2 m b bs later inside =>
    obtain ⟨b', bs', rest⟩ := List.exists_cons_of_length_pos (l := bs.drop m)
      (by rw [List.length_drop]; omega)
    have length : bs'.length + 1 = bs.length - m := by
      rw [← List.length_drop, rest, List.length_cons]
    cases n with
    | zero => rw [left_zero, Nat.add_zero, left_succ_cons, if_pos inside]
    | succ n =>
      rw [rest, left_succ_cons, show m + 1 + (n + 1) = (m + 1 + n) + 1 by omega, left_succ_cons]
      by_cases more : n < bs'.length
      · rw [if_pos more, if_pos (by omega)]
        have behind : bs'.drop n = (bs.drop m).drop (n + 1) := by rw [rest]; rfl
        rw [behind, List.drop_drop, Nat.add_assoc, Nat.add_comm 1 n]
      · rw [if_neg more, if_neg (by omega)]
        congr 1
        omega
  | case3 m b bs later beyond ih =>
    have all : (leading (.bytes (b :: bs) :: later)).length =
        bs.length + 1 + (leading later).length := List.length_append
    rw [ih (by omega), show m.succ + n = m + n + 1 by omega, left_succ_cons, if_neg (by omega)]
    congr 1
    omega
  | case4 m incoming none =>
    rw [leading_eq_nil none] at h
    cases h

/-- Where nothing is to come, nothing is left. -/
theorem left_nil (n : Nat) : left n [] = [] := by
  cases n <;> rfl

-- ════════════════════════════════════════════════════════════════════════
-- Any number of receives
-- ════════════════════════════════════════════════════════════════════════

namespace Network

variable {net : Network}

/-- The network after calls on a connection that asked it for `n` bytes in all. -/
def drained (c : ConnectionId) (n : Nat) (es : List Event) (net : Network) : Network :=
  net.called c { net.peer c with incoming := left n (net.peer c).incoming } es

/-- Nothing has been asked for. -/
theorem drained_zero (c : ConnectionId) (net : Network) : net.drained c 0 [] = net := by
  unfold drained
  rw [left_zero, called_self, List.append_nil]

/-- A connection after it has been asked for bytes. -/
theorem peer_drained (c : ConnectionId) (n : Nat) (es : List Event) (net : Network) :
    (net.drained c n es).peer c =
      { net.peer c with incoming := left n (net.peer c).incoming } := by
  unfold drained
  rw [peer_called]
  by_cases made : c.index < net.connections.length
  · rw [if_pos ⟨rfl, made⟩]
  · rw [if_neg fun h => made h.2, peer_of_not_made made, left_nil]

/-- The bytes behind those that were asked for are still to come. -/
theorem leading_drained {n : Nat} (es : List Event)
    (there : n ≤ (leading (net.peer c).incoming).length) :
    leading ((net.drained c n es).peer c).incoming = (leading (net.peer c).incoming).drop n := by
  rw [peer_drained]
  exact (leading_left there).1

/-- Asking for more bytes, when the first ones were there. -/
theorem drained_drained {m : Nat} (n : Nat) (es fs : List Event)
    (there : m ≤ (leading (net.peer c).incoming).length) :
    (net.drained c m es).drained c n fs = net.drained c (m + n) (es ++ fs) := by
  rw [drained, peer_drained]
  simp only [drained, called_called, left_add there]

end Network

-- ════════════════════════════════════════════════════════════════════════
-- One receive
-- ════════════════════════════════════════════════════════════════════════

namespace Peer

variable {size : Nat} {peer after : Peer} {bytes : Bytes}

/-- A receive that gives bytes leaves what stands behind them. -/
theorem eq_left_of_deliver (h : peer.deliver size = (.ok bytes, after)) (some : bytes ≠ []) :
    after = { peer with incoming := left bytes.length peer.incoming } := by
  obtain ⟨incoming, acceptances⟩ := peer
  unfold deliver at h
  split at h
  · cases h
    exact absurd rfl some
  · next positive =>
    obtain ⟨size, rfl⟩ := Nat.exists_eq_succ_of_ne_zero positive
    dsimp only at h
    split at h
    · cases h
      exact absurd rfl some
    · cases h
    · next bs later =>
      cases h
      cases bs with
      | nil => exact absurd List.take_nil some
      | cons b bs =>
        simp only [List.take_succ_cons, List.length_cons, List.length_take, left_succ_cons,
          List.drop_succ_cons]
        by_cases inside : size < bs.length
        · have rest : (bs.drop size).isEmpty = false := by simp [inside]
          rw [Nat.min_eq_left (Nat.le_of_lt inside), if_pos inside, rest]
          rfl
        · have none : (bs.drop size).isEmpty = true := by simp [Nat.le_of_not_lt inside]
          rw [Nat.min_eq_right (Nat.le_of_not_lt inside), if_neg (Nat.lt_irrefl _), none,
            Nat.sub_self, left_zero]
          rfl

/-- Where nothing comes first, a receive meets what is there instead. -/
theorem deliver_of_leading_eq_nil (positive : size ≠ 0) (nothing : leading peer.incoming = []) :
    peer.deliver size = (match stop peer.incoming with
      | some f => .error f
      | none => .ok [], { peer with incoming := left size peer.incoming }) := by
  obtain ⟨size, rfl⟩ := Nat.exists_eq_succ_of_ne_zero positive
  obtain ⟨incoming, acceptances⟩ := peer
  unfold deliver
  rw [if_neg positive]
  match incoming with
  | [] => rfl
  | .fault f :: later => rfl
  | .bytes [] :: later => rfl
  | .bytes (b :: bs) :: later => cases nothing

/-- Where bytes come first, a receive gives some of them. -/
theorem deliver_of_leading_ne_nil (positive : size ≠ 0) (some : leading peer.incoming ≠ []) :
    ∃ bytes, bytes ≠ [] ∧ bytes.length ≤ size ∧ leading peer.incoming =
        bytes ++ leading (left bytes.length peer.incoming) ∧
      peer.deliver size =
        (.ok bytes, { peer with incoming := left bytes.length peer.incoming }) := by
  rcases delivers : peer.deliver size with ⟨f | bytes, after⟩
  · exact absurd (leading_eq_nil_of_fault delivers) some
  · have nonempty : bytes ≠ [] := by
      rintro rfl
      exact some (leading_eq_nil_of_empty positive delivers)
    obtain rfl := eq_left_of_deliver delivers nonempty
    exact ⟨bytes, nonempty, length_le_of_deliver delivers, leading_eq_append delivers nonempty, rfl⟩

end Peer

end SessionStream
