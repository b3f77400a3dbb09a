import SessionStream.Proofs.Segments

/-!
# Reading a line

A reply is read byte by byte up to the end of its line, and nothing behind it is touched. What comes
of that depends on the bytes that the connection delivers first: they hold a line that is short
enough, or too many bytes without the end of a line, or they end before. Which of the three it is
does not depend on how the bytes are cut into segments.

## Main definitions

- `Wire.oneByOne` — receives that take these bytes, one at a time
- `Wire.BeginsWith`, `Wire.Overlong` — the bytes hold a line, or too many bytes for one
- `Wire.Consumes` — what was taken from a connection, and what is still to come
- `Wire.replies` — one reply after the other

## Main results

- `Wire.outcome_receiveLine_append` — the bytes inside a line
- `Wire.delivers` — a line, too many bytes for one, or too few
- `Wire.replies_of_lines` — lines that are there are read one after the other
- `Wire.reply_framing` — a reply is exactly a line, and nothing is lost
-/

namespace SessionStream

variable {c : ConnectionId} {net : Network} {w : Bytes} {b : UInt8}

-- ════════════════════════════════════════════════════════════════════════
-- Pieces
-- ════════════════════════════════════════════════════════════════════════

namespace Cut

variable {incoming : List Segment} {n : Nat}

/-- Bytes in pieces all come first, and nothing fails behind them. -/
theorem leading_eq (h : Cut w incoming) : leading incoming = w ∧ stop incoming = none := by
  induction h with
  | nil => exact ⟨rfl, rfl⟩
  | @cons piece rest later some _ ih =>
    cases piece with
    | nil => exact absurd rfl some
    | cons b piece => exact ⟨by rw [leading, ih.1], ih.2⟩

/-- The bytes behind the first ones are in pieces as well. -/
theorem left (h : Cut w incoming) (n : Nat) : Cut (w.drop n) (left n incoming) := by
  induction h generalizing n with
  | nil =>
    rw [left_nil, List.drop_nil]
    exact .nil
  | @cons piece rest later some cut ih =>
    cases piece with
    | nil => exact absurd rfl some
    | cons b piece =>
      cases n with
      | zero =>
        rw [left_zero]
        exact .cons some cut
      | succ n =>
        rw [left_succ_cons, List.cons_append, List.drop_succ_cons]
        by_cases inside : n < piece.length
        · rw [if_pos inside, List.drop_append_of_le_length (Nat.le_of_lt inside)]
          refine .cons (fun none => ?_) cut
          have := List.drop_eq_nil_iff.1 none
          omega
        · rw [if_neg inside, List.drop_append, List.drop_of_length_le (Nat.le_of_not_lt inside),
            List.nil_append]
          exact ih _

end Cut

namespace Wire

variable {limit : Int} {room : Nat} {line l rest : Bytes}

-- ════════════════════════════════════════════════════════════════════════
-- One byte
-- ════════════════════════════════════════════════════════════════════════

/-- Receives that take these bytes, one at a time. -/
def oneByOne (c : ConnectionId) (bytes : Bytes) : List Event :=
  bytes.map fun b => .receive c 1 (some [b])

theorem oneByOne_append (c : ConnectionId) (bytes more : Bytes) :
    oneByOne c (bytes ++ more) = oneByOne c bytes ++ oneByOne c more :=
  List.map_append

theorem receive_of_mem_oneByOne {bytes : Bytes} {e : Event} (h : e ∈ oneByOne c bytes) :
    ∃ got, e = .receive c 1 (some got) := by
  obtain ⟨b, -, rfl⟩ := List.mem_map.1 h
  exact ⟨[b], rfl⟩

@[simp] theorem delivered_oneByOne (c : ConnectionId) (bytes : Bytes) :
    delivered c (oneByOne c bytes) = bytes := by
  induction bytes with
  | nil => rfl
  | cons b bytes ih => simpa [oneByOne, delivered, Event.delivered] using ih

@[simp] theorem accepted_oneByOne (c : ConnectionId) (bytes : Bytes) :
    accepted c (oneByOne c bytes) = [] := by
  refine List.flatMap_eq_nil_iff.2 fun e mem => ?_
  obtain ⟨got, rfl⟩ := receive_of_mem_oneByOne mem
  rfl

/-- The byte that comes first is received. -/
theorem outcome_receive_cons (coming : leading (net.peer c).incoming = b :: w) :
    Act.outcome (Network.receive c 1) net =
      (.ok [b], net.drained c 1 (oneByOne c [b])) := by
  obtain ⟨bytes, nonempty, short, first, delivers⟩ := Peer.deliver_of_leading_ne_nil
    Nat.one_ne_zero (by rw [coming]; exact List.cons_ne_nil b w)
  obtain ⟨b', rfl⟩ : ∃ b', bytes = [b'] :=
    List.length_eq_one_iff.1 (Nat.le_antisymm short (List.length_pos_iff.2 nonempty))
  obtain rfl : b = b' := by
    rw [coming] at first
    exact (List.cons.inj first).1
  unfold Act.outcome Network.receive Network.call
  rw [delivers]
  rfl

/-- Where nothing comes first, a receive gives nothing or fails. -/
theorem outcome_receive_nil (nothing : leading (net.peer c).incoming = []) :
    Act.outcome (Network.receive c 1) net = match stop (net.peer c).incoming with
      | some f => (.error (.fault f), net.drained c 1 [.receive c 1 none])
      | none => (.ok [], net.drained c 1 [.receive c 1 (some [])]) := by
  unfold Act.outcome Network.receive Network.call
  rw [Peer.deliver_of_leading_eq_nil Nat.one_ne_zero nothing]
  cases stop (net.peer c).incoming <;> rfl

-- ════════════════════════════════════════════════════════════════════════
-- One line
-- ════════════════════════════════════════════════════════════════════════

/-- **Step lemma**: a byte inside a line. -/
theorem outcome_receiveLine_cons (inside : b ≠ Reply.lineEnd)
    (coming : leading (net.peer c).incoming = b :: w) :
    Act.outcome (receiveLine c limit (room + 1) line) net =
      Act.outcome (receiveLine c limit room (line ++ [b]))
        (net.drained c 1 (oneByOne c [b])) := by
  rw [receiveLine, Act.outcome_bind, outcome_receive_cons coming]
  dsimp only
  rw [if_neg inside]

/-- **Run lemma**: the bytes inside a line are read one after the other. -/
theorem outcome_receiveLine_append (plain : Reply.lineEnd ∉ l)
    (coming : leading (net.peer c).incoming = l ++ w) :
    Act.outcome (receiveLine c limit (l.length + room) line) net =
      Act.outcome (receiveLine c limit room (line ++ l))
        (net.drained c l.length (oneByOne c l)) := by
  induction l generalizing net line with
  | nil =>
    rw [List.length_nil, Nat.zero_add, List.append_nil]
    exact congrArg _ (net.drained_zero c).symm
  | cons b l ih =>
    rw [List.mem_cons, not_or] at plain
    have there : 1 ≤ (leading (net.peer c).incoming).length := by
      rw [coming]
      exact Nat.succ_le_of_lt (Nat.zero_lt_succ _)
    have behind : leading ((net.drained c 1 (oneByOne c [b])).peer c).incoming = l ++ w := by
      rw [Network.leading_drained _ there, coming]
      rfl
    rw [List.length_cons, Nat.add_right_comm, outcome_receiveLine_cons (Ne.symm plain.1) coming,
      ih plain.2 behind, Network.drained_drained _ _ _ there, ← oneByOne_append, List.append_assoc,
      Nat.add_comm 1]
    rfl

/-- The bytes begin with this line and its end, and both together are within the limit. -/
def BeginsWith (limit : Int) (l w : Bytes) : Prop :=
  (∃ rest, w = l ++ Reply.lineEnd :: rest) ∧ Reply.lineEnd ∉ l ∧ (l.length : Int) < limit

/-- There are as many bytes as the limit allows, and no line ends in them. -/
def Overlong (limit : Int) (w : Bytes) : Prop :=
  max limit 0 ≤ w.length ∧ Reply.lineEnd ∉ w.take limit.toNat

/-- What bytes hold for someone who reads a line: the line, too many bytes without the end of a
line, or too few. -/
inductive Delivers (limit : Int) (w : Bytes) : Prop
  | line {l : Bytes} (begins : BeginsWith limit l w) : Delivers limit w
  | long (full : Overlong limit w) : Delivers limit w
  | short (fits : w.length < limit.toNat) (plain : Reply.lineEnd ∉ w) : Delivers limit w

theorem delivers (limit : Int) (w : Bytes) : Delivers limit w := by
  by_cases ends : Reply.lineEnd ∈ w.take limit.toNat
  · obtain ⟨l, rest, first, plain⟩ := List.eq_append_cons_of_mem ends
    have fits : l.length + 1 ≤ (w.take limit.toNat).length := by
      rw [first, List.length_append, List.length_cons]
      omega
    rw [List.length_take] at fits
    refine .line ⟨⟨rest ++ w.drop limit.toNat, ?_⟩, plain, by omega⟩
    rw [← List.cons_append, ← List.append_assoc, ← first, List.take_append_drop]
  · by_cases full : limit.toNat ≤ w.length
    · exact .long ⟨by omega, ends⟩
    · rw [List.take_of_length_le (Nat.le_of_not_le full)] at ends
      exact .short (Nat.lt_of_not_le full) ends

-- ════════════════════════════════════════════════════════════════════════
-- One reply
-- ════════════════════════════════════════════════════════════════════════

/-- The text of a reply is the text of its line. -/
theorem outcome_receiveReply (c : ConnectionId) (limit : Int) (net : Network) :
    Act.outcome (receiveReply c limit) net =
      ((Act.outcome (receiveLine c limit limit.toNat []) net).1.map asciiText,
        (Act.outcome (receiveLine c limit limit.toNat []) net).2) := by
  rw [receiveReply, Act.outcome_bind]
  rcases Act.outcome (receiveLine c limit limit.toNat []) net with ⟨e | line, after⟩ <;> rfl

/-- A line that is short enough is taken with its end. -/
theorem outcome_receiveReply_line (plain : Reply.lineEnd ∉ l) (fits : l.length < limit.toNat)
    (coming : leading (net.peer c).incoming = l ++ Reply.lineEnd :: rest) :
    Act.outcome (receiveReply c limit) net =
      (.ok (asciiText l), net.drained c (l.length + 1) (oneByOne c (l ++ [Reply.lineEnd]))) := by
  obtain ⟨room, enough⟩ : ∃ room, limit.toNat = l.length + (room + 1) :=
    ⟨limit.toNat - l.length - 1, by omega⟩
  have there : l.length ≤ (leading (net.peer c).incoming).length := by
    rw [coming, List.length_append]
    exact Nat.le_add_right _ _
  have behind : leading ((net.drained c l.length (oneByOne c l)).peer c).incoming =
      Reply.lineEnd :: rest := by
    rw [Network.leading_drained _ there, coming, List.drop_left]
  rw [outcome_receiveReply, enough, outcome_receiveLine_append plain coming, receiveLine,
    Act.outcome_bind, outcome_receive_cons behind, List.nil_append]
  dsimp only
  rw [if_pos rfl, Network.drained_drained _ _ _ there, ← oneByOne_append]
  rfl

/-- Where no line ends within the limit, as many bytes are taken as the limit allows. -/
theorem outcome_receiveReply_long (full : limit.toNat ≤ w.length)
    (plain : Reply.lineEnd ∉ w.take limit.toNat) (coming : leading (net.peer c).incoming = w) :
    Act.outcome (receiveReply c limit) net = (.error (.quoting limit (.replyTooLong limit)),
      net.drained c limit.toNat (oneByOne c (w.take limit.toNat))) := by
  have first : leading (net.peer c).incoming = w.take limit.toNat ++ w.drop limit.toNat := by
    rw [coming, List.take_append_drop]
  have there : (w.take limit.toNat).length = limit.toNat := List.length_take_of_le full
  have read : Act.outcome (receiveLine c limit ((w.take limit.toNat).length + 0) []) net =
      Act.outcome (receiveLine c limit 0 (w.take limit.toNat)) _ :=
    outcome_receiveLine_append plain first
  rw [there, Nat.add_zero] at read
  rw [outcome_receiveReply, read]
  rfl

/-- Where the bytes end before the line does, the receive behind them is asked for one more. -/
theorem outcome_receiveReply_short (fits : w.length < limit.toNat) (plain : Reply.lineEnd ∉ w)
    (coming : leading (net.peer c).incoming = w) :
    Act.outcome (receiveReply c limit) net = match stop (net.peer c).incoming with
      | some f => (.error (.fault f),
          net.drained c (w.length + 1) (oneByOne c w ++ [.receive c 1 none]))
      | none => (.error .replyCut,
          net.drained c (w.length + 1) (oneByOne c w ++ [.receive c 1 (some [])])) := by
  obtain ⟨room, enough⟩ : ∃ room, limit.toNat = w.length + (room + 1) :=
    ⟨limit.toNat - w.length - 1, by omega⟩
  have there : w.length ≤ (leading (net.peer c).incoming).length :=
    Nat.le_of_eq (congrArg List.length coming.symm)
  have nothing : leading ((net.drained c w.length (oneByOne c w)).peer c).incoming = [] := by
    rw [Network.leading_drained _ there, coming, List.drop_length]
  have ended := outcome_receive_nil nothing
  rw [Network.peer_drained] at ended
  dsimp only at ended
  rw [(leading_left there).2] at ended
  rw [outcome_receiveReply, enough, outcome_receiveLine_append plain (by rw [coming,
    List.append_nil]), receiveLine, Act.outcome_bind, ended]
  cases stop (net.peer c).incoming with
  | none =>
    dsimp only
    rw [Network.drained_drained _ _ _ there]
    rfl
  | some f =>
    dsimp only
    rw [Network.drained_drained _ _ _ there]
    rfl

-- ════════════════════════════════════════════════════════════════════════
-- What is taken
-- ════════════════════════════════════════════════════════════════════════

/-- Nothing was done but to take these bytes from a connection, by receives that are asked for one
byte, and the bytes behind them are still to come. -/
structure Consumes (c : ConnectionId) (bytes : Bytes) (net after : Network) : Prop where
  events : ∃ es, (∀ e ∈ es, ∃ got, e = .receive c 1 (some got)) ∧ delivered c es = bytes ∧
    after = net.called c { net.peer c with incoming := (after.peer c).incoming } es
  left : ∃ rest, Cut (bytes ++ rest) (net.peer c).incoming ∧ Cut rest (after.peer c).incoming

namespace Consumes

variable {bytes more : Bytes} {mid after : Network}

/-- Bytes that were asked for, and were there. -/
theorem of_drained (cut : Cut w (net.peer c).incoming) {n : Nat} {es : List Event}
    (all : bytes ++ w.drop n = w) (receives : ∀ e ∈ es, ∃ got, e = .receive c 1 (some got))
    (gave : delivered c es = bytes) : Consumes c bytes net (net.drained c n es) where
  events := ⟨es, receives, gave, by rw [Network.peer_drained]; rfl⟩
  left := by
    refine ⟨w.drop n, by rwa [all], ?_⟩
    rw [Network.peer_drained]
    exact cut.left n

theorem refl (cut : Cut w (net.peer c).incoming) : Consumes c [] net net := by
  have none : Consumes c [] net (net.drained c 0 []) := of_drained cut (List.drop_zero ..) nofun rfl
  rwa [Network.drained_zero] at none

/-- It is known what was taken. -/
theorem unique (h : Consumes c bytes net after) (h' : Consumes c more net after) :
    bytes = more := by
  obtain ⟨rest, first, behind⟩ := h.left
  obtain ⟨rest', first', behind'⟩ := h'.left
  obtain rfl : rest = rest' := behind.leading_eq.1.symm.trans behind'.leading_eq.1
  exact List.append_cancel_right (first.leading_eq.1.symm.trans first'.leading_eq.1)

theorem peer_eq (h : Consumes c bytes net after) :
    after.peer c = { net.peer c with incoming := (after.peer c).incoming } := by
  obtain ⟨es, -, -, called⟩ := h.events
  by_cases made : c.index < net.connections.length
  · have here := net.peer_called c c { net.peer c with incoming := (after.peer c).incoming } es
    rwa [← called, if_pos ⟨rfl, made⟩] at here
  · have absent : ¬c.index < after.connections.length := by
      rw [called, Network.called, List.length_set]
      exact made
    rw [Network.peer_of_not_made made, Network.peer_of_not_made absent]

/-- **Sequencing**: one part after the other. -/
theorem trans (h : Consumes c bytes net mid) (h' : Consumes c more mid after) :
    Consumes c (bytes ++ more) net after where
  events := by
    obtain ⟨es, receives, gave, called⟩ := h.events
    obtain ⟨fs, receives', gave', called'⟩ := h'.events
    refine ⟨es ++ fs, fun e mem => (List.mem_append.1 mem).elim (receives e) (receives' e),
      by rw [delivered_append, gave, gave'], ?_⟩
    rw [h.peer_eq] at called'
    conv_lhs => rw [called', called, Network.called_called]
  left := by
    obtain ⟨rest, first, behind⟩ := h.left
    obtain ⟨rest', first', behind'⟩ := h'.left
    obtain rfl : rest = more ++ rest' := behind.leading_eq.1.symm.trans first'.leading_eq.1
    exact ⟨rest', by rwa [List.append_assoc], behind'⟩

end Consumes

/-- One reply after the other. -/
def replies (c : ConnectionId) (limit : Int) :
    Nat → Network → List (Except Failure String) × Network
  | 0, net => ([], net)
  | times + 1, net =>
    let first := Act.outcome (receiveReply c limit) net
    let later := replies c limit times first.2
    (first.1 :: later.1, later.2)

/-- The line of a reply that is there is taken, and nothing behind it. -/
theorem receiveReply_of_line (cut : Cut (l ++ Reply.lineEnd :: rest) (net.peer c).incoming)
    (plain : Reply.lineEnd ∉ l) (fits : (l.length : Int) < limit) :
    let run := Act.outcome (receiveReply c limit) net
    run.1 = .ok (asciiText l) ∧ Consumes c (l ++ [Reply.lineEnd]) net run.2 := by
  rw [outcome_receiveReply_line plain (by omega) cut.leading_eq.1]
  refine ⟨rfl, .of_drained cut ?_ (fun _ => receive_of_mem_oneByOne) (delivered_oneByOne c _)⟩
  rw [List.append_cons l Reply.lineEnd rest, List.drop_left' (by simp)]

/-- **Run lemma**: lines that are there are read one after the other, however they are cut. -/
theorem replies_of_lines {lines : List Bytes}
    (cut : Cut (lines.flatMap (· ++ [Reply.lineEnd]) ++ rest) (net.peer c).incoming)
    (plain : ∀ l ∈ lines, Reply.lineEnd ∉ l ∧ (l.length : Int) < limit) :
    let run := replies c limit lines.length net
    run.1 = lines.map (fun l => .ok (asciiText l)) ∧
      Consumes c (lines.flatMap (· ++ [Reply.lineEnd])) net run.2 := by
  induction lines generalizing net with
  | nil => exact ⟨rfl, .refl cut⟩
  | cons l lines ih =>
    obtain ⟨⟨plain, fits⟩, later⟩ := List.forall_mem_cons.1 plain
    have first : (l :: lines).flatMap (· ++ [Reply.lineEnd]) ++ rest =
        l ++ Reply.lineEnd :: (lines.flatMap (· ++ [Reply.lineEnd]) ++ rest) := by simp
    rw [first] at cut
    obtain ⟨answer, consumes⟩ := receiveReply_of_line cut plain fits
    obtain ⟨rest', all, behind⟩ := consumes.left
    obtain rfl : lines.flatMap (· ++ [Reply.lineEnd]) ++ rest = rest' := by
      have both := cut.leading_eq.1.symm.trans all.leading_eq.1
      simpa using both
    obtain ⟨answers, rests⟩ := ih behind later
    refine ⟨?_, ?_⟩
    · rw [List.length_cons, replies, List.map_cons, ← answer, ← answers]
    · rw [List.flatMap_cons]
      exact consumes.trans rests

-- ════════════════════════════════════════════════════════════════════════
-- Exactly a line
-- ════════════════════════════════════════════════════════════════════════

/-- Bytes that hold too many bytes for a line are taken as far as the limit goes. -/
theorem receiveReply_of_overlong (cut : Cut w (net.peer c).incoming) (h : Overlong limit w) :
    let run := Act.outcome (receiveReply c limit) net
    run.1 = .error (.quoting limit (.replyTooLong limit)) ∧
      Consumes c (w.take limit.toNat) net run.2 := by
  obtain ⟨full, plain⟩ := h
  rw [outcome_receiveReply_long (by omega) plain cut.leading_eq.1]
  exact ⟨rfl, .of_drained cut (List.take_append_drop ..) (fun _ => receive_of_mem_oneByOne)
    (delivered_oneByOne c _)⟩

/-- Bytes that end before the line does are all taken. -/
theorem receiveReply_of_short (cut : Cut w (net.peer c).incoming)
    (fits : w.length < limit.toNat) (plain : Reply.lineEnd ∉ w) :
    let run := Act.outcome (receiveReply c limit) net
    run.1 = .error .replyCut ∧ Consumes c w net run.2 := by
  rw [outcome_receiveReply_short fits plain cut.leading_eq.1, cut.leading_eq.2]
  refine ⟨rfl, .of_drained cut ?_ ?_ ?_⟩
  · rw [List.drop_of_length_le (Nat.le_succ _), List.append_nil]
  · intro e mem
    rcases List.mem_append.1 mem with mem | mem
    · exact receive_of_mem_oneByOne mem
    · exact ⟨[], List.mem_singleton.1 mem⟩
  · rw [delivered_append, delivered_oneByOne]
    simp

/-- **A reply is exactly a line, and nothing is lost.** Whatever the limit, and however the bytes
`w` of a connection are cut: a reply is the text of a line exactly if they begin with that line,
which is then taken with its end; it is too long exactly if the limit is reached first, and as many
bytes are then taken as the limit allows; and otherwise it is cut, and all of them are taken. The
failure of a reply that is too long names the limit, and a limit with too many digits for that is
the failure in its place. Lines that stand one behind the other are therefore the replies, in their
order. -/
theorem reply_framing (limit : Int) (cut : Cut w (net.peer c).incoming) :
    let run := Act.outcome (receiveReply c limit) net
    (∀ l, run.1 = .ok (asciiText l) ∧ Consumes c (l ++ [Reply.lineEnd]) net run.2 ↔
        BeginsWith limit l w) ∧
      ((run.1 = .error (.quoting limit (.replyTooLong limit)) ∧
          ∃ bytes : Bytes, bytes.length = max limit 0 ∧ Consumes c bytes net run.2) ↔
        Overlong limit w) ∧
      ((∀ l, ¬BeginsWith limit l w) → ¬Overlong limit w →
        run.1 = .error .replyCut ∧ Consumes c w net run.2) ∧
      ∀ (lines : List Bytes) (rest : Bytes),
        (∀ l ∈ lines, Reply.lineEnd ∉ l ∧ (l.length : Int) < limit) →
        w = lines.flatMap (· ++ [Reply.lineEnd]) ++ rest →
        let served := replies c limit lines.length net
        served.1 = lines.map (fun l => .ok (asciiText l)) ∧
          Consumes c (lines.flatMap (· ++ [Reply.lineEnd])) net served.2 := by
  intro run
  have line {l : Bytes} (h : BeginsWith limit l w) :
      run.1 = .ok (asciiText l) ∧ Consumes c (l ++ [Reply.lineEnd]) net run.2 := by
    obtain ⟨⟨rest, rfl⟩, plain, fits⟩ := h
    exact receiveReply_of_line cut plain fits
  have short (fits : w.length < limit.toNat) (plain : Reply.lineEnd ∉ w) :
      run.1 = .error .replyCut ∧ Consumes c w net run.2 := receiveReply_of_short cut fits plain
  refine ⟨fun l => ⟨fun h => ?_, line⟩, ⟨fun h => ?_, fun h => ?_⟩, fun none room => ?_, ?_⟩
  · cases delivers limit w with
    | line begins =>
      have same := h.2.unique (line begins).2
      rwa [List.append_cancel_right same]
    | long full => exact nomatch h.1.symm.trans (receiveReply_of_overlong cut full).1
    | short fits plain => exact nomatch h.1.symm.trans (short fits plain).1
  · cases delivers limit w with
    | line begins => exact nomatch h.1.symm.trans (line begins).1
    | long full => exact full
    | short fits plain =>
      have cutOff := Except.error.inj (h.1.symm.trans (short fits plain).1)
      rcases Failure.quoting_eq limit (.replyTooLong limit) with same | same <;>
        rw [same] at cutOff <;> cases cutOff
  · obtain ⟨error, consumes⟩ := receiveReply_of_overlong cut h
    refine ⟨error, _, ?_, consumes⟩
    have full := h.1
    rw [List.length_take]
    omega
  · cases delivers limit w with
    | line begins => exact (none _ begins).elim
    | long full => exact (room full).elim
    | short fits plain => exact short fits plain
  · rintro lines rest plain rfl
    exact replies_of_lines cut plain

/-- Two answers in three pieces, and the beginning of a third. -/
theorem reply_framing_pieces :
    let pieces := [utf8 "o", utf8 "k\n1", utf8 "2\nab"]
    let peer : Peer := { incoming := pieces.map .bytes }
    let net : Network := { connections := [peer] }
    let w := utf8 "ok\n12\nab"
    Cut w (net.peer ⟨0⟩).incoming ∧
      (Act.outcome (receiveReply ⟨0⟩ 3) net).1 = .ok "ok" ∧
      (replies ⟨0⟩ 3 2 net).1 = [.ok "ok", .ok "12"] ∧
      (Act.outcome (receiveReply ⟨0⟩ 2) net).1 = .error (.replyTooLong 2) := by
  intro pieces peer net w
  have cut : Cut w (net.peer ⟨0⟩).incoming := cut_flatten pieces (by decide)
  obtain ⟨line, -, -, later⟩ := reply_framing 3 cut
  obtain ⟨-, long, -⟩ := reply_framing 2 cut
  refine ⟨cut, ((line (utf8 "ok")).2 ⟨⟨utf8 "12\nab", rfl⟩, by decide, by decide⟩).1, ?_, ?_⟩
  · exact (later [utf8 "ok", utf8 "12"] (utf8 "ab") (by decide) rfl).1
  · have short : Text.Writable 2 := Text.writable_of_natAbs_lt (by decide)
    rw [(long.2 ⟨by decide, by decide⟩).1, Failure.quoting_of_writable _ short]

/-- A limit below zero is reached at once, and has too many digits to be named. -/
theorem reply_of_long_limit :
    let limit : Int := -Text.textBound
    let net : Network := { connections := [{}] }
    Overlong limit [] ∧
      (Act.outcome (receiveReply ⟨0⟩ limit) net).1 = .error .numberTooLong ∧
      (Act.outcome (receiveReply ⟨0⟩ limit) net).1 ≠ .error (.replyTooLong limit) := by
  intro limit net
  have below : limit ≤ 0 := Int.neg_nonpos_of_nonneg (Int.natCast_nonneg _)
  have long : ¬Text.Writable limit := by
    unfold Text.Writable
    rw [Int.natAbs_neg, Int.natAbs_natCast]
    exact Nat.lt_irrefl _
  have reached : Overlong limit [] := ⟨Int.max_le.2 ⟨below, Int.le_refl 0⟩, by simp⟩
  have cut : Cut [] (net.peer ⟨0⟩).incoming := .nil
  have error := (receiveReply_of_overlong cut reached).1
  rw [Failure.quoting_of_long _ long] at error
  refine ⟨reached, error, fun named => ?_⟩
  cases error.symm.trans named

end Wire

end SessionStream
