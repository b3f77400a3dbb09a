import SessionStream.Proofs.Numerals
import SessionStream.Proofs.ReplyLines
import SessionStream.Proofs.Seeks
import SessionStream.Proofs.Sending

/-!
# The size of a stream

The query for the size goes out as one line, and the answer comes in as one. The answer reports the
size if it is a numeral, with or without blanks around it, of an integer of 64 signed bits; nothing
else on the control connection is taken.

## Main results

- `Link.outcome_hear_eq_ok_iff` — a reply is heard exactly if a line is read
- `Link.outcome_stat_of_sent` — the query for the size, once it has been sent
- `World.stat_reads_numerals` — the answers from which a size is read, and what is taken of them
-/

namespace SessionStream

open Wire (BeginsWith oneByOne)

theorem Act.outcome_ofExcept {σ α : Type} (r : Except Failure α) (s : σ) :
    Act.outcome (Act.ofExcept r) s = (r, s) := by
  cases r <;> rfl

variable {line rest : Bytes} {n : Int}

namespace Wire

variable {c : ConnectionId} {net : Network} {limit : Int}

/-- What is sent does not change what is still to come. -/
theorem incoming_transmit (c : ConnectionId) (data : Bytes) (net : Network) :
    ((Act.outcome (transmit c data) net).2.peer c).incoming = (net.peer c).incoming := by
  obtain ⟨es, r, ended, -⟩ := outcome_transmit_sends c data net
  rw [ended, Network.peer_called]
  split <;> rfl

/-- A reply is read exactly if the bytes that come first begin with its line. -/
theorem receiveReply_eq_ok_iff {reply : String} {after : Network} :
    Act.outcome (receiveReply c limit) net = (.ok reply, after) ↔
      ∃ line, BeginsWith limit line (leading (net.peer c).incoming) ∧ asciiText line = reply ∧
        net.drained c (line.length + 1) (oneByOne c (line ++ [Reply.lineEnd])) = after := by
  have read {line : Bytes} (h : BeginsWith limit line (leading (net.peer c).incoming)) :
      Act.outcome (receiveReply c limit) net = (.ok (asciiText line),
        net.drained c (line.length + 1) (oneByOne c (line ++ [Reply.lineEnd]))) := by
    obtain ⟨⟨rest, coming⟩, plain, fits⟩ := h
    exact outcome_receiveReply_line plain (by omega) coming
  constructor
  · intro h
    cases delivers limit (leading (net.peer c).incoming) with
    | line begins =>
      rw [read begins] at h
      cases h
      exact ⟨_, begins, rfl, rfl⟩
    | long full =>
      obtain ⟨full, plain⟩ := full
      rw [outcome_receiveReply_long (by omega) plain rfl] at h
      cases h
    | short fits plain =>
      rw [outcome_receiveReply_short fits plain rfl] at h
      cases stopped : stop (net.peer c).incoming with
      | none => rw [stopped] at h; cases h
      | some f => rw [stopped] at h; cases h
  · rintro ⟨line, begins, rfl, rfl⟩
    exact read begins

end Wire

namespace Link

variable {link : Link} {host : Host}

/-- A reply is heard exactly if a line is read. -/
theorem outcome_hear_eq_ok_iff {reply : String} {held : Held Link} :
    Act.outcome hear ⟨link, host⟩ = (.ok reply, held) ↔
      ∃ net, Act.outcome (Wire.receiveReply link.control Reply.limit) host.network =
          (.ok reply, net) ∧ held = ⟨link, { host with network := net }⟩ := by
  unfold hear
  rw [Act.outcome_get_bind]
  dsimp only
  rw [Act.outcome_tryCatch, Act.outcome_onHeldNetwork]
  rcases Act.outcome (Wire.receiveReply link.control Reply.limit) host.network with ⟨e | got, net⟩
  · refine iff_of_false (fun h => ?_) (by simp)
    dsimp only at h
    split at h <;> cases h
  · simp [eq_comm]

/-- To say something is to send its line on the control connection. -/
theorem outcome_say_of_transmit (command : Command) (held : Held Link) :
    Act.outcome (say command) held =
      let sent := Act.outcome (Wire.transmit held.own.control command.line) held.host.network
      (sent.1, { held with host := { held.host with network := sent.2 } }) := by
  unfold say
  rw [Act.outcome_get_bind, Act.outcome_onHeldNetwork]

/-- The query for the size: a line is sent, a reply is heard, and the size is read from it. -/
theorem outcome_stat (usable : link.outOfStep = none) :
    Act.outcome stat ⟨link, host⟩ =
      let asked := host.logged ⟨.info, .stream, "cmd: stat"⟩
      let sent := Act.outcome (Wire.transmit link.control Command.stat.line) host.network
      match sent.1 with
      | .error e => (.error e, ⟨link, { asked with network := sent.2 }⟩)
      | .ok () =>
        let listening := { asked with network := sent.2 }.logged
          ⟨.info, .stream, "reading stat reply"⟩
        match Act.outcome hear ⟨link, listening⟩ with
        | (.error e, held) => (.error e, held)
        | (.ok reply, held) =>
          (Reply.size reply, held.logged ⟨.info, .stream, "rep: stat " ++ reply⟩) := by
  unfold stat
  rw [outcome_requireUsable_bind usable, outcome_note_bind, Act.outcome_bind,
    outcome_say_of_transmit]
  dsimp only [Held.logged, Host.logged]
  rcases Act.outcome (Wire.transmit link.control Command.stat.line) host.network with ⟨e | _, net⟩
  · rfl
  · dsimp only
    rw [outcome_note_bind, Act.outcome_bind]
    dsimp only [Held.logged, Host.logged]
    generalize Act.outcome hear _ = heard
    rcases heard with ⟨e | reply, held⟩
    · rfl
    · exact Act.outcome_ofExcept _ _

/-- The network behind a query for the size that was sent, and answered with this line. -/
def answered (link : Link) (line : Bytes) (net : Network) : Network :=
  (Act.outcome (Wire.transmit link.control Command.stat.line) net).2.drained link.control
    (line.length + 1) (oneByOne link.control (line ++ [Reply.lineEnd]))

/-- Once the query has been sent, the line that comes first is the answer. -/
theorem outcome_stat_of_sent (usable : link.outOfStep = none)
    (sent : (Act.outcome (Wire.transmit link.control Command.stat.line) host.network).1 = .ok ())
    (begins : BeginsWith Reply.limit line (leading (host.network.peer link.control).incoming)) :
    ∃ log, Act.outcome stat ⟨link, host⟩ = (Reply.size (asciiText line),
      ⟨link, { host with network := link.answered line host.network, log }⟩) := by
  rw [← Wire.incoming_transmit link.control Command.stat.line] at begins
  rw [outcome_stat usable]
  dsimp only
  rw [sent]
  dsimp only
  rw [outcome_hear_eq_ok_iff.2 ⟨_, Wire.receiveReply_eq_ok_iff.2 ⟨line, begins, rfl, rfl⟩, rfl⟩]
  exact ⟨_, rfl⟩

/-- What a query that was sent and answered leaves: its line has been accepted, the line of the
answer has been taken, and nothing else. -/
theorem answered_eq {net : Network}
    (sent : (Act.outcome (Wire.transmit link.control Command.stat.line) net).1 = .ok ())
    (coming : leading (net.peer link.control).incoming = line ++ Reply.lineEnd :: rest) :
    leading ((link.answered line net).peer link.control).incoming = rest ∧
      ∃ peer es, link.answered line net = net.called link.control peer es ∧
        accepted link.control es = Command.stat.line ∧
        delivered link.control es = line ++ [Reply.lineEnd] := by
  obtain ⟨es, r, ended, sends⟩ := Wire.outcome_transmit_sends link.control Command.stat.line net
  constructor
  · have same := Wire.incoming_transmit link.control Command.stat.line net
    have there : line.length + 1 ≤ (leading (net.peer link.control).incoming).length := by
      rw [coming, List.length_append, List.length_cons]
      omega
    rw [← same] at there
    unfold answered
    rw [Network.leading_drained _ there, same, coming, List.append_cons, List.drop_left' (by simp)]
  · unfold answered
    rw [ended] at sent ⊢
    dsimp only at sent ⊢
    rw [Network.drained, Network.called_called]
    refine ⟨_, _, rfl, ?_, ?_⟩
    · rw [accepted_append, sends.ok_iff.1 sent, Wire.accepted_oneByOne, List.append_nil]
    · rw [delivered_append, sends.outward.delivered_eq_nil, Wire.delivered_oneByOne]
      rfl

/-- A size is reported exactly by a line that spells it, once the query has been sent. -/
theorem stat_eq_ok_iff (usable : link.outOfStep = none) :
    (Act.outcome stat ⟨link, host⟩).1 = .ok n ↔
      (Act.outcome (Wire.transmit link.control Command.stat.line) host.network).1 = .ok () ∧
        ∃ line, BeginsWith Reply.limit line (leading (host.network.peer link.control).incoming) ∧
          Text.Spells (asciiText line).toList n ∧ Reply.InRange n := by
  constructor
  · intro ok
    rw [outcome_stat usable] at ok
    dsimp only at ok
    cases sent : (Act.outcome (Wire.transmit link.control Command.stat.line) host.network).1 with
    | error e =>
      rw [sent] at ok
      cases ok
    | ok u =>
      rw [sent] at ok
      dsimp only at ok
      refine ⟨rfl, ?_⟩
      split at ok
      · cases ok
      · next reply held heard =>
        obtain ⟨net, read, rfl⟩ := outcome_hear_eq_ok_iff.1 heard
        obtain ⟨line, begins, rfl, rfl⟩ := Wire.receiveReply_eq_ok_iff.1 read
        rw [← Wire.incoming_transmit link.control Command.stat.line]
        exact ⟨line, begins, Reply.size_eq_ok_iff.1 ok⟩
  · rintro ⟨sent, line, begins, size⟩
    obtain ⟨log, ended⟩ := outcome_stat_of_sent usable sent begins
    rw [ended]
    exact Reply.size_eq_ok_iff.2 size

end Link

namespace World

variable {world : World} {number : Nat} {link : Link}

/-- **Sizes are read by one grammar.** An answer reports the size `n` exactly if it is a numeral of
`n`, with or without blanks around it, and `n` fits in 64 signed bits; any other answer is refused,
and so is every line with a byte that is not ASCII. (Answers of more digits than an integer may have
are left out; no line of a reply holds as many.) On the wire: a usable stream reports `n` exactly
if the query has been sent and the control connection delivers a line that spells `n`; it then takes
that line and its end, and nothing behind them. -/
theorem stat_reads_numerals (has : world.streams[number]? = some (.opened link))
    (usable : link.outOfStep = none) :
    (∀ reply : String, reply.toList.countP Char.isDigit ≤ Text.maxDigits →
      (∀ n, Reply.size reply = .ok n ↔ Text.Spells reply.toList n ∧ Reply.InRange n) ∧
        ∀ e, Reply.size reply = .error e ↔
          e = .unparseableSize reply ∧ (∀ n, ¬Text.Spells reply.toList n) ∨
            e = .sizeOutOfRange reply ∧ ∃ n, Text.Spells reply.toList n ∧ ¬Reply.InRange n) ∧
      (∀ line : Bytes, (∃ b ∈ line, 128 ≤ b) →
        Reply.size (asciiText line) = .error (.unparseableSize (asciiText line))) ∧
      let coming := leading (world.host.network.peer link.control).incoming
      let sent := Act.outcome (Wire.transmit link.control Command.stat.line) world.host.network
      let next := step (.onStream number .stat) world
      (∀ n, next.1 = .ok (.number n) ↔ sent.1 = .ok () ∧ ∃ line,
        BeginsWith Reply.limit line coming ∧ Text.Spells (asciiText line).toList n ∧
          Reply.InRange n) ∧
        ∀ line rest n, sent.1 = .ok () → coming = line ++ Reply.lineEnd :: rest →
          Reply.lineEnd ∉ line → line.length ≤ 49 →
          Text.Spells (asciiText line).toList n → Reply.InRange n →
          next.1 = .ok (.number n) ∧ next.2.streams = world.streams ∧
            leading (next.2.host.network.peer link.control).incoming = rest ∧
            ∃ peer es, next.2.host.network = world.host.network.called link.control peer es ∧
              accepted link.control es = Command.stat.line ∧
              delivered link.control es = line ++ [Reply.lineEnd] := by
  refine ⟨fun reply _ => ⟨fun n => Reply.size_eq_ok_iff, fun e => Reply.size_eq_error_iff⟩,
    fun line => Reply.size_of_not_ascii, ?_⟩
  intro coming sent next
  have performed : next = _ := step_stat has
  refine ⟨fun n => ?_, fun line rest n said first plain short spells fits => ?_⟩
  · rw [performed, ← Link.stat_eq_ok_iff usable]
    dsimp only
    cases (Act.outcome Link.stat ⟨link, world.host⟩).1 with
    | error e => simp [Except.map]
    | ok m => simp [Except.map]
  · obtain ⟨log, ended⟩ := Link.outcome_stat_of_sent usable said
      ⟨⟨rest, first⟩, plain, Int.ofNat_lt.2 (Nat.lt_succ_of_le short)⟩
    rw [ended] at performed
    rw [performed, Reply.size_eq_ok_iff.2 ⟨spells, fits⟩]
    refine ⟨rfl, ?_, Link.answered_eq said first⟩
    obtain ⟨inside, here⟩ := List.getElem?_eq_some_iff.1 has
    dsimp only
    rw [← here, List.set_getElem_self]

/-- A size with a tab, a sign and zeros before it and a blank behind it, in two pieces. -/
theorem stat_reads_numerals_padded :
    let settings : Settings := { target := "/run/letters", route := ⟨.direct, .given⟩ }
    let peer : Peer := { incoming := [.bytes (utf8 "\t+0"), .bytes (utf8 "07 \n5\n")] }
    let world : World := { host := { network := { waiting := [peer] } } }
    let here := after [.start settings "r"] world
    let next := step (.onStream 0 .stat) here
    (∃ link, here.streams[0]? = some (.opened link) ∧ link.outOfStep = none) ∧
      Text.Spells (asciiText (utf8 "\t+007 ")).toList 7 ∧
      next.1 = .ok (.number 7) ∧ leading (next.2.host.network.peer ⟨0⟩).incoming = utf8 "5\n" := by
  intro settings peer world here next
  let link : Link := {
    settings
    session := { direction := .read, id := some 1 }
    address := ⟨"/run/letters", by decide, by decide⟩
    control := ⟨0⟩ }
  have has : here.streams[0]? = some (.opened link) := by decide +kernel
  have spells : Text.Spells (asciiText (utf8 "\t+007 ")).toList 7 :=
    ⟨['\t'], "+007".toList, [' '], by decide +kernel, List.all_eq_true.1 rfl,
      List.all_eq_true.1 rfl, .plus (by decide) (List.all_eq_true.1 rfl)⟩
  obtain ⟨-, -, -, taken⟩ := stat_reads_numerals has rfl
  obtain ⟨size, -, behind, -⟩ := taken (utf8 "\t+007 ") (utf8 "5\n") 7 (by decide +kernel)
    (by decide +kernel) (by decide +kernel) (by decide +kernel) spells (by decide)
  exact ⟨⟨link, has, rfl⟩, spells, size, behind⟩

end World

end SessionStream
