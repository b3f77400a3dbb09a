import SessionStream.Proofs.Lifetime

/-!
# Commands and replies

A stream has a command answered before it sends the next one, so the reply to each command should be
the line with the same number. This holds as long as every reply is read to its end. A reply that is
too long and a transfer that is refused end the conversation, but an exchange that fails in any
other way does not: the stream goes on with the next command, and takes what is left of the reply
to the one before for the reply to this one.

## Main definitions

- `commands` — the commands of a control connection
- `WholeLines` — bytes that are a number of whole lines
- `OwnReply` — the reply to a command is the line with the number of the command

## Main results

- `ownReply_iff` — the reply to a command is its own exactly if all replies before it were whole
- `World.own_reply_iff` — the same in every world that a run leads to
- `World.reply_of_earlier_command` — a size that is the answer to the query before
-/

namespace SessionStream

variable {control k : ConnectionId} {es trace : List Event} {cs : List Exchange} {n : Nat}

/-- The commands of a control connection, in the order in which they were begun: all exchanges
behind the one that binds the connection to its session. -/
def commands (k : ConnectionId) (trace : List Event) : List Exchange :=
  (dialogue k trace).reverse.drop 1

/-- The bytes are this many lines, and all of them are whole. -/
def WholeLines (count : Nat) (bytes : Bytes) : Prop :=
  bytes.count Reply.lineEnd = count ∧ ∀ b ∈ bytes.getLast?, b = Reply.lineEnd

/-- What is received after the command with this number begins behind as many whole lines as there
were commands before it, and it and all these commands were sent whole. -/
def OwnReply (cs : List Exchange) (n : Nat) : Prop :=
  (∀ x ∈ cs.take (n + 1), x.Sent) ∧ WholeLines n ((cs.take n).flatMap Exchange.heard)

instance (count : Nat) (bytes : Bytes) : Decidable (WholeLines count bytes) :=
  inferInstanceAs (Decidable (_ ∧ _))

instance (cs : List Exchange) (n : Nat) : Decidable (OwnReply cs n) :=
  inferInstanceAs (Decidable (_ ∧ _))

namespace Exchange

variable {x : Exchange}

/-- An answer is heard only after the whole line was sent. -/
theorem Over.sent_of_answered (h : x.Over) (answered : x.Answered) : x.Sent := by
  refine Decidable.by_contra fun unsent => ?_
  unfold Answered at answered
  rw [h.silent unsent] at answered
  cases answered

/-- What is heard in an answered exchange is one line. -/
theorem Over.line_of_answered (h : x.Over) (answered : x.Answered) :
    ∃ reply, x.heard = reply ++ [Reply.lineEnd] ∧ Reply.lineEnd ∉ reply :=
  h.reply.resolve_left fun unanswered => unanswered answered

/-- What is heard in an exchange has the end of one line in it if the exchange is answered. -/
theorem Over.count_heard (h : x.Over) :
    x.heard.count Reply.lineEnd = if x.Answered then 1 else 0 := by
  by_cases answered : x.Answered
  · obtain ⟨reply, heard, inside⟩ := h.line_of_answered answered
    rw [if_pos answered, heard, List.count_append, List.count_eq_zero_of_not_mem inside]
    rfl
  · rw [if_neg answered]
    exact List.count_eq_zero_of_not_mem answered

end Exchange

/-- As many lines end in what is heard as there are answers. -/
theorem count_flatMap_heard (h : ∀ x ∈ cs, x.Over) :
    (cs.flatMap Exchange.heard).count Reply.lineEnd =
      cs.countP fun x => decide x.Answered := by
  induction cs with
  | nil => rfl
  | cons x cs ih =>
    rw [List.flatMap_cons, List.count_append, List.countP_cons,
      (h x (List.mem_cons_self ..)).count_heard, ih fun y hy => h y (List.mem_cons_of_mem _ hy),
      Nat.add_comm]
    simp only [decide_eq_true_eq]

/-- What is heard is one whole line for each exchange exactly if all are answered. -/
theorem wholeLines_flatMap_heard_iff (h : ∀ x ∈ cs, x.Over) :
    WholeLines cs.length (cs.flatMap Exchange.heard) ↔ ∀ x ∈ cs, x.Answered := by
  unfold WholeLines
  rw [count_flatMap_heard h, List.countP_eq_length]
  simp only [decide_eq_true_eq]
  refine ⟨And.left, fun answered => ⟨answered, ?_⟩⟩
  rcases List.eq_nil_or_concat cs with rfl | ⟨earlier, x, rfl⟩
  · exact nofun
  · rw [List.concat_eq_append] at h answered ⊢
    have last : x ∈ earlier ++ [x] := List.mem_append_right _ (List.mem_singleton.2 rfl)
    obtain ⟨reply, heard, -⟩ := (h x last).line_of_answered (answered x last)
    rw [List.flatMap_append, List.flatMap_singleton, heard, ← List.append_assoc,
      List.getLast?_concat]
    exact fun b hb => (Option.some.inj hb).symm

/-- The reply to an answered command is its own exactly if all commands before it were answered. -/
theorem ownReply_iff (h : ∀ x ∈ cs, x.Over) {x : Exchange} (hx : cs[n]? = some x)
    (answered : x.Answered) : OwnReply cs n ↔ ∀ y ∈ cs.take n, y.Answered := by
  have earlier : ∀ y ∈ cs.take n, y.Over := fun y hy => h y ((List.take_prefix _ _).subset hy)
  obtain ⟨inside, -⟩ := List.getElem?_eq_some_iff.1 hx
  have length : (cs.take n).length = n := List.length_take_of_le (Nat.le_of_lt inside)
  have lines := wholeLines_flatMap_heard_iff earlier
  rw [length] at lines
  unfold OwnReply
  rw [lines]
  refine ⟨And.right, fun all => ⟨fun y hy => ?_, all⟩⟩
  rw [List.take_add_one, hx, List.mem_append] at hy
  rcases hy with hy | hy
  · exact (earlier y hy).sent_of_answered (all y hy)
  · obtain rfl : x = y := Option.some.inj (Option.mem_toList.1 hy)
    exact (h x (List.mem_of_getElem? hx)).sent_of_answered answered

section Conversing

variable {session : Session} {outOfStep : Option Failure} {xs : List Exchange}

theorem Conversing.commands_eq (h : Conversing control session outOfStep trace xs) :
    commands control trace = xs.reverse := by
  obtain ⟨first, -, hdialogue⟩ := h.dialogue_eq
  unfold commands
  rw [hdialogue, List.reverse_append]
  rfl

/-- Calls that move no bytes leave a control connection as it is. -/
theorem Conversing.mute (h : Conversing control session outOfStep trace xs) (mute : Mute es) :
    Conversing control session outOfStep (trace ++ es) xs where
  dialogue_eq := by
    rw [dialogue_append, mute.foldl_converse]
    exact h.dialogue_eq
  fits := h.fits
  earlier := h.earlier
  latest := h.latest
  heard := by rw [delivered_append, mute.outward.delivered_eq_nil, List.append_nil, h.heard]

/-- What the record tells of the commands of a control connection: all that was delivered was heard
in their exchanges, a reply is the own one exactly if all before it were whole, and nothing is sent
behind an exchange that was misled. -/
theorem Conversing.alternates (h : Conversing control session outOfStep trace xs) :
    delivered control trace = (commands control trace).flatMap Exchange.heard ∧
    (∀ (n : Nat) (x : Exchange), (commands control trace)[n]? = some x → x.Answered →
      (∃ reply, x.heard = reply ++ [Reply.lineEnd] ∧ Reply.lineEnd ∉ reply) ∧
      (OwnReply (commands control trace) n ↔
        ∀ y ∈ (commands control trace).take n, y.Answered)) ∧
    ∀ x ∈ (commands control trace).dropLast, ¬x.Misled := by
  have ended : ∀ x ∈ xs.reverse, x.Over := fun x hx =>
    (h.fits x (List.mem_reverse.1 hx)).ended
  rw [h.commands_eq]
  refine ⟨h.heard, fun n x hx answered => ⟨?_, ownReply_iff ended hx answered⟩, fun x hx => ?_⟩
  · exact (ended x (List.mem_of_getElem? hx)).line_of_answered answered
  · rw [List.dropLast_reverse, List.mem_reverse] at hx
    exact h.earlier x hx

end Conversing

namespace World

variable {world next : World} {number : Nat} {direction : Direction} {step : Step}
  {r : Except Failure Answer}

/-- **Step lemma**: a step leaves the commands of a control connection in order, whether the stream
is open or closed. -/
theorem Turn.conversing (h : Turn world step es r next)
    (grows : world.host.network.Extends es next.host.network) (sound : world.Sound)
    (lasting : Lasting number k direction world)
    (before : ∃ session outOfStep xs, Conversing k session outOfStep world.trace xs) :
    ∃ session outOfStep xs, Conversing k session outOfStep next.trace xs := by
  have htrace : next.trace = world.trace ++ es := grows.trace_eq
  obtain ⟨session, outOfStep, xs, conversing⟩ := before
  obtain ⟨-, follows⟩ := h.lasting grows sound lasting
  cases follows with
  | elsewhere away => exact ⟨_, _, xs, htrace ▸ conversing.frame away.control⟩
  | here has control _ evolves becomes =>
    have sound' := (h.sound grows sound).streams number _ becomes
    subst control
    cases evolves with
    | still =>
      obtain ⟨ys, conversing'⟩ := (sound' _ rfl).conversing
      exact ⟨_, _, ys, conversing'⟩
    | moved moves =>
      obtain ⟨ys, conversing'⟩ := (sound' _ rfl).conversing
      rw [moves.keeps.1] at conversing'
      exact ⟨_, _, ys, conversing'⟩
    | released release => exact ⟨_, _, xs, htrace ▸ conversing.mute release.mute.1⟩

/-- **Run lemma**: so does every run. -/
theorem conversing_after (steps : List Step) (sound : world.Sound)
    (lasting : Lasting number k direction world)
    (before : ∃ session outOfStep xs, Conversing k session outOfStep world.trace xs) :
    ∃ session outOfStep xs, Conversing k session outOfStep (after steps world).trace xs := by
  induction steps generalizing world with
  | nil => exact before
  | cons step later ih =>
    obtain ⟨es, grows, turn⟩ := step_turn step world
    exact ih (sound_step step sound) (turn.lasting grows sound lasting).1
      (turn.conversing grows sound lasting before)

/-- A size query is one more command exactly if the latest command was not misled. -/
theorem stat_sends_iff (sound : world.Sound) {link : Link}
    (has : world.streams[number]? = some (.opened link)) :
    (∃ y : Exchange, y.line = Command.stat.line ∧
      commands link.control (World.step (.onStream number .stat) world).2.trace =
        commands link.control world.trace ++ [y]) ↔
    ∀ x ∈ (commands link.control world.trace).getLast?, ¬x.Misled := by
  obtain ⟨es, grows, turn⟩ := step_turn (.onStream number .stat) world
  have htrace : (World.step (.onStream number .stat) world).2.trace = world.trace ++ es :=
    grows.trace_eq
  have fits := sound.streams number _ has link rfl
  obtain ⟨xs, conversing⟩ := fits.conversing
  have latest := conversing.latest
  rw [htrace, conversing.commands_eq, List.getLast?_reverse, ← latest]
  generalize (World.step (.onStream number .stat) world).1 = r at turn
  generalize (World.step (.onStream number .stat) world).2 = next at turn
  cases turn with
  | refused absent =>
    rw [absent number rfl] at has
    cases has
  | added plain => cases plain
  | aside plain => cases plain
  | onStream has' performs streams =>
    obtain rfl := Option.some.inj (has.symm.trans has')
    cases performs with
    | stat stating =>
      cases stating with
      | refused notOpen => exact absurd rfl notOpen
      | done stating =>
        cases stating with
        | unusable broken =>
          rw [List.append_nil, conversing.commands_eq, broken]
          refine ⟨fun sends => ?_, nofun⟩
          obtain ⟨y, -, longer⟩ := sends
          exact absurd (congrArg List.length longer) (by simp)
        | exchanged usable exchange =>
          refine ⟨fun _ => usable, fun _ => ?_⟩
          obtain ⟨y, records, hdialogue, -⟩ :=
            fits.exchange sound.orderly usable (.inl rfl) exchange
          obtain ⟨first, -, hfirst⟩ := conversing.dialogue_eq
          refine ⟨y, records.line_eq, ?_⟩
          unfold commands
          rw [hdialogue, hfirst, List.reverse_cons, List.reverse_append]
          rfl

/-- **Alternation.** In every world that a run leads to, take the control connection that a stream
has or had, and its commands. All that was delivered was heard in them, command by command. A
command that was answered took one line for its reply, and this is the line with the number of the
command, with the command and all before it sent whole, exactly if all commands before it were
answered. Nothing was sent behind an exchange whose reply was too long or refused a transfer; behind
any other exchange, a stream that is still open sends the next command. -/
theorem own_reply_iff {firstId : Int} {waiting : List Peer} {world : World}
    (start : begin firstId waiting = .ok world) (before later : List Step) {number : Nat}
    {stream : ByteStream} (has : (after before world).streams[number]? = some stream)
    {control : ConnectionId} (hcontrol : stream.control = some control) :
    let reached := after (before ++ later) world
    let cs := commands control reached.trace
    delivered control reached.trace = cs.flatMap Exchange.heard ∧
    (∀ (n : Nat) (x : Exchange), cs[n]? = some x → x.Answered →
      (∃ reply, x.heard = reply ++ [Reply.lineEnd] ∧ Reply.lineEnd ∉ reply) ∧
      (OwnReply cs n ↔ ∀ y ∈ cs.take n, y.Answered)) ∧
    (∀ x ∈ cs.dropLast, ¬x.Misled) ∧
    ∀ stream', reached.streams[number]? = some stream' → stream'.control = some control →
      ((∃ y : Exchange, y.line = Command.stat.line ∧
        commands control (World.step (.onStream number .stat) reached).2.trace = cs ++ [y]) ↔
      ∀ x ∈ cs.getLast?, ¬x.Misled) := by
  intro reached cs
  have sound := sound_after before (sound_begin start)
  have sound' : reached.Sound := sound_after (before ++ later) (sound_begin start)
  have opening : ∃ session outOfStep xs,
      Conversing control session outOfStep (after before world).trace xs := by
    cases stream with
    | unopened => cases hcontrol
    | closed => cases hcontrol
    | opened link =>
      obtain rfl : link.control = control := Option.some.inj hcontrol
      obtain ⟨xs, conversing⟩ := (sound.streams number _ has link rfl).conversing
      exact ⟨_, _, xs, conversing⟩
  obtain ⟨session, outOfStep, xs, conversing⟩ :=
    conversing_after later sound (sound.lasting has hcontrol) opening
  rw [← after_append] at conversing
  obtain ⟨heard, own, calm⟩ := conversing.alternates
  refine ⟨heard, own, calm, fun stream' has' hcontrol' => ?_⟩
  cases stream' with
  | unopened => cases hcontrol'
  | closed => cases hcontrol'
  | opened link =>
    obtain rfl : link.control = control := Option.some.inj hcontrol'
    exact stat_sends_iff sound' has'

/-- Two sizes, each the answer to its own query. -/
theorem own_reply_iff_sizes :
    let settings : Settings := { target := "/run/letters", route := ⟨.direct, .given⟩ }
    let waiting : List Peer := [{ incoming := [.bytes (utf8 "1\n2\n")] }]
    let world : World := { host := { network := { waiting } } }
    let steps : List Step := [.onStream 0 .stat, .onStream 0 .stat]
    (run ([.start settings "r"] ++ steps) world).1 =
      [.ok (.number 0), .ok (.number 1), .ok (.number 2)] ∧
    OwnReply (commands ⟨0⟩ (after ([.start settings "r"] ++ steps) world).trace) 1 := by
  intro settings waiting world steps
  have begins : begin 1 waiting = .ok world := rfl
  have there : (after [.start settings "r"] world).streams[0]?.isSome = true := by decide +kernel
  have facts : ∀ stream ∈ (after [.start settings "r"] world).streams,
      stream.control = some ⟨0⟩ := by decide +kernel
  obtain ⟨stream, has⟩ := Option.isSome_iff_exists.1 there
  obtain ⟨-, own, -⟩ :=
    own_reply_iff begins [.start settings "r"] steps has (facts stream (List.mem_of_getElem? has))
  have second : (commands ⟨0⟩ (after ([.start settings "r"] ++ steps) world).trace)[1]? =
      some { line := Command.stat.line, left := [], sending := false, heard := utf8 "2\n" } := by
    decide +kernel
  refine ⟨by decide +kernel, (own 1 _ second (by decide +kernel)).2.2 ?_⟩
  decide +kernel

/-- The first query for the size fails while its reply is on the way, and the second one takes that
reply for its own. -/
theorem reply_of_earlier_command :
    let settings : Settings := { target := "/run/letters", route := ⟨.direct, .given⟩ }
    let waiting : List Peer := [{ incoming := [.fault (.system 12 "Cannot allocate memory"),
      .bytes (utf8 "1\n"), .bytes (utf8 "2\n")] }]
    let world : World := { host := { network := { waiting } } }
    let steps : List Step := [.start settings "r", .onStream 0 .stat, .onStream 0 .stat]
    let cs := commands ⟨0⟩ (after steps world).trace
    (run steps world).1 = [.ok (.number 0),
      .error (.fault (.system 12 "Cannot allocate memory")), .ok (.number 1)] ∧
    cs = [{ line := Command.stat.line, left := [], sending := false, heard := [] },
      { line := Command.stat.line, left := [], sending := false, heard := utf8 "1\n" }] ∧
    ¬OwnReply cs 1 := by
  decide +kernel

end World

end SessionStream
