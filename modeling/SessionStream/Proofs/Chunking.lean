import Mathlib.Data.List.Forall2
import SessionStream.Proofs.Parallel
import SessionStream.Proofs.Phases

/-!
# Lines in pieces

How the lines of a conversation are cut into pieces is nobody's business: neither in how many
segments a reply arrives nor in how many sends a command goes out can be told from what a stream
does. Two runs of a stream are put side by side on peers that differ in nothing else.

## Main definitions

- `Cut` — bytes in pieces that are not empty
- `Peer.SameLines` — peers of a control connection that differ in how lines are cut
- `Peer.SamePayload` — peers of a data connection that differ in how the first line is cut
- `Rechunked` — the peers that wait in two runs
- `ByteStream.Alike` — a stream in two runs

## Main results

- `Session.join_parallels` — a connection bound to a session
- `ByteStream.maintains_perform` — one operation
- `World.chunking_invisible` — a list of operations

## Design notes

Which of the peers that wait will be the control connection is known beforehand: the first one that
a connection can be made from. All later ones are for data connections, and the first line on these
resumes the session, so its length is known as well. A reply is read byte by byte, so the two runs
have the same receives; only the sends of lines differ in number.
-/

namespace SessionStream

open Act (Parallels)

variable {c : ConnectionId} {on : Common} {waiting waiting' : List Peer}

-- ════════════════════════════════════════════════════════════════════════
-- Peers that differ in how lines are cut
-- ════════════════════════════════════════════════════════════════════════

/-- Bytes in pieces that are not empty, with no failure among them. -/
inductive Cut : Bytes → List Segment → Prop
  | nil : Cut [] []
  | cons {piece rest : Bytes} {later : List Segment} (some : piece ≠ []) (cut : Cut rest later) :
      Cut (piece ++ rest) (.bytes piece :: later)

theorem cut_flatten (pieces : List Bytes) (some : ∀ piece ∈ pieces, piece ≠ []) :
    Cut pieces.flatten (pieces.map .bytes) := by
  induction pieces with
  | nil => exact .nil
  | cons piece later ih =>
    exact .cons (some piece (List.mem_cons_self ..))
      (ih fun p hp => some p (List.mem_cons_of_mem _ hp))

/-- A receive of one byte takes the first byte, wherever the pieces end. -/
theorem Cut.deliver {bytes : Bytes} {peer : Peer} (h : Cut bytes peer.incoming) :
    ∃ incoming, peer.deliver 1 = (.ok (bytes.take 1), { peer with incoming }) ∧
      Cut (bytes.drop 1) incoming := by
  obtain ⟨incoming⟩ := peer
  unfold Peer.deliver
  dsimp only at h ⊢
  cases h with
  | nil => exact ⟨[], rfl, .nil⟩
  | @cons piece rest later some cut =>
    cases piece with
    | nil => exact absurd rfl some
    | cons b piece =>
      cases piece with
      | nil => exact ⟨later, rfl, cut⟩
      | cons b' piece =>
        exact ⟨.bytes (b' :: piece) :: later, rfl, .cons (List.cons_ne_nil _ _) cut⟩

namespace Peer

/-- Peers of a control connection that differ only in how the lines are cut: in how many pieces
replies arrive, and how much of a command each send takes. -/
structure SameLines (peer peer' : Peer) : Prop where
  faults : peer.SameFaults peer'
  takes : AllTake peer.acceptances
  takes' : AllTake peer'.acceptances
  incoming : ∃ bytes, Cut bytes peer.incoming ∧ Cut bytes peer'.incoming

/-- Peers of a data connection that differ only in how much of the first line, which has this
length, each send takes. -/
structure SamePayload (length : Nat) (peer peer' : Peer) : Prop where
  same : peer' = { peer with acceptances := peer'.acceptances }
  line : ∃ rest, TakesLine length peer.acceptances rest ∧ TakesLine length peer'.acceptances rest

/-- A connection for the session `id` can be made from a peer, up to the line that binds it. -/
structure Ready (settings : Settings) (id : Int) (peer : Peer) : Prop
    extends Reachable settings.route.dialer settings.timeout.effective peer where
  blockingFault_eq : peer.blockingFault = none
  writable : Text.Writable id

/-- Peers that wait behind the control connection in two runs: the same one, or two of a data
connection that differ only in how the line is cut that resumes the session. -/
inductive Resumable (settings : Settings) (id : Int) : Peer → Peer → Prop
  | unready {peer : Peer} (unready : ¬peer.Ready settings id) : Resumable settings id peer peer
  | data {peer peer' : Peer} (ready : peer.Ready settings id)
      (payload : peer.SamePayload (Command.runSession id).line.length peer') :
      Resumable settings id peer peer'

theorem SameLines.not_all : ¬∀ peer peer' : Peer, peer.SameLines peer' := fun all => by
  obtain ⟨_, eq⟩ := (all { acceptances := [.upTo 0] } {}).takes _ (List.mem_singleton.2 rfl)
  cases eq

/-- A receive for a reply gives the same byte. -/
theorem SameLines.deliver {peer peer' : Peer} (h : peer.SameLines peer') :
    ∃ r later later', peer.deliver 1 = (r, later) ∧ peer'.deliver 1 = (r, later') ∧
      later.SameLines later' := by
  obtain ⟨bytes, cut, cut'⟩ := h.incoming
  obtain ⟨incoming, delivered, cut⟩ := cut.deliver
  obtain ⟨incoming', delivered', cut'⟩ := cut'.deliver
  exact ⟨_, _, _, delivered, delivered',
    ⟨⟨h.faults.1, h.faults.2, h.faults.3, h.faults.4⟩, h.takes, h.takes', _, cut, cut'⟩⟩

theorem SamePayload.refl_default (length : Nat) : SamePayload length {} {} := by
  refine ⟨rfl, [], ?_⟩
  cases length with
  | zero => exact ⟨.done [], .done []⟩
  | succ length => exact ⟨.whole length, .whole length⟩

theorem SamePayload.faults {length : Nat} {peer peer' : Peer} (h : peer.SamePayload length peer') :
    peer.SameFaults peer' := by
  rw [h.same]
  exact ⟨rfl, rfl, rfl, rfl⟩

theorem Resumable.faults {settings : Settings} {id : Int} {peer peer' : Peer}
    (h : peer.Resumable settings id peer') : peer.SameFaults peer' := by
  cases h with
  | unready => exact .refl peer
  | data _ payload => exact payload.faults

/-- Peers that can be resumed take the line for it and are the same from then on. -/
theorem Resumable.line {settings : Settings} {id : Int} {peer peer' : Peer}
    (h : peer.Resumable settings id peer') : ∃ rest, peer.Ready settings id →
      (TakesLine (Command.runSession id).line.length peer.acceptances rest ∧
        TakesLine (Command.runSession id).line.length peer'.acceptances rest) ∧
      { peer' with acceptances := rest } = { peer with acceptances := rest } := by
  cases h with
  | unready unready => exact ⟨[], fun ready => absurd ready unready⟩
  | data _ payload =>
    obtain ⟨rest, takes⟩ := payload.line
    refine ⟨rest, fun _ => ⟨takes, ?_⟩⟩
    rw [payload.same]

theorem resumable_default (settings : Settings) (id : Int) : Resumable settings id {} {} := by
  by_cases ready : Ready settings id {}
  · exact .data ready (.refl_default _)
  · exact .unready ready

end Peer

/-- The peers that wait in two runs before a stream is open. The first one that a connection can be
made from is for the control connection. -/
inductive Rechunked (settings : Settings) (id : Int) : List Peer → List Peer → Prop
  | nil : Rechunked settings id [] []
  | unready {peer : Peer} {later later' : List Peer} (unready : ¬peer.Ready settings id)
      (rest : Rechunked settings id later later') :
      Rechunked settings id (peer :: later) (peer :: later')
  | control {peer peer' : Peer} {later later' : List Peer} (ready : peer.Ready settings id)
      (lines : peer.SameLines peer')
      (rest : List.Forall₂ (Peer.Resumable settings id) later later') :
      Rechunked settings id (peer :: later) (peer' :: later')

theorem foremost_resumable {settings : Settings} {id : Int}
    (h : List.Forall₂ (Peer.Resumable settings id) waiting waiting') :
    (foremost waiting).Resumable settings id (foremost waiting') ∧
      List.Forall₂ (Peer.Resumable settings id) waiting.tail waiting'.tail := by
  cases h with
  | nil => exact ⟨Peer.resumable_default settings id, .nil⟩
  | cons head tail => exact ⟨head, tail⟩

theorem Rechunked.foremost {settings : Settings} {id : Int}
    (h : Rechunked settings id waiting waiting') :
    ((SessionStream.foremost waiting).Ready settings id →
      (SessionStream.foremost waiting).SameLines (SessionStream.foremost waiting') ∧
        List.Forall₂ (Peer.Resumable settings id) waiting.tail waiting'.tail) ∧
    (¬(SessionStream.foremost waiting).Ready settings id →
      SessionStream.foremost waiting' = SessionStream.foremost waiting ∧
        Rechunked settings id waiting.tail waiting'.tail) := by
  have plain : Peer.SameLines {} {} :=
    ⟨.refl _, fun _ h => absurd h List.not_mem_nil, fun _ h => absurd h List.not_mem_nil,
      [], .nil, .nil⟩
  cases h with
  | nil => exact ⟨fun _ => ⟨plain, .nil⟩, fun _ => ⟨rfl, .nil⟩⟩
  | unready unready rest => exact ⟨fun ready => absurd ready unready, fun _ => ⟨rfl, rest⟩⟩
  | control ready lines rest => exact ⟨fun _ => ⟨lines, rest⟩, fun unready => absurd ready unready⟩

theorem Rechunked.faults {settings : Settings} {id : Int}
    (h : Rechunked settings id waiting waiting') :
    (SessionStream.foremost waiting).SameFaults (SessionStream.foremost waiting') := by
  by_cases ready : (SessionStream.foremost waiting).Ready settings id
  · exact (h.foremost.1 ready).1.faults
  · rw [(h.foremost.2 ready).1]
    exact .refl _

-- ════════════════════════════════════════════════════════════════════════
-- Joining a session
-- ════════════════════════════════════════════════════════════════════════

/-- Counters that an action keeps are the same in both runs, and as before. -/
theorem Act.Parallels.keepingIds {α : Type} {act act' : Act Host α} {host host' : Host}
    {post : Except Failure α → Host → Host → Prop} (h : Parallels act act' host host' post)
    (kept : Act.KeepsIds act) :
    Parallels act act' host host' fun r t t' =>
      post r t t' ∧ ∀ source, t.ids source = host.ids source := by
  obtain ⟨r, t, t', ended, ended', h⟩ := h
  refine ⟨r, t, t', ended, ended', h, fun source => ?_⟩
  have same := kept host source
  rwa [ended] at same

/-- A step in the making of a connection. -/
theorem orGiveUp_parallels (on : Common) (waiting waiting' : List Peer) {step : String}
    {act act' : Act Host Unit} {host host' : Host}
    {post : Except Failure Unit → Host → Host → Prop}
    (h : Parallels act act' host host' fun r t t' => match r with
      | .ok u => post (.ok u) t t'
      | .error _ => t.Alike on waiting waiting' t' ∧
          (t'.network.peer c).closeFault = (t.network.peer c).closeFault ∧
          ∀ e u u', Host.Alike on waiting waiting' u u' → post (.error e) u u') :
    Parallels (orGiveUp c step act) (orGiveUp c step act') host host' post := by
  refine Parallels.rescue (h.mono ?_)
  rintro (e | _) t t' h
  · obtain ⟨alike, same, fails⟩ := h
    dsimp only
    split
    · refine (close_throw_parallels alike same).mono ?_
      rintro _ u u' ⟨⟨e, rfl⟩, after⟩
      exact fails e u u' after
    · exact fails e t t' alike
  · exact h

/-- A connection that has just been made is put into blocking mode in both runs, or given up in
both. -/
theorem setBlocking_parallels {peer peer' : Peer} {host host' : Host}
    (alike : host.Alike (on.exactly c peer peer') waiting waiting' host')
    (faults : peer.SameFaults peer') :
    Parallels (orGiveUp c "setblocking" (Network.setBlocking c))
      (orGiveUp c "setblocking" (Network.setBlocking c)) host host' fun r t t' => match r with
        | .ok _ => peer.blockingFault = none ∧
            t.Alike (on.exactly c peer peer') waiting waiting' t'
        | .error _ => peer.blockingFault ≠ none ∧
            t.Alike (on.exactly c peer peer') waiting waiting' t' := by
  obtain ⟨here, here'⟩ := alike.network.peers_exactly
  refine orGiveUp_parallels (on.exactly c peer peer') waiting waiting' (Parallels.onHost
    ((alike.network.comply ?_).mono ?_))
  · rw [here, here', faults.blockingFault_eq]
  rw [here]
  rintro (e | u) net net' ⟨ended, after⟩
  · obtain ⟨here, here'⟩ := after.peers_exactly
    refine ⟨alike.withNetwork after, ?_, fun e u u' h => ⟨fun calm => ?_, h⟩⟩
    · rw [here, here', faults.closeFault_eq]
    · rw [calm] at ended
      cases ended
  · refine ⟨?_, alike.withNetwork after⟩
    cases fault : peer.blockingFault with
    | none => rfl
    | some f =>
      rw [fault] at ended
      cases ended

/-- The line that binds a connection is sent in both runs. -/
theorem greeting_parallels {peer peer' : Peer} {host host' : Host}
    (alike : host.Alike (on.exactly c peer peer') waiting waiting' host') (step : String)
    {line : Bytes} {rest rest' : List Acceptance}
    (takes : TakesLine line.length peer.acceptances rest)
    (takes' : TakesLine line.length peer'.acceptances rest') :
    Parallels (orGiveUp c step (Wire.transmit c line)) (orGiveUp c step (Wire.transmit c line)) host
      host' fun r t t' => r = .ok () ∧ t.Alike (on.exactly c { peer with acceptances := rest }
        { peer' with acceptances := rest' }) waiting waiting' t' := by
  obtain ⟨here, here'⟩ := alike.network.peers_exactly
  refine orGiveUp_parallels (on.exactly c peer peer') waiting waiting' (Parallels.onHost
    ((Wire.transmit_parallels alike.network
    alike.network.made_exactly (here ▸ takes) (here' ▸ takes')).mono ?_))
  rintro _ net net' ⟨rfl, after⟩
  rw [here, here', Common.exactly_exactly] at after
  exact ⟨rfl, alike.withNetwork after⟩

namespace Session

/-- A session has this id, or will get it next. -/
def Expects (source : IdSource) (id : Int) (held : Held Session) : Prop :=
  held.own.id = some id ∨ held.own.id = none ∧ (held.host.ids source).next = id

/-- What a session expects does not change while the counter stays as it is. -/
theorem Expects.of_ids_eq {source : IdSource} {id : Int} {session : Session} {host host' : Host}
    (h : Expects source id ⟨session, host⟩) (ids : ∀ source, host'.ids source = host.ids source) :
    Expects source id ⟨session, host'⟩ := by
  unfold Expects
  rwa [ids]

/-- The command for the next connection of a session that has this id or will get it. -/
def nextCommand (session : Session) (id : Int) : Command :=
  match session.id with
  | some _ => .runSession id
  | none => .newSession session.direction id

variable {session : Session} {host host' : Host} {id : Int}

/-- A command is handed on in both runs if its number can be written down. -/
theorem handOn_parallels {command : Command} {message : String} (known : session.id = some id)
    (alike : host.Alike on waiting waiting' host')
    (writable : command.Writable ↔ Text.Writable id) :
    Parallels
      (do Act.ofExcept command.requireWritable; Host.write .info .joining message; pure command :
        Act (Held Session) Command)
      (do Act.ofExcept command.requireWritable; Host.write .info .joining message; pure command :
        Act (Held Session) Command) ⟨session, host⟩ ⟨session, host'⟩ fun r t t' =>
      t'.own = t.own ∧ t.own.id = some id ∧ t.host.Alike on waiting waiting' t'.host ∧
      match r with
        | .ok c => c = command ∧ Text.Writable id
        | .error _ => ¬Text.Writable id := by
  refine Parallels.bind (Act.parallels_ofExcept.2 ?_)
  unfold Command.requireWritable
  by_cases short : command.Writable
  · rw [if_pos short]
    refine Held.parallels_write_bind.2 (Act.parallels_pure.2 ?_)
    exact ⟨rfl, known, alike.logged _, rfl, writable.1 short⟩
  · rw [if_neg short]
    exact ⟨rfl, known, alike, fun h => short (writable.2 h)⟩

/-- A session introduces itself in the same way in both runs. -/
theorem introduction_parallels {source : IdSource} (expects : Expects source id ⟨session, host⟩)
    (alike : host.Alike on waiting waiting' host') :
    Parallels (introduction source) (introduction source) ⟨session, host⟩ ⟨session, host'⟩
      fun r t t' => t'.own = t.own ∧ t.own.id = some id ∧ t.host.Alike on waiting waiting' t'.host ∧
        match r with
          | .ok command => command = session.nextCommand id ∧ Text.Writable id
          | .error _ => ¬Text.Writable id := by
  unfold introduction nextCommand
  refine Act.parallels_get_bind.2 ?_
  dsimp only
  rcases expects with known | ⟨unknown, next⟩
  · have known : session.id = some id := known
    rw [known]
    exact handOn_parallels known alike Iff.rfl
  · have unknown : session.id = none := unknown
    rw [unknown]
    refine Parallels.bind (Parallels.onHeld (Act.parallels_get_bind.2 ?_))
    dsimp only
    rw [alike.ids_eq]
    refine Act.parallels_modify_bind.2 (Act.parallels_pure.2 ?_)
    have advanced := alike.setIds source (host.ids source).advance
    rw [← next]
    exact Act.parallels_modify_bind.2 (handOn_parallels rfl advanced Iff.rfl)

/-- A connection is bound to a session in both runs, or in neither. It is if the foremost peer is
ready, provided that both peers take the line. -/
theorem join_parallels {settings : Settings} {rest rest' : List Acceptance} (address : Address)
    (expects : Expects settings.route.ids id ⟨session, host⟩)
    (alike : host.Alike on waiting waiting' host')
    (faults : (foremost waiting).SameFaults (foremost waiting'))
    (takes : (foremost waiting).Ready settings id →
      TakesLine (session.nextCommand id).line.length (foremost waiting).acceptances rest ∧
        TakesLine (session.nextCommand id).line.length (foremost waiting').acceptances rest') :
    Parallels (join settings.route address settings.timeout.effective)
      (join settings.route address settings.timeout.effective) ⟨session, host⟩ ⟨session, host'⟩
      fun r t t' => t'.own = t.own ∧ Expects settings.route.ids id t ∧ match r with
        | .ok c => c = host.network.nextId ∧ (foremost waiting).Ready settings id ∧
            t.own.id = some id ∧
            t.host.Alike (on.exactly c { foremost waiting with acceptances := rest }
              { foremost waiting' with acceptances := rest' }) waiting.tail waiting'.tail t'.host
        | .error _ => ¬(foremost waiting).Ready settings id ∧
            t.host.Alike (on.except host.network.nextId) waiting.tail waiting'.tail t'.host := by
  have weaken {u u' : Host} {w w' : List Peer} {p p' : Peer}
      (h : u.Alike (on.exactly host.network.nextId p p') w w' u') :
      u.Alike (on.except host.network.nextId) w w' u' :=
    h.mono fun _ _ _ => Common.except_of_exactly
  unfold join
  refine Held.parallels_write_bind.2 (Parallels.bind (Parallels.onHeld
    (((reach_parallels (alike.logged _) faults settings.route.dialer address
      settings.timeout.effective).keepingIds (keepsIds_reach _ _ _)).mono ?_)))
  rintro (e | c) t t' ⟨reached, kept⟩
  · obtain ⟨unreachable, after⟩ := reached
    exact ⟨rfl, expects.of_ids_eq kept, fun ready => unreachable ready.toReachable, after⟩
  obtain ⟨rfl, reachable, alike⟩ := reached
  refine Parallels.bind (Parallels.onHeld (((setBlocking_parallels alike faults).keepingIds
    (keepsIds_orGiveUp (Act.keepsIds_network _))).mono ?_))
  rintro (e | u) t t' ⟨⟨blocked, alike⟩, kept'⟩
  · exact ⟨rfl, expects.of_ids_eq fun source => (kept' source).trans (kept source),
      fun ready => blocked ready.blockingFault_eq, weaken alike⟩
  have expects : Expects settings.route.ids id ⟨session, t⟩ :=
    expects.of_ids_eq fun source => (kept' source).trans (kept source)
  refine Parallels.bind ((introduction_parallels expects alike).mono ?_)
  rintro (e | command) mid mid' ⟨own_eq, known, alike, introduced⟩
  · exact ⟨own_eq, .inl known, fun ready => introduced ready.writable, weaken alike⟩
  obtain ⟨rfl, writable⟩ := introduced
  have ready : (foremost waiting).Ready settings id := ⟨reachable, blocked, writable⟩
  refine Parallels.bind (Parallels.onHeld ((greeting_parallels alike _ (takes ready).1
    (takes ready).2).mono ?_))
  rintro _ u u' ⟨rfl, alike⟩
  refine Held.parallels_write_bind.2 (Act.parallels_pure.2 ?_)
  exact ⟨own_eq, .inl known, rfl, ready, known, alike.logged _⟩

end Session

-- ════════════════════════════════════════════════════════════════════════
-- Open streams
-- ════════════════════════════════════════════════════════════════════════

open Act (Maintains)

namespace Link

/-- What the peers of the connections of a link have in common in two runs: those of the control
connection differ in how lines are cut, and that of the data connection is the same. -/
def common (link : Link) : Common := fun c peer peer' =>
  (c = link.control → peer.SameLines peer') ∧ (link.data = some c → peer' = peer)

/-- An open stream in two runs. -/
structure Alike (settings : Settings) (id : Int) (held held' : Held Link) : Prop where
  own_eq : held'.own = held.own
  settings_eq : held.own.settings = settings
  id_eq : held.own.session.id = some id
  apart : held.own.data ≠ some held.own.control
  host : ∃ waiting waiting', List.Forall₂ (Peer.Resumable settings id) waiting waiting' ∧
    held.host.Alike held.own.common waiting waiting' held'.host

section Alike

variable {settings : Settings} {id : Int} {held held' : Held Link}

theorem Alike.logged (h : Alike settings id held held') (entry : Log.Entry) :
    Alike settings id (held.logged entry) (held'.logged entry) := by
  obtain ⟨waiting, waiting', offers, alike⟩ := h.host
  exact ⟨h.own_eq, h.settings_eq, h.id_eq, h.apart, waiting, waiting', offers, alike.logged entry⟩

/-- Connections, settings and the id of the session stay as they are. -/
theorem Alike.update (h : Alike settings id held held') {f : Link → Link}
    (settings_eq : (f held.own).settings = held.own.settings)
    (id_eq : (f held.own).session.id = held.own.session.id)
    (control_eq : (f held.own).control = held.own.control)
    (data_eq : (f held.own).data = held.own.data) :
    Alike settings id { held with own := f held.own } { held' with own := f held'.own } := by
  obtain ⟨waiting, waiting', offers, alike⟩ := h.host
  refine ⟨congrArg f h.own_eq, settings_eq.trans h.settings_eq, id_eq.trans h.id_eq, ?_, waiting,
    waiting', offers, alike.mono fun c peer peer' asks => ?_⟩
  · show (f held.own).data ≠ some (f held.own).control
    rw [data_eq, control_eq]
    exact h.apart
  · unfold common
    dsimp only
    rwa [control_eq, data_eq]

theorem maintains_note (level : Log.Level) (message : String) :
    Maintains (Alike settings id) (note level message) :=
  fun _ _ h => (Act.parallels_of_outcome (r := .ok ()) _ _ rfl rfl).2
    (h.logged ⟨level, .stream, message⟩)

theorem maintains_update {f : Link → Link} (settings_eq : ∀ link, (f link).settings = link.settings)
    (id_eq : ∀ link, (f link).session.id = link.session.id)
    (control_eq : ∀ link, (f link).control = link.control)
    (data_eq : ∀ link, (f link).data = link.data) : Maintains (Alike settings id) (update f) :=
  fun _ _ h => (Act.parallels_of_outcome (r := .ok ()) (update f) (update f) rfl rfl).2
    (h.update (settings_eq _) (id_eq _) (control_eq _) (data_eq _))

theorem maintains_requireUsable : Maintains (Alike settings id) requireUsable := by
  refine Act.maintains_get_bind fun held held' h => ?_
  rw [h.own_eq]
  cases held.own.outOfStep with
  | none => exact Act.parallels_pure.2 h
  | some cause => exact Act.parallels_throw.2 h

theorem maintains_requireDirection (wanted : Direction) (complaint : String) :
    Maintains (Alike settings id) (requireDirection wanted complaint) := by
  refine Act.maintains_get_bind fun held held' h => ?_
  dsimp only
  rw [h.own_eq]
  split
  · exact parallels_note_bind.2 (Act.parallels_throw.2 (h.logged _))
  · exact Act.parallels_pure.2 h

theorem maintains_fallOutOfStep {α : Type} (cause : Failure) :
    Maintains (Alike settings id) (fallOutOfStep cause : Act (Held Link) α) := by
  refine Act.maintains_get_bind fun held held' h => ?_
  rw [h.own_eq]
  refine parallels_note_bind.2 (parallels_update_bind.2 (Act.parallels_throw.2 ?_))
  exact (h.logged _).update (f := fun link => { link with outOfStep := some cause }) rfl rfl rfl rfl

/-- Calls on the control connection after which its peers again differ only in how lines are cut. -/
theorem Alike.onControl {α : Type} {act : Act Network α} (h : Alike settings id held held')
    (calls : ∀ waiting waiting', held.host.network.Alike held.own.common waiting waiting'
      held'.host.network → Parallels act act held.host.network held'.host.network fun _ t t' =>
        t.Alike held.own.common waiting waiting' t') :
    Parallels (liftM (liftM act : Act Host α) : Act (Held Link) α)
      (liftM (liftM act : Act Host α) : Act (Held Link) α) held held' fun _ t t' =>
        Alike settings id t t' := by
  obtain ⟨waiting, waiting', offers, alike⟩ := h.host
  refine Parallels.onHeld (Parallels.onHost ((calls waiting waiting' alike.network).mono ?_))
  exact fun _ _ _ after => ⟨h.own_eq, h.settings_eq, h.id_eq, h.apart, waiting, waiting', offers,
    alike.withNetwork after⟩

theorem maintains_say (command : Command) : Maintains (Alike settings id) (say command) := by
  refine Act.maintains_get_bind fun held held' h => ?_
  rw [h.own_eq]
  refine h.onControl fun waiting waiting' alike => ?_
  have lines := (alike.peers held.own.control).1 rfl
  obtain ⟨rest, takes, positive⟩ := lines.takes.takesLine command.line.length
  obtain ⟨rest', takes', positive'⟩ := lines.takes'.takesLine command.line.length
  have made : held.own.control.index < held.host.network.connections.length := by
    refine Nat.lt_of_not_le fun new => Peer.SameLines.not_all fun peer peer' => ?_
    exact (alike.fresh _ new peer peer').1 rfl
  refine (Wire.transmit_parallels alike made takes takes').mono ?_
  rintro _ t t' ⟨-, after⟩
  refine after.mono fun c peer peer' asks => ?_
  unfold Common.exactly Common.but at asks
  split at asks
  · next same =>
    obtain ⟨rfl, rfl⟩ := asks
    refine ⟨fun _ => ⟨⟨?_, ?_, ?_, ?_⟩, positive, positive', lines.incoming⟩, fun has => ?_⟩
    · exact lines.faults.blockingFault_eq
    · exact lines.faults.closeFault_eq
    · exact lines.faults.connectFault_eq
    · exact lines.faults.socketFault_eq
    · exact absurd (same ▸ has) h.apart
  · exact asks

/-- A reply arrives in both runs with the same bytes. -/
theorem receiveLine_parallels {link : Link} (apart : link.data ≠ some link.control)
    {net net' : Network} (alike : net.Alike link.common waiting waiting' net') (limit : Int)
    (room : Nat) (line : Bytes) :
    Parallels (Wire.receiveLine link.control limit room line)
      (Wire.receiveLine link.control limit room line) net net' fun _ t t' =>
        t.Alike link.common waiting waiting' t' := by
  induction room generalizing line net net' with
  | zero => exact Act.parallels_throw.2 alike
  | succ room ih =>
    obtain ⟨r, peer, peer', delivered, delivered', lines⟩ :=
      ((alike.peers link.control).1 rfl).deliver
    have common : link.common link.control peer peer' := ⟨fun _ => lines, fun h => absurd h apart⟩
    refine Parallels.bind ((alike.call delivered delivered' common).mono ?_)
    rintro (e | bytes) t t' ⟨-, after⟩
    · exact after
    · cases bytes with
      | nil => exact Act.parallels_throw.2 after
      | cons b _ =>
        dsimp only
        split
        · exact Act.parallels_pure.2 after
        · exact ih after _

theorem maintains_hear : Maintains (Alike settings id) hear := by
  refine Act.maintains_get_bind fun held held' h => ?_
  dsimp only
  rw [h.own_eq]
  refine Parallels.tryCatch ((h.onControl fun waiting waiting' alike => ?_).mono ?_)
  · refine Parallels.bind ((receiveLine_parallels h.apart alike _ _ _).mono ?_)
    rintro (e | line) t t' after
    · exact after
    · exact Act.parallels_pure.2 after
  · rintro (e | reply) t t' after
    · dsimp only
      split
      · exact maintains_fallOutOfStep _ _ _ after
      · exact Act.parallels_throw.2 after
    · exact after

theorem maintains_announce : Maintains (Alike settings id) announce := by
  refine Act.maintains_get_bind fun held held' h => ?_
  dsimp only
  rw [h.own_eq]
  refine Maintains.bind (Act.maintains_ofExcept _) (fun _ => ?_) held held' h
  refine (maintains_note _ _).bind fun _ => (maintains_say _).bind fun _ =>
    maintains_hear.bind fun reply => ?_
  split
  · exact Act.maintains_pure _
  · exact (maintains_note _ _).bind fun _ => maintains_fallOutOfStep _

theorem maintains_stat : Maintains (Alike settings id) stat :=
  maintains_requireUsable.bind fun _ => (maintains_note _ _).bind fun _ =>
    (maintains_say _).bind fun _ => (maintains_note _ _).bind fun _ =>
    maintains_hear.bind fun _ => (maintains_note _ _).bind fun _ =>
      Act.maintains_ofExcept _

/-- The next connection to be made is neither of those of the link. -/
theorem nextId_ne {link : Link} {net net' : Network}
    (alike : net.Alike link.common waiting waiting' net') :
    net.nextId ≠ link.control ∧ link.data ≠ some net.nextId := by
  have free := alike.fresh net.nextId (Nat.le_refl _)
  refine ⟨fun same => Peer.SameLines.not_all fun peer peer' => (free peer peer').1 same,
    fun has => ?_⟩
  cases (free { acceptances := [.upTo 0] } {}).2 has

/-- The same connection is made in both runs, and can become the data connection. -/
theorem newConnection_parallels (h : Alike settings id held held') :
    Parallels newConnection newConnection held held' fun r t t' => match r with
      | .ok c => Alike settings id { t with own := { t.own with data := some c } }
          { t' with own := { t'.own with data := some c } }
      | .error _ => Alike settings id t t' := by
  obtain ⟨link, host⟩ := held
  obtain ⟨link', host'⟩ := held'
  obtain rfl : link' = link := h.own_eq
  obtain rfl : link'.settings = settings := h.settings_eq
  obtain ⟨waiting, waiting', offers, alike⟩ := h.host
  obtain ⟨offer, offers⟩ := foremost_resumable offers
  obtain ⟨rest, line⟩ := offer.line
  have known : link'.session.id = some id := h.id_eq
  have takes (ready : (foremost waiting).Ready link'.settings id) :
      TakesLine (link'.session.nextCommand id).line.length (foremost waiting).acceptances rest ∧
        TakesLine (link'.session.nextCommand id).line.length (foremost waiting').acceptances
          rest := by
    unfold Session.nextCommand
    rw [known]
    exact (line ready).1
  have assigned : link'.session.assigned = true := by
    unfold Session.assigned
    rw [known]
    rfl
  obtain ⟨notControl, notData⟩ := nextId_ne alike.network
  have joins := (Session.join_parallels link'.address (.inl known) alike offer.faults takes).does
    (Session.join_does link'.settings.route _ _ _)
  unfold newConnection
  refine Act.parallels_get_bind.2 ?_
  dsimp only
  refine Parallels.onPart (joins.mono ?_)
  rintro r ⟨own, host⟩ ⟨own', host'⟩ ⟨⟨own_eq, -, ended⟩, es, joining, -⟩
  obtain rfl : own = link'.session := joining.eq_of_assigned assigned
  obtain rfl : own' = link'.session := own_eq
  cases r with
  | error e =>
    refine ⟨rfl, rfl, known, h.apart, _, _, offers, ended.2.mono fun k peer peer' asks => ?_⟩
    unfold Common.except Common.but at asks
    split at asks
    · next same =>
      exact ⟨fun here => absurd (same.symm.trans here) notControl,
        fun has => absurd (same ▸ has) notData⟩
    · exact asks
  | ok c =>
    obtain ⟨rfl, ready, -, after⟩ := ended
    refine ⟨rfl, rfl, known, fun has => notControl (Option.some.inj has), _, _, offers,
      after.mono fun k peer peer' asks => ?_⟩
    unfold Common.exactly Common.but at asks
    split at asks
    · next same =>
      obtain ⟨rfl, rfl⟩ := asks
      exact ⟨fun here => absurd (same.symm.trans here) notControl, fun _ => (line ready).2⟩
    · next other => exact ⟨asks.1, fun has => absurd (Option.some.inj has).symm other⟩

theorem dataConnection_parallels (h : Alike settings id held held') :
    Parallels dataConnection dataConnection held held' fun r t t' => Alike settings id t t' ∧
      ∀ c, r = .ok c → t.own.data = some c := by
  suffices keeps : Parallels dataConnection dataConnection held held' fun _ t t' =>
      Alike settings id t t' by
    refine (keeps.does (dataConnection_does held)).mono ?_
    rintro r t t' ⟨after, es, connecting⟩
    refine ⟨after, ?_⟩
    rintro c rfl
    exact connecting.data_eq
  refine Act.parallels_get_bind.2 ?_
  rw [h.own_eq]
  cases held.own.data with
  | some c => exact Act.parallels_pure.2 h
  | none =>
    refine Parallels.bind ((maintains_announce held held' h).mono ?_)
    rintro (e | u) mid mid' h
    · exact h
    refine Parallels.bind ((newConnection_parallels h).mono ?_)
    rintro (e | c) t t' h
    · exact h
    · exact parallels_update_bind.2 (Act.parallels_pure.2 h)

/-- A call on the data connection. -/
theorem Alike.onData {α : Type} (h : Alike settings id held held') (has : held.own.data = some c)
    {event : Option α → Event} (answer : Peer → Except Fault α × Peer) :
    Parallels (liftM (liftM (Network.call c event answer) : Act Host α) : Act (Held Link) α)
      (liftM (liftM (Network.call c event answer) : Act Host α) : Act (Held Link) α) held held'
      fun _ t t' => Alike settings id t t' := by
  refine h.onControl fun waiting waiting' alike => ?_
  have same : held'.host.network.peer c = held.host.network.peer c := (alike.peers c).2 has
  have kept (peer : Peer) : held.own.common c peer peer :=
    ⟨fun here => absurd (here ▸ has) h.apart, fun _ => rfl⟩
  have answered : answer (held.host.network.peer c) =
      ((answer (held.host.network.peer c)).1, (answer (held.host.network.peer c)).2) := rfl
  refine (alike.call answered (same ▸ answered) (kept _)).mono ?_
  exact fun _ _ _ after => after.2

theorem maintains_receive (limit : Nat) : Maintains (Alike settings id) (receive limit) := by
  refine maintains_requireUsable.bind fun _ => (maintains_requireDirection _ _).bind fun _ => ?_
  refine fun held held' h => Parallels.bind ((dataConnection_parallels h).mono ?_)
  rintro (e | c) t t' ⟨h, has⟩
  · exact h
  refine Parallels.bind ((h.onData (has c rfl) _).mono ?_)
  rintro (e | bytes) t t' h
  · exact h
  dsimp only
  split
  · refine parallels_update_bind.2 (Act.parallels_pure.2 ?_)
    exact h.update (f := fun link => { link with position := link.position + bytes.length })
      rfl rfl rfl rfl
  · refine Act.parallels_get_bind.2 ?_
    rw [h.own_eq]
    exact Act.parallels_throw.2 h

theorem maintains_read (wanted : Nat) : Maintains (Alike settings id) (read wanted) := by
  unfold read
  split
  · exact maintains_requireUsable.bind fun _ => Act.maintains_pure _
  · refine ((maintains_receive wanted).map _).tryCatch fun e => ?_
    split
    · exact Act.maintains_pure _
    · exact Act.maintains_throw _

theorem maintains_write (data : Bytes) : Maintains (Alike settings id) (write data) := by
  refine maintains_requireUsable.bind fun _ => (maintains_requireDirection _ _).bind fun _ => ?_
  refine fun held held' h => Parallels.bind ((dataConnection_parallels h).mono ?_)
  rintro (e | c) t t' ⟨h, has⟩
  · exact h
  refine Parallels.bind ((h.onData (has c rfl) _).mono ?_)
  rintro (e | count) t t' h
  · exact h
  refine parallels_update_bind.2 (Act.parallels_pure.2 ?_)
  exact h.update (f := fun link => { link with position := link.position + count }) rfl rfl rfl rfl

theorem maintains_releaseData : Maintains (Alike settings id) releaseData := by
  refine Act.maintains_get_bind ?_
  rintro ⟨link, host⟩ ⟨link', host'⟩ h
  obtain rfl : link' = link := h.own_eq
  cases has : link'.data with
  | none => exact Act.parallels_pure.2 h
  | some c =>
    refine parallels_update_bind.2 (parallels_note_bind.2 ?_)
    -- What the peers of the connection have in common is forgotten with it.
    obtain ⟨waiting, waiting', offers, alike⟩ := h.host
    have same : host'.network.peer c = host.network.peer c := (alike.network.peers c).2 has
    refine Parallels.onHeld (Parallels.onHost (((alike.logged _).network.comply ?_).mono ?_))
    · exact congrArg Peer.closeFault same
    · rintro r t t' ⟨-, after⟩
      refine ⟨rfl, h.settings_eq, h.id_eq, nofun, _, _, offers,
        ((alike.logged _).withNetwork after).mono fun k peer peer' asks => ?_⟩
      exact ⟨asks.1, nofun⟩

theorem maintains_moveTo (target : Int) : Maintains (Alike settings id) (moveTo target) := by
  unfold moveTo
  have arrive : Maintains (Alike settings id)
      (do update fun link => { link with position := target.toNat }; pure target.toNat) :=
    Maintains.bind (maintains_update (fun _ => rfl) (fun _ => rfl) (fun _ => rfl) fun _ => rfl)
      fun _ => Act.maintains_pure _
  by_cases below : target < 0
  · rw [if_pos below]
    exact fun _ _ h => Act.parallels_throw_bind.2 h
  · rw [if_neg below]
    refine Act.maintains_get_bind fun held held' h => ?_
    dsimp only
    rw [h.own_eq]
    split
    · exact maintains_releaseData.bind (fun _ => arrive) held held' h
    · exact arrive held held' h

theorem maintains_seek (offset code : Int) : Maintains (Alike settings id) (seek offset code) := by
  refine maintains_requireUsable.bind fun _ => Act.maintains_get_bind fun held held' h => ?_
  dsimp only
  rw [h.own_eq]
  split
  · exact (maintains_note _ _).bind (fun _ => Act.maintains_throw _) held held' h
  · exact maintains_stat held held' h
  · exact (maintains_note _ _).bind (fun _ => (maintains_moveTo _).map _) held held' h
  · exact (maintains_note _ _).bind (fun _ => (maintains_moveTo _).map _) held held' h
  · refine maintains_stat.bind (fun size => (maintains_note _ _).bind fun _ => ?_) held held' h
    by_cases negative : size < 0
    · rw [if_pos negative]
      exact fun _ _ h => Act.parallels_throw_bind.2 h
    · rw [if_neg negative]
      exact (maintains_moveTo _).map _

/-- Both connections are given up in both runs. -/
theorem release_parallels {link : Link} {host host' : Host}
    (alike : host.Alike link.common waiting waiting' host') :
    Parallels (release link) (release link) host host' fun _ t t' =>
      t.Alike link.common waiting waiting' t' := by
  have last {host host' : Host} (alike : host.Alike link.common waiting waiting' host') :
      Parallels
        (do Host.write .debug .stream s!"Close {link.control.descriptor}"
            Network.close link.control : Act Host Unit)
        (do Host.write .debug .stream s!"Close {link.control.descriptor}"
            Network.close link.control : Act Host Unit) host host' fun _ t t' =>
          t.Alike link.common waiting waiting' t' := by
    have lines := (alike.network.peers link.control).1 rfl
    refine Host.parallels_write_bind.2 (Parallels.onHost
      (((alike.logged _).network.comply lines.faults.closeFault_eq).mono ?_))
    exact fun _ _ _ after => (alike.logged _).withNetwork after.2
  unfold release
  cases has : link.data with
  | none => exact last alike
  | some c =>
    have same : host'.network.peer c = host.network.peer c := (alike.network.peers c).2 has
    refine Host.parallels_write_bind.2 (Parallels.bind (Parallels.rescue (Parallels.onHost
      (((alike.logged _).network.comply (congrArg Peer.closeFault same)).mono ?_))))
    rintro (e | u) t t' ⟨-, after⟩
    · dsimp only
      split
      · exact Host.parallels_write.2 (last (((alike.logged _).withNetwork after).logged _))
      · exact (alike.logged _).withNetwork after
    · exact last ((alike.logged _).withNetwork after)

end Alike

end Link

-- ════════════════════════════════════════════════════════════════════════
-- Streams
-- ════════════════════════════════════════════════════════════════════════

/-- Nothing is asked of any connection. -/
def Common.none : Common :=
  fun _ _ _ => True

namespace ByteStream

/-- A stream in two runs. -/
inductive Alike (settings : Settings) (id : Int) : Held ByteStream → Held ByteStream → Prop
  | unopened {session : Session} {host host' : Host} {waiting waiting' : List Peer}
      (expects : Session.Expects settings.route.ids id ⟨session, host⟩)
      (offers : Rechunked settings id waiting waiting')
      (alike : host.Alike Common.none waiting waiting' host') :
      Alike settings id ⟨.unopened settings session, host⟩ ⟨.unopened settings session, host'⟩
  | opened {link : Link} {host host' : Host}
      (alike : Link.Alike settings id ⟨link, host⟩ ⟨link, host'⟩) :
      Alike settings id ⟨.opened link, host⟩ ⟨.opened link, host'⟩
  | closed {stream : ByteStream} {host host' : Host} {waiting waiting' : List Peer}
      (isClosed : stream.phase = .closed) (alike : host.Alike Common.none waiting waiting' host') :
      Alike settings id ⟨stream, host⟩ ⟨stream, host'⟩

variable {settings : Settings} {id : Int}

theorem Alike.own_eq {held held' : Held ByteStream} (h : Alike settings id held held') :
    held'.own = held.own := by
  cases h <;> rfl

/-- Whatever state a stream is in, the two records tell of the same bytes. -/
theorem Alike.bytes {held held' : Held ByteStream} (h : Alike settings id held held') :
    SameBytes held.host.network.trace held'.host.network.trace := by
  cases h with
  | unopened _ _ alike => exact alike.network.bytes
  | opened alike =>
    obtain ⟨_, _, -, alike⟩ := alike.host
    exact alike.network.bytes
  | closed _ alike => exact alike.network.bytes

theorem locate_parallels (target : Word) {on : Common} {host host' : Host}
    (alike : host.Alike on waiting waiting' host') :
    Parallels (locate target) (locate target) host host' fun _ t t' =>
      t.Alike on waiting waiting' t' ∧ ∀ source, t.ids source = host.ids source := by
  unfold locate
  refine Parallels.bind (Act.parallels_ofExcept.2 ?_)
  cases target.address with
  | error e => exact ⟨alike, fun _ => rfl⟩
  | ok address =>
    refine Host.parallels_write_bind.2 ?_
    by_cases abstract : address.isAbstract = true
    · rw [if_pos abstract]
      refine Host.parallels_write_bind.2 (Act.parallels_pure.2 ⟨?_, fun _ => rfl⟩)
      exact (alike.logged _).logged _
    · rw [if_neg abstract]
      exact Act.parallels_pure.2 ⟨alike.logged _, fun _ => rfl⟩

/-- A stream is opened in both runs, or in neither. -/
theorem establish_parallels {session : Session} {host host' : Host}
    (expects : Session.Expects settings.route.ids id ⟨session, host⟩)
    (offers : Rechunked settings id waiting waiting')
    (alike : host.Alike Common.none waiting waiting' host') :
    Parallels (establish settings) (establish settings) ⟨session, host⟩ ⟨session, host'⟩
      fun r t t' => match r with
        | .ok link => Link.Alike settings id ⟨link, t.host⟩ ⟨link, t'.host⟩
        | .error _ => Alike settings id ⟨.unopened settings t.own, t.host⟩
            ⟨.unopened settings t'.own, t'.host⟩ := by
  refine Parallels.bind (Parallels.onHeld ((locate_parallels settings.target alike).mono ?_))
  rintro (e | address) u u' ⟨alike, kept⟩
  · exact .unopened (expects.of_ids_eq kept) offers alike
  have expects := expects.of_ids_eq kept
  -- If the foremost peer is ready, it and the other one take any line.
  obtain ⟨rest, rest', takes⟩ : ∃ rest rest', (foremost waiting).Ready settings id →
      (TakesLine (session.nextCommand id).line.length (foremost waiting).acceptances rest ∧
        TakesLine (session.nextCommand id).line.length (foremost waiting').acceptances rest') ∧
      Peer.SameLines { foremost waiting with acceptances := rest }
        { foremost waiting' with acceptances := rest' } := by
    by_cases ready : (foremost waiting).Ready settings id
    · have lines := (offers.foremost.1 ready).1
      obtain ⟨rest, takes, positive⟩ := lines.takes.takesLine (session.nextCommand id).line.length
      obtain ⟨rest', takes', positive'⟩ :=
        lines.takes'.takesLine (session.nextCommand id).line.length
      exact ⟨rest, rest', fun _ => ⟨⟨takes, takes'⟩, ⟨lines.faults.1, lines.faults.2,
        lines.faults.3, lines.faults.4⟩, positive, positive', lines.incoming⟩⟩
    · exact ⟨[], [], fun h => absurd h ready⟩
  refine Parallels.bind ((Session.join_parallels address expects alike offers.faults
    fun ready => (takes ready).1).mono ?_)
  rintro (e | c) ⟨own, t⟩ ⟨own', t'⟩ ⟨own_eq, expects, ended⟩
  · obtain rfl : own' = own := own_eq
    obtain ⟨unready, after⟩ := ended
    exact .unopened expects (offers.foremost.2 unready).2 (after.mono fun _ _ _ _ => trivial)
  · obtain rfl : own' = own := own_eq
    obtain ⟨rfl, ready, known, after⟩ := ended
    refine Act.parallels_get_bind.2 (Act.parallels_pure.2 ⟨rfl, rfl, known, nofun, _, _,
      (offers.foremost.1 ready).2, after.mono fun k peer peer' asks => ⟨fun here => ?_, nofun⟩⟩)
    unfold Common.exactly Common.but at asks
    rw [if_pos here] at asks
    obtain ⟨rfl, rfl⟩ := asks
    exact (takes ready).2

theorem maintains_connect : Maintains (Alike settings id) connect := by
  intro held held' h
  cases h with
  | @unopened session host host' _ _ expects offers alike =>
    obtain ⟨r, t, t', ended, ended', after⟩ := establish_parallels expects offers alike
    unfold Parallels
    rw [outcome_connect_unopened, outcome_connect_unopened, ended, ended']
    cases r with
    | ok link => exact ⟨_, _, _, rfl, rfl, .opened after⟩
    | error e => exact ⟨_, _, _, rfl, rfl, after⟩
  | opened alike => exact (Act.parallels_of_outcome (r := .error _) _ _ rfl rfl).2 (.opened alike)
  | @closed stream host host' _ _ isClosed alike =>
    cases stream with
    | closed =>
      exact (Act.parallels_of_outcome (r := .error _) _ _ rfl rfl).2 (.closed isClosed alike)
    | _ => cases isClosed

theorem maintains_close : Maintains (Alike settings id) close := by
  intro held held' h
  cases h with
  | unopened expects offers alike =>
    exact (Act.parallels_of_outcome (r := .ok ()) _ _ rfl rfl).2 (.unopened expects offers alike)
  | @opened link host host' alike =>
    obtain ⟨_, _, -, alike⟩ := alike.host
    obtain ⟨r, t, t', ended, ended', after⟩ := Link.release_parallels alike
    have isClosed :
        (closed link.settings link.session link.address link.position).phase = .closed := rfl
    refine ⟨r, _, _, ?_, ?_, .closed isClosed (after.mono fun _ _ _ _ => trivial)⟩
    · rw [outcome_close_opened, ended]
    · rw [outcome_close_opened, ended']
  | @closed stream host host' _ _ isClosed alike =>
    cases stream with
    | closed =>
      exact (Act.parallels_of_outcome (r := .ok ()) _ _ rfl rfl).2 (.closed isClosed alike)
    | _ => cases isClosed

/-- An operation that only an open stream has. -/
theorem maintains_whileOpen {α : Type} {act : Act (Held Link) α}
    (h : Maintains (Link.Alike settings id) act) :
    Maintains (Alike settings id) (whileOpen act) := by
  intro held held' together
  have refused {stream : ByteStream} {host host' : Host} (notOpen : stream.phase ≠ .opened)
      (together : Alike settings id ⟨stream, host⟩ ⟨stream, host'⟩) :
      Parallels (whileOpen act) (whileOpen act) ⟨stream, host⟩ ⟨stream, host'⟩ fun _ t t' =>
        Alike settings id t t' :=
    (Act.parallels_of_outcome _ _ (outcome_whileOpen act notOpen host)
      (outcome_whileOpen act notOpen host')).2 together
  cases together with
  | unopened expects offers alike => exact refused nofun (.unopened expects offers alike)
  | closed isClosed alike => exact refused (by rw [isClosed]; nofun) (.closed isClosed alike)
  | @opened link host host' alike =>
    obtain ⟨r, ⟨link, t⟩, ⟨link', t'⟩, ended, ended', after⟩ := h _ _ alike
    obtain rfl : link' = link := after.own_eq
    refine ⟨r, _, _, ?_, ?_, .opened after⟩
    · rw [outcome_whileOpen_opened, ended]
    · rw [outcome_whileOpen_opened, ended']

theorem maintains_reserve (size : Nat) : Maintains (Alike settings id) (reserve size) := by
  refine Act.maintains_get_bind fun held held' h => ?_
  rw [h.own_eq]
  exact Act.maintains_ofExcept _ held held' h

theorem maintains_read (size : Option Int) : Maintains (Alike settings id) (read size) :=
  (maintains_reserve _).bind fun _ => maintains_whileOpen (Link.maintains_read _)

/-- Every operation of a stream gives the same in both runs. -/
theorem maintains_perform (operation : Operation) :
    Maintains (Alike settings id) (perform operation) := by
  cases operation with
  | connect => exact maintains_connect.bind fun _ => Act.maintains_pure _
  | read size => exact (maintains_read size).bind fun _ => Act.maintains_pure _
  | receive limit =>
    exact (maintains_whileOpen (Link.maintains_receive limit)).bind fun _ => Act.maintains_pure _
  | write data =>
    exact (maintains_whileOpen (Link.maintains_write data)).bind fun _ => Act.maintains_pure _
  | seek offset code =>
    exact (maintains_whileOpen (Link.maintains_seek offset code)).bind fun _ => Act.maintains_pure _
  | stat => exact (maintains_whileOpen Link.maintains_stat).bind fun _ => Act.maintains_pure _
  | position =>
    refine Act.maintains_get_bind fun held held' h => ?_
    rw [h.own_eq]
    exact Act.parallels_pure.2 h
  | descriptor =>
    refine Maintains.bind
      (maintains_whileOpen (Act.maintains_get_bind fun held held' h => ?_)) fun _ =>
      Act.maintains_pure _
    rw [h.own_eq]
    exact Act.parallels_pure.2 h
  | inspect =>
    refine Act.maintains_get_bind fun held held' h => ?_
    rw [h.own_eq]
    exact Act.parallels_pure.2 h
  | close => exact maintains_close.bind fun _ => Act.maintains_pure _

end ByteStream

-- ════════════════════════════════════════════════════════════════════════
-- Runs
-- ════════════════════════════════════════════════════════════════════════

namespace World

variable {settings : Settings} {id : Int} {world world' : World}

/-- The worlds of two runs with one stream, or with none. -/
inductive Alike (settings : Settings) (id : Int) (world world' : World) : Prop
  | empty (none : world.streams = []) (none' : world'.streams = [])
      (bytes : SameBytes world.trace world'.trace)
  | single {stream : ByteStream} (has : world.streams = [stream])
      (has' : world'.streams = [stream])
      (alike : ByteStream.Alike settings id ⟨stream, world.host⟩ ⟨stream, world'.host⟩)

theorem Alike.streams_eq (h : Alike settings id world world') : world'.streams = world.streams := by
  cases h with
  | empty none none' => rw [none, none']
  | single has has' => rw [has, has']

theorem Alike.bytes (h : Alike settings id world world') :
    SameBytes world.trace world'.trace := by
  cases h with
  | empty _ _ bytes => exact bytes
  | single _ _ alike => exact alike.bytes

/-- A step on a stream that is not there. -/
theorem step_onStream_absent {number : Nat} (absent : world.streams[number]? = none)
    (operation : ByteStream.Operation) :
    World.step (.onStream number operation) world = (.error .noSuchEntry, world) := by
  rw [step_eq]
  change Act.outcome (entry world.streams number >>= _) world = _
  unfold entry
  rw [absent]
  rfl

/-- One operation gives the same in both runs. -/
theorem Alike.step (h : Alike settings id world world') (operation : ByteStream.Operation) :
    (World.step (.onStream 0 operation) world').1 = (World.step (.onStream 0 operation) world).1 ∧
      Alike settings id (World.step (.onStream 0 operation) world).2
        (World.step (.onStream 0 operation) world').2 := by
  cases h with
  | empty none none' bytes =>
    have absent : world.streams[0]? = .none := by rw [none]; rfl
    have absent' : world'.streams[0]? = .none := by rw [none']; rfl
    rw [step_onStream_absent absent, step_onStream_absent absent']
    exact ⟨rfl, .empty none none' bytes⟩
  | @single stream has has' alike =>
    obtain ⟨r, ⟨own, t⟩, ⟨own', t'⟩, ended, ended', after⟩ :=
      ByteStream.maintains_perform operation _ _ alike
    obtain rfl : own' = own := after.own_eq
    have here : world.streams[0]? = some stream := by rw [has]; rfl
    have here' : world'.streams[0]? = some stream := by rw [has']; rfl
    rw [step_onStream here ended, step_onStream here' ended', has, has']
    exact ⟨rfl, .single rfl rfl after⟩

/-- A list of operations gives the same in both runs. -/
theorem Alike.run (h : Alike settings id world world') (operations : List ByteStream.Operation) :
    (World.run (operations.map (.onStream 0)) world').1 =
        (World.run (operations.map (.onStream 0)) world).1 ∧
      Alike settings id (World.run (operations.map (.onStream 0)) world).2
        (World.run (operations.map (.onStream 0)) world').2 := by
  induction operations generalizing world world' with
  | nil => exact ⟨rfl, h⟩
  | cons operation later ih =>
    obtain ⟨answer, next⟩ := h.step operation
    obtain ⟨answers, last⟩ := ih next
    simp only [List.map_cons, World.run]
    exact ⟨by rw [answer, answers], last⟩

/-- A new stream in two runs, on peers that differ only in how lines are cut. -/
theorem alike_create {firstId : Int} (start : begin firstId waiting = .ok world)
    (start' : begin firstId waiting' = .ok world')
    (offers : Rechunked settings (world.host.ids settings.route.ids).next waiting waiting')
    (mode : String) :
    (World.step (.create settings mode) world').1 = (World.step (.create settings mode) world).1 ∧
      Alike settings (world.host.ids settings.route.ids).next
        (World.step (.create settings mode) world).2
        (World.step (.create settings mode) world').2 := by
  unfold begin at start start'
  cases ids : SessionIds.startingAt firstId with
  | error e => rw [ids] at start; cases start
  | ok ids' =>
    rw [ids] at start start'
    cases start
    cases start'
    cases direction : Direction.ofMode mode with
    | error e =>
      have refused (world : World) :
          World.step (.create settings mode) world = (.error e, world) := by
        rw [step_eq]
        change Act.outcome (Act.ofExcept (ByteStream.ofMode settings mode) >>= _) world = _
        unfold ByteStream.ofMode
        rw [direction]
        rfl
      rw [refused, refused]
      exact ⟨rfl, .empty rfl rfl (.refl _)⟩
    | ok direction' =>
      have made (world : World) : World.step (.create settings mode) world =
          (.ok (.number world.streams.length), { world with
            streams := world.streams ++ [.unopened settings { direction := direction' }] }) := by
        rw [step_eq]
        change Act.outcome (Act.ofExcept (ByteStream.ofMode settings mode) >>= _) world = _
        unfold ByteStream.ofMode
        rw [direction]
        rfl
      rw [made, made]
      refine ⟨rfl, .single rfl rfl (.unopened (.inr ⟨rfl, rfl⟩) offers ?_)⟩
      exact ⟨⟨rfl, rfl, rfl, fun _ => trivial, fun _ _ _ _ => trivial, .refl _⟩, rfl, rfl, rfl⟩

/-- **Chunking is invisible.** Two runs of a stream start with peers that differ only in how the
lines are cut: in how many pieces, none of them empty, the control connection delivers its replies,
and how many bytes, at least one, each send of a line takes. Then both runs give the same answers
and failures, leave the stream in the same state, with its position and its data connection, and
accept and deliver the same bytes on every connection. This holds of any list of operations, and so
after every step of it. -/
theorem chunking_invisible {firstId : Int} (start : begin firstId waiting = .ok world)
    (start' : begin firstId waiting' = .ok world')
    (offers : Rechunked settings (world.host.ids settings.route.ids).next waiting waiting')
    (mode : String) (operations : List ByteStream.Operation) :
    let steps := .create settings mode :: operations.map (.onStream 0)
    (run steps world').1 = (run steps world).1 ∧
      (after steps world').streams = (after steps world).streams ∧
      ∀ c, accepted c (after steps world').trace = accepted c (after steps world).trace ∧
        received c (after steps world').trace = received c (after steps world).trace ∧
        delivered c (after steps world').trace = delivered c (after steps world).trace := by
  intro steps
  obtain ⟨created, alike⟩ := alike_create start start' offers mode
  obtain ⟨answers, last⟩ := alike.run operations
  have bytes := last.bytes
  refine ⟨?_, last.streams_eq, fun c => ⟨bytes.accepted_eq c, bytes.received_eq c,
    bytes.delivered_eq c⟩⟩
  simp only [steps, run]
  rw [created, answers]

/-- A size query and two transfers, over connections that take and deliver everything at once and
over others that do so in pieces. -/
theorem chunking_invisible_bytewise :
    let settings : Settings := { target := "/run/letters", route := ⟨.direct, .given⟩ }
    let replies := utf8 "5\nok\nok\n"
    let payload : List Segment := [.bytes (utf8 "abc"), .bytes (utf8 "de")]
    let waiting : List Peer :=
      [{ incoming := [.bytes replies] }, { incoming := payload }, { incoming := payload }]
    let waiting' : List Peer :=
      [{ incoming := (replies.map ([·])).map .bytes, acceptances := List.replicate 9 (.upTo 2) },
        { incoming := payload, acceptances := [.upTo 5, .upTo 9] },
        { incoming := payload, acceptances := [.upTo 3] }]
    let world : World := { host := { network := { waiting } } }
    let world' : World := { host := { network := { waiting := waiting' } } }
    let operations : List ByteStream.Operation :=
      [.connect, .stat, .receive 8, .seek 1 0, .read (some 2)]
    let steps := Step.create settings "r" :: operations.map (.onStream 0)
    (after steps world').trace ≠ (after steps world).trace ∧
      (run steps world').1 = (run steps world).1 ∧
      (after steps world').streams = (after steps world).streams ∧
      ∀ c, accepted c (after steps world').trace = accepted c (after steps world).trace ∧
        received c (after steps world').trace = received c (after steps world).trace ∧
        delivered c (after steps world').trace = delivered c (after steps world).trace := by
  intro settings replies payload waiting waiting' world world' operations steps
  have start : begin 1 waiting = .ok world := rfl
  have start' : begin 1 waiting' = .ok world' := rfl
  have ready (peer : Peer) (accepts : peer.connectFault = none)
      (blocks : peer.blockingFault = none) : peer.Ready settings 1 :=
    ⟨⟨accepts, nofun⟩, blocks, Text.writable_of_natAbs_lt (by decide)⟩
  have lines : Peer.SameLines (waiting.headD {}) (waiting'.headD {}) := by
    refine ⟨⟨rfl, rfl, rfl, rfl⟩, fun _ h => absurd h List.not_mem_nil,
      fun _ h => ⟨1, List.eq_of_mem_replicate h⟩, replies, ?_, ?_⟩
    · exact cut_flatten [replies] (by decide)
    · exact cut_flatten (replies.map ([·])) (by decide)
  have line : (Command.runSession 1).line.length = 14 := by decide
  have payloads (peer peer' : Peer) (same : peer' = { peer with acceptances := peer'.acceptances })
      (takes : TakesLine 14 peer.acceptances [] ∧ TakesLine 14 peer'.acceptances []) :
      peer.SamePayload (Command.runSession 1).line.length peer' :=
    ⟨same, [], line ▸ takes⟩
  have offers : Rechunked settings (world.host.ids settings.route.ids).next waiting waiting' := by
    refine .control (ready _ rfl rfl) lines (.cons (.data (ready _ rfl rfl) (payloads _ _ rfl ?_))
      (.cons (.data (ready _ rfl rfl) (payloads _ _ rfl ?_)) .nil))
    · exact ⟨.whole 13, .part (.part (.done _))⟩
    · exact ⟨.whole 13, .part (.whole 10)⟩
  exact ⟨by decide +kernel, chunking_invisible start start' offers "r" operations⟩

end World

end SessionStream
