import SessionStream.Proofs.Chunking

/-!
# Willing peers

A data connection comes about if the peers are willing: the peer of the control connection takes the
announcement of the transfer and admits it, and the next peer that waits lets a connection be made
and takes the line that binds it. All that is asked of the position is that it can be written down.

## Main definitions

- `Peer.Admits` — a peer that admits the next transfer

## Main results

- `Wire.outcome_receiveLine` — a line that is there is read
- `Session.outcome_join` — a connection from a peer that is ready for it
- `Link.outcome_dataConnection` — a data connection between willing peers
-/

namespace SessionStream

open Act (Parallels)

variable {c : ConnectionId} {rest : List Acceptance}

theorem Act.outcome_get_bind {σ α : Type} (g : σ → Act σ α) (s : σ) :
    Act.outcome (get >>= g) s = Act.outcome (g s) s :=
  rfl

/-- An outcome whose result is known. -/
theorem Act.outcome_eq_of_fst_eq {σ α : Type} {act : Act σ α} {s : σ} {a : α}
    (ended : (Act.outcome act s).1 = .ok a) :
    Act.outcome act s = (.ok a, (Act.outcome act s).2) := by
  rw [← ended]

/-- An action on the network, on something held. -/
theorem Act.outcome_onHeldNetwork {σ α : Type} (act : Act Network α) (held : Held σ) :
    Act.outcome (liftM act : Act (Held σ) α) held = ((Act.outcome act held.host.network).1,
      { held with host := { held.host with
        network := (Act.outcome act held.host.network).2 } }) := by
  have outer := Act.outcome_onHeld (liftM act : Act Host α) held
  rw [Act.outcome_onHost] at outer
  exact outer

-- ════════════════════════════════════════════════════════════════════════
-- Replies
-- ════════════════════════════════════════════════════════════════════════

namespace Wire

/-- The first byte of a segment is read, and the others are still to come. -/
theorem outcome_receive_one {net : Network} {b : UInt8} {bytes : Bytes} {later : List Segment}
    (coming : (net.peer c).incoming = .bytes (b :: bytes) :: later) :
    ∃ peer, Act.outcome (Network.receive c 1) net =
        (.ok [b], net.called c peer [.receive c 1 (some [b])]) ∧
      (bytes ≠ [] → peer.incoming = .bytes bytes :: later) := by
  refine ⟨{ net.peer c with
    incoming := if bytes.isEmpty then later else .bytes bytes :: later }, ?_, fun some => ?_⟩
  · unfold Act.outcome Network.receive Network.call Peer.deliver
    rw [if_neg Nat.one_ne_zero, coming]
    rfl
  · cases bytes with
    | nil => exact absurd rfl some
    | cons b bytes => rfl

/-- A line that is there is read. -/
theorem outcome_receiveLine {net : Network} {room : Nat} {reply behind : Bytes}
    {later : List Segment} (limit : Int) (line : Bytes) (made : c.index < net.connections.length)
    (plain : Reply.lineEnd ∉ reply) (fits : reply.length < room)
    (coming : (net.peer c).incoming = .bytes (reply ++ Reply.lineEnd :: behind) :: later) :
    ∃ peer es, Act.outcome (receiveLine c limit room line) net =
      (.ok (line ++ reply), net.called c peer es) := by
  induction reply generalizing net room line with
  | nil =>
    obtain ⟨room, rfl⟩ := Nat.exists_eq_succ_of_ne_zero (Nat.ne_of_gt fits)
    obtain ⟨peer, got, -⟩ := outcome_receive_one coming
    refine ⟨peer, [.receive c 1 (some [Reply.lineEnd])], ?_⟩
    unfold receiveLine
    rw [Act.outcome_bind, got, List.append_nil]
    rfl
  | cons b reply ih =>
    obtain ⟨room, rfl⟩ := Nat.exists_eq_succ_of_ne_zero (Nat.ne_of_gt (Nat.zero_lt_of_lt fits))
    rw [List.mem_cons, not_or] at plain
    obtain ⟨peer, got, left⟩ := outcome_receive_one coming
    have here : (net.called c peer [.receive c 1 (some [b])]).peer c = peer := by
      rw [Network.peer_called, if_pos ⟨rfl, made⟩]
    have left := left (List.append_ne_nil_of_right_ne_nil _ (List.cons_ne_nil _ _))
    obtain ⟨last, es, ended⟩ := ih (line ++ [b])
      (Nat.lt_of_lt_of_eq made List.length_set.symm) plain.2 (Nat.lt_of_succ_lt_succ fits)
      ((congrArg Peer.incoming here).trans left)
    refine ⟨last, .receive c 1 (some [b]) :: es, ?_⟩
    unfold receiveLine
    rw [Act.outcome_bind, got]
    dsimp only
    rw [if_neg (Ne.symm plain.1), ended, Network.called_called, List.append_assoc]
    rfl

end Wire

/-- A peer that takes a line of this length, and then delivers what admits a transfer. -/
structure Peer.Admits (length : Nat) (peer : Peer) : Prop where
  takes : ∃ rest, TakesLine length peer.acceptances rest
  admits : ∃ behind later,
    peer.incoming = .bytes (utf8 Reply.admission ++ Reply.lineEnd :: behind) :: later

namespace Link

variable {link : Link} {host : Host}

theorem outcome_note_bind {α : Type} {level : Log.Level} {message : String}
    (f : Unit → Act (Held Link) α) (held : Held Link) :
    Act.outcome (note level message >>= f) held =
      Act.outcome (f ()) (held.logged ⟨level, .stream, message⟩) :=
  rfl

/-- What is said to a peer that takes it. -/
theorem outcome_say (link : Link) (host : Host) {command : Command}
    (made : link.control.index < host.network.connections.length)
    (takes : TakesLine command.line.length (host.network.peer link.control).acceptances rest) :
    ∃ es, Act.outcome (say command) ⟨link, host⟩ = (.ok (), ⟨link, { host with
      network := host.network.called link.control
        { host.network.peer link.control with acceptances := rest } es }⟩) := by
  obtain ⟨es, ended, -⟩ := Wire.outcome_transmit made takes
  refine ⟨es, ?_⟩
  unfold say
  rw [Act.outcome_get_bind]
  dsimp only
  rw [Act.outcome_onHeldNetwork, ended]

/-- A reply that is there is heard. -/
theorem outcome_hear (link : Link) (host : Host) {reply behind : Bytes} {later : List Segment}
    (made : link.control.index < host.network.connections.length)
    (plain : Reply.lineEnd ∉ reply) (fits : reply.length < Reply.limit)
    (coming : (host.network.peer link.control).incoming =
      .bytes (reply ++ Reply.lineEnd :: behind) :: later) :
    ∃ peer es, Act.outcome hear ⟨link, host⟩ = (.ok (asciiText reply), ⟨link, { host with
      network := host.network.called link.control peer es }⟩) := by
  obtain ⟨peer, es, ended⟩ :=
    Wire.outcome_receiveLine Reply.limit [] made plain fits coming
  refine ⟨peer, es, ?_⟩
  have read : Act.outcome (Wire.receiveReply link.control Reply.limit) host.network =
      (.ok (asciiText reply), host.network.called link.control peer es) := by
    unfold Wire.receiveReply
    rw [Act.outcome_bind, show (Reply.limit : Int).toNat = Reply.limit from rfl, ended]
    rfl
  unfold hear
  rw [Act.outcome_get_bind]
  dsimp only
  rw [Act.outcome_tryCatch, Act.outcome_onHeldNetwork, read]

/-- A transfer that is admitted. -/
theorem outcome_announce (made : link.control.index < host.network.connections.length)
    (writable : Text.Writable link.position)
    (willing : (host.network.peer link.control).Admits link.announcement.line.length) :
    ∃ peer es log, Act.outcome announce ⟨link, host⟩ = (.ok (), ⟨link, { host with
      network := host.network.called link.control peer es, log }⟩) := by
  obtain ⟨⟨rest, takes⟩, behind, later, admits⟩ := willing
  let logged := host.logged
    ⟨.info, .stream, s!"cmd: {link.session.direction.word} {link.position}"⟩
  obtain ⟨es, said⟩ := outcome_say link logged made takes
  let spoken := { host.network.peer link.control with acceptances := rest }
  let mid : Host := { logged with network := host.network.called link.control spoken es }
  have here : mid.network.peer link.control = spoken := by
    rw [Network.peer_called, if_pos ⟨rfl, made⟩]
  obtain ⟨peer, fs, heard⟩ := outcome_hear link mid
    (Nat.lt_of_lt_of_eq made List.length_set.symm) (by decide +kernel) (by decide +kernel)
    ((congrArg Peer.incoming here).trans admits)
  refine ⟨peer, es ++ fs, logged.log, ?_⟩
  have allowed : Command.requireWritable link.announcement = .ok () := if_pos writable
  have admitted : Reply.requireAdmission (asciiText (utf8 Reply.admission)) = .ok () := by
    decide +kernel
  have said : Act.outcome (say link.announcement) ⟨link, logged⟩ = (.ok (), ⟨link, mid⟩) := said
  unfold announcement at allowed said
  unfold announce
  rw [Act.outcome_get_bind]
  dsimp only
  rw [allowed, Act.outcome_bind, show Act.outcome (Act.ofExcept (.ok ())) _ = (.ok (), _) from rfl]
  dsimp only
  rw [outcome_note_bind]
  rw [show Held.logged _ _ = (⟨link, logged⟩ : Held Link) from rfl, Act.outcome_bind, said]
  dsimp only
  rw [Act.outcome_bind, heard]
  dsimp only
  rw [admitted, Network.called_called]
  rfl

end Link

-- ════════════════════════════════════════════════════════════════════════
-- Data connections
-- ════════════════════════════════════════════════════════════════════════

/-- A network goes with itself. -/
theorem Host.alike_refl (host : Host) :
    host.Alike Common.none host.network.waiting host.network.waiting host where
  network := ⟨rfl, rfl, rfl, fun _ => trivial, fun _ _ _ _ => trivial, .refl _⟩
  givenIds_eq := rfl
  sharedIds_eq := rfl
  log_eq := rfl

/-- A connection from a peer that is ready for it and takes the line that binds it. -/
theorem Session.outcome_join {settings : Settings} {session : Session} {id : Int} (host : Host)
    (address : Address) (known : session.id = some id)
    (ready : host.network.nextPeer.Ready settings id)
    (takes : TakesLine (Command.runSession id).line.length host.network.nextPeer.acceptances rest) :
    ∃ host', Act.outcome (join settings.route address settings.timeout.effective) ⟨session, host⟩ =
        (.ok host.network.nextId, ⟨session, host'⟩) ∧
      host'.network.peer host.network.nextId =
        { host.network.nextPeer with acceptances := rest } := by
  have takes' : TakesLine (session.nextCommand id).line.length
      (foremost host.network.waiting).acceptances rest := by
    unfold nextCommand
    rw [known]
    exact takes
  obtain ⟨r, t, t', ended, -, ⟨-, -, h⟩, es, joining, -⟩ := (join_parallels address (.inl known)
    host.alike_refl (.refl _) fun _ => ⟨takes', takes'⟩).does
      (join_does settings.route address settings.timeout.effective _)
  have assigned : session.assigned = true := by
    rw [assigned, known]
    rfl
  obtain ⟨own, after⟩ := t
  obtain rfl : own = session := joining.eq_of_assigned assigned
  cases r with
  | error e => exact absurd ready h.1
  | ok c =>
    obtain ⟨rfl, -, -, alike⟩ := h
    exact ⟨after, ended, alike.network.peers_exactly.1⟩

namespace Link

variable {link : Link} {host : Host}

/-- **A data connection between willing peers** comes about at any position that can be written
down. -/
theorem outcome_dataConnection (link : Link) (host : Host) {id : Int} (without : link.data = none)
    (known : link.session.id = some id) (writable : Text.Writable link.position)
    (made : link.control.index < host.network.connections.length)
    (willing : (host.network.peer link.control).Admits link.announcement.line.length)
    (ready : host.network.nextPeer.Ready link.settings id)
    (takes : TakesLine (Command.runSession id).line.length host.network.nextPeer.acceptances rest) :
    ∃ host', Act.outcome dataConnection ⟨link, host⟩ =
        (.ok host.network.nextId, ⟨{ link with data := some host.network.nextId }, host'⟩) ∧
      host'.network.peer host.network.nextId =
        { host.network.nextPeer with acceptances := rest } := by
  obtain ⟨peer, es, log, announced⟩ := outcome_announce made writable willing
  let mid : Host := { host with network := host.network.called link.control peer es, log }
  have announced : Act.outcome announce ⟨link, host⟩ = (.ok (), ⟨link, mid⟩) := announced
  have next : mid.network.nextId = host.network.nextId :=
    congrArg ConnectionId.mk List.length_set
  obtain ⟨host', joined, there⟩ := Session.outcome_join mid link.address known ready takes
  rw [next] at joined there
  refine ⟨host', ?_, there⟩
  unfold dataConnection
  rw [Act.outcome_get_bind]
  dsimp only
  rw [without]
  dsimp only
  rw [Act.outcome_bind, announced]
  dsimp only
  have made : Act.outcome newConnection ⟨link, mid⟩ =
      (.ok host.network.nextId, ⟨link, host'⟩) := by
    unfold newConnection Held.zoom
    rw [Act.outcome_get_bind]
    dsimp only
    rw [Act.outcome_zoom, joined]
  rw [Act.outcome_bind, made]
  rfl

end Link

end SessionStream
