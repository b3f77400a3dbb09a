import Mathlib.Algebra.GroupWithZero.Nat
import SessionStream.CommandLine.Working
import SessionStream.Proofs.Conservation
import SessionStream.Proofs.Simulation

/-!
# What actions take from the peers

A peer holds what it will deliver, the outcomes of the next sends, and the faults of its calls. All
of this is used up and never grows. An action on the network may therefore be given a price: how
many bytes it has taken from what the peers had to deliver, and how many of the outcomes that were
laid down for sends. The prices of the operations bound the turns of every loop that calls them.

The same holds of faults: one that an action fails with was there before, on some peer. So if no
peer refuses a value, no action fails with the refusal of a value.

## Main definitions

- `Peer.faults`, `Network.Within` — the faults of a peer, and networks with faults of one kind only
- `Network.Leaves` — what the peers have left after an action of a certain price
- `Act.Spends` — an action has a price, whatever state it is started in

## Main results

- `ByteStream.read_spends`, `ByteStream.write_spends`, `ByteStream.seek_spends`,
  `ByteStream.connect_spends`, `ByteStream.close_spends` — the prices of the operations
-/

namespace SessionStream

open HasNetwork (network)

variable {allowed : Fault → Prop}

-- ════════════════════════════════════════════════════════════════════════
-- Peers
-- ════════════════════════════════════════════════════════════════════════

/-- The fault of a failing receive. -/
def Segment.fault? : Segment → Option Fault
  | fault f => some f
  | bytes _ => none

/-- The fault of a failing send. -/
def Acceptance.fault? : Acceptance → Option Fault
  | fault f => some f
  | upTo _ => none

namespace Peer

/-- The faults that calls on a peer can still fail with. -/
def faults (peer : Peer) : List Fault :=
  peer.incoming.filterMap Segment.fault? ++ peer.acceptances.filterMap Acceptance.fault? ++
    (peer.blockingFault.toList ++ peer.closeFault.toList ++ peer.connectFault.toList ++
      peer.socketFault.toList)

/-- What a peer has left after a call that took bytes from what it had to deliver, and outcomes from
those laid down for sends. -/
structure Leaves (peer : Peer) (bytes sends : Nat) (after : Peer) : Prop where
  undelivered : after.undelivered + bytes ≤ peer.undelivered
  acceptances : after.acceptances.length + sends ≤ peer.acceptances.length
  faults : after.faults ⊆ peer.faults

theorem Leaves.refl (peer : Peer) : peer.Leaves 0 0 peer :=
  ⟨Nat.le_refl _, Nat.le_refl _, List.Subset.refl _⟩

/-- What a peer has left after a call with this result, and where the fault of a failing one was. -/
def Pays {α : Type} (bytes sends : α → Nat) (peer : Peer) : Except Fault α → Peer → Prop
  | .ok a, after => peer.Leaves (bytes a) (sends a) after
  | .error f, after => peer.Leaves 0 0 after ∧ f ∈ peer.faults

theorem pays_deliver {limit : Nat} {peer after : Peer} {r : Except Fault Bytes}
    (h : peer.deliver limit = (r, after)) : peer.Pays List.length (fun _ => 0) r after := by
  obtain ⟨incoming, acceptances, blockingFault, closeFault, connectFault, socketFault⟩ := peer
  unfold deliver at h
  split at h
  · cases h
    exact .refl _
  cases incoming with
  | nil =>
    cases h
    exact .refl _
  | cons segment later =>
    cases segment with
    | fault f =>
      cases h
      refine ⟨⟨?_, Nat.le_refl _, ?_⟩, ?_⟩
      · simp [Peer.undelivered]
      · exact ((((List.sublist_cons_self (Segment.fault f) later).filterMap _).append_right _
          ).append_right _).subset
      · simp [faults, Segment.fault?]
    | bytes bs =>
      cases h
      have split : (bs.take limit).length + (bs.drop limit).length = bs.length := by
        rw [← List.length_append, List.take_append_drop]
      refine ⟨?_, Nat.le_refl _, ?_⟩
      · cases kept : bs.drop limit with
        | nil =>
          rw [kept, List.length_nil] at split
          simp only [List.isEmpty_nil, if_true, Peer.undelivered, List.flatMap_cons,
            List.length_append]
          omega
        | cons b rest =>
          rw [kept] at split
          simp only [List.isEmpty_cons, Bool.false_eq_true, if_false, Peer.undelivered,
            List.flatMap_cons, List.length_append]
          omega
      · cases bs.drop limit <;> exact List.Subset.refl _

/-- Every send that accepts less than was offered takes an outcome that was laid down. -/
theorem pays_accept {length : Nat} {peer after : Peer} {r : Except Fault Nat}
    (h : peer.accept length = (r, after)) :
    peer.Pays (fun _ => 0) (fun count => if count < length then 1 else 0) r after := by
  obtain ⟨incoming, acceptances, blockingFault, closeFault, connectFault, socketFault⟩ := peer
  unfold accept at h
  cases acceptances with
  | nil =>
    cases h
    refine ⟨Nat.le_refl _, ?_, List.Subset.refl _⟩
    have none : (if length < length then 1 else 0) = 0 := if_neg (Nat.lt_irrefl length)
    exact Nat.le_of_eq ((Nat.zero_add _).trans none)
  | cons acceptance later =>
    cases acceptance with
    | upTo count =>
      cases h
      refine ⟨Nat.le_refl _, ?_, List.Subset.refl _⟩
      change later.length + (if min count length < length then 1 else 0) ≤ later.length + 1
      split <;> omega
    | fault f =>
      cases h
      refine ⟨⟨Nat.le_refl _, Nat.le_succ _, ?_⟩, ?_⟩
      · exact ((((List.sublist_cons_self (Acceptance.fault f) later).filterMap _).append_left _
          ).append_right _).subset
      · simp [faults, Acceptance.fault?]

theorem pays_comply {fault? : Peer → Option Fault} {peer after : Peer} {r : Except Fault Unit}
    (known : ∀ f, fault? peer = some f → f ∈ peer.faults) (h : peer.comply fault? = (r, after)) :
    peer.Pays (fun _ => 0) (fun _ => 0) r after := by
  unfold comply at h
  cases fault : fault? peer with
  | none =>
    rw [fault] at h
    cases h
    exact .refl peer
  | some f =>
    rw [fault] at h
    cases h
    exact ⟨.refl peer, known f fault⟩

theorem blockingFault_mem {peer : Peer} {f : Fault} (h : peer.blockingFault = some f) :
    f ∈ peer.faults := by
  simp [faults, h]

theorem closeFault_mem {peer : Peer} {f : Fault} (h : peer.closeFault = some f) :
    f ∈ peer.faults := by
  simp [faults, h]

theorem connectFault_mem {peer : Peer} {f : Fault} (h : peer.connectFault = some f) :
    f ∈ peer.faults := by
  simp [faults, h]

theorem socketFault_mem {peer : Peer} {f : Fault} (h : peer.socketFault = some f) :
    f ∈ peer.faults := by
  simp [faults, h]

end Peer

-- ════════════════════════════════════════════════════════════════════════
-- Networks
-- ════════════════════════════════════════════════════════════════════════

namespace Network

/-- All peers, those of connections and those that wait for one. -/
def peers (net : Network) : List Peer :=
  net.connections ++ net.waiting

/-- All faults of the network are of one kind. -/
def Within (allowed : Fault → Prop) (net : Network) : Prop :=
  ∀ peer ∈ net.peers, ∀ f ∈ peer.faults, allowed f

/-- What the peers of a network have left after an action that took bytes and outcomes of sends. -/
structure Leaves (allowed : Fault → Prop) (net : Network) (bytes sends : Nat) (after : Network) :
    Prop where
  undelivered : after.undelivered + bytes ≤ net.undelivered
  pendingSends : after.pendingSends + sends ≤ net.pendingSends
  within : net.Within allowed → after.Within allowed

variable {net mid after : Network} {bytes bytes' sends sends' : Nat}

theorem undelivered_eq (net : Network) : net.undelivered = (net.peers.map Peer.undelivered).sum :=
  rfl

theorem pendingSends_eq (net : Network) :
    net.pendingSends = (net.peers.map fun peer => peer.acceptances.length).sum :=
  List.length_flatMap

theorem Leaves.refl (net : Network) : net.Leaves allowed 0 0 net :=
  ⟨Nat.le_refl _, Nat.le_refl _, id⟩

theorem Leaves.trans (h : net.Leaves allowed bytes sends mid)
    (h' : mid.Leaves allowed bytes' sends' after) :
    net.Leaves allowed (bytes + bytes') (sends + sends') after where
  undelivered := by
    have := h.undelivered
    have := h'.undelivered
    omega
  pendingSends := by
    have := h.pendingSends
    have := h'.pendingSends
    omega
  within := h'.within ∘ h.within

/-- Whoever can pay a price can pay a smaller one. -/
theorem Leaves.mono (h : net.Leaves allowed bytes sends after) (less : bytes' ≤ bytes)
    (less' : sends' ≤ sends) : net.Leaves allowed bytes' sends' after where
  undelivered := by
    have := h.undelivered
    omega
  pendingSends := by
    have := h.pendingSends
    omega
  within := h.within

/-- A change of the peers alone, with an event on record. -/
theorem Leaves.record (h : net.Leaves allowed bytes sends after) (e : Event) :
    net.Leaves allowed bytes sends (after.record e) :=
  ⟨h.undelivered, h.pendingSends, h.within⟩

theorem Within.nextPeer (within : net.Within allowed) : ∀ f ∈ net.nextPeer.faults, allowed f := by
  unfold Network.nextPeer
  cases waits : net.waiting with
  | nil => exact fun f hf => absurd hf List.not_mem_nil
  | cons next later => exact within next (List.mem_append_right _ (waits ▸ List.mem_cons_self ..))

theorem Within.peer (within : net.Within allowed) (c : ConnectionId) :
    ∀ f ∈ (net.peer c).faults, allowed f := by
  unfold Network.peer
  rw [List.getD_eq_getElem?_getD]
  by_cases inside : c.index < net.connections.length
  · rw [List.getElem?_eq_getElem inside]
    exact within _ (List.mem_append_left _ (List.getElem_mem inside))
  · rw [List.getElem?_eq_none (by omega)]
    exact fun f hf => absurd hf List.not_mem_nil

theorem sum_map_set {m : Peer → Nat} (nothing : m {} = 0) {later : Peer} {k : Nat}
    (peers : List Peer) (i : Nat) (spent : m later + k ≤ m (peers.getD i {})) :
    ((peers.set i later).map m).sum + k ≤ (peers.map m).sum := by
  induction peers generalizing i with
  | nil =>
    rw [List.getD_nil, nothing] at spent
    simp only [List.set_nil, List.map_nil, List.sum_nil]
    omega
  | cons peer peers ih =>
    cases i with
    | zero =>
      simp only [List.getD_cons_zero] at spent
      simp only [List.set_cons_zero, List.map_cons, List.sum_cons]
      omega
    | succ i =>
      have rest := ih i spent
      simp only [List.set_cons_succ, List.map_cons, List.sum_cons]
      omega

theorem leaves_setPeer {c : ConnectionId} {later : Peer}
    (h : (net.peer c).Leaves bytes sends later) :
    net.Leaves allowed bytes sends (net.setPeer c later) where
  undelivered := by
    have spent := sum_map_set (m := Peer.undelivered) rfl net.connections c.index h.undelivered
    simp only [undelivered_eq, peers, setPeer, List.map_append, List.sum_append]
    omega
  pendingSends := by
    have spent := sum_map_set (m := fun peer => peer.acceptances.length) rfl net.connections c.index
      h.acceptances
    simp only [pendingSends_eq, peers, setPeer, List.map_append, List.sum_append]
    omega
  within within peer hpeer := by
    rcases List.mem_append.1 hpeer with made | waits
    · rcases List.mem_or_eq_of_mem_set made with made | rfl
      · exact within peer (List.mem_append_left _ made)
      · exact fun f hf => within.peer c f (h.faults hf)
    · exact within peer (List.mem_append_right _ waits)

theorem leaves_dropPeer (net : Network) : net.Leaves allowed 0 0 net.dropPeer where
  undelivered := by
    simp only [undelivered_eq, peers, dropPeer]
    cases net.waiting with
    | nil => exact Nat.le_refl _
    | cons peer later =>
      simp only [List.tail_cons, List.map_append, List.map_cons, List.sum_append, List.sum_cons]
      omega
  pendingSends := by
    simp only [pendingSends_eq, peers, dropPeer]
    cases net.waiting with
    | nil => exact Nat.le_refl _
    | cons peer later =>
      simp only [List.tail_cons, List.map_append, List.map_cons, List.sum_append, List.sum_cons]
      omega
  within within peer hpeer := by
    refine within peer ?_
    rcases List.mem_append.1 hpeer with made | waits
    · exact List.mem_append_left _ made
    · exact List.mem_append_right _ (List.mem_of_mem_tail waits)

/-- The next peer becomes a connection. -/
theorem leaves_addConnection (net : Network) :
    net.Leaves allowed 0 0 (net.dropPeer.addConnection net.nextPeer) := by
  have total (m : Peer → Nat) (nothing : m {} = 0) :
      (((net.dropPeer.addConnection net.nextPeer).peers).map m).sum = (net.peers.map m).sum := by
    simp only [peers, addConnection, dropPeer, nextPeer]
    cases net.waiting with
    | nil => simp [nothing]
    | cons peer later => simp
  refine ⟨?_, ?_, fun within peer hpeer => ?_⟩
  · rw [undelivered_eq, undelivered_eq, total _ rfl]
    exact Nat.le_refl _
  · rw [pendingSends_eq, pendingSends_eq, total _ rfl]
    exact Nat.le_refl _
  · simp only [peers, addConnection, dropPeer, nextPeer] at hpeer
    unfold Within peers at within
    cases waits : net.waiting with
    | nil =>
      rw [waits] at hpeer within
      simp only [List.tail_nil, List.append_nil, List.headD_nil, List.mem_append,
        List.mem_singleton] at hpeer
      rcases hpeer with made | rfl
      · exact within peer (by simpa using made)
      · intro f hf
        cases hf
    | cons next later =>
      rw [waits] at hpeer within
      exact within peer (by simpa using hpeer)

end Network

-- ════════════════════════════════════════════════════════════════════════
-- Actions
-- ════════════════════════════════════════════════════════════════════════

/-- If the failure is a fault of a call, that one is of the kind. -/
def Failure.Within (allowed : Fault → Prop) (e : Failure) : Prop :=
  ∀ f, e = .fault f → allowed f

theorem Failure.within_quoting {allowed : Fault → Prop} {n : Int} {e : Failure}
    (named : e.Within allowed) : (quoting n e).Within allowed := by
  rcases quoting_eq n e with same | same <;> rw [same]
  · exact named
  · exact nofun

/-- What the peers have left after an action with this result: as much has been taken from them as
the value says, and if there is none, the failure is no other fault than theirs. -/
def Network.Pays {α : Type} (allowed : Fault → Prop) (bytes sends : α → Nat) (net : Network) :
    Except Failure α → Network → Prop
  | .ok a, after => net.Leaves allowed (bytes a) (sends a) after
  | .error e, after => net.Leaves allowed 0 0 after ∧ e.Within allowed

namespace Network.Pays

variable {α : Type} {net mid after : Network} {bytes sends bytes' sends' : α → Nat}
  {r : Except Failure α}

theorem leaves (h : net.Pays allowed bytes sends r after) : net.Leaves allowed 0 0 after := by
  cases r with
  | ok a => exact Leaves.mono h (Nat.zero_le _) (Nat.zero_le _)
  | error e => exact h.1

theorem mono (h : net.Pays allowed bytes sends r after) (less : ∀ a, bytes' a ≤ bytes a)
    (less' : ∀ a, sends' a ≤ sends a) : net.Pays allowed bytes' sends' r after := by
  cases r with
  | ok a => exact Leaves.mono h (less a) (less' a)
  | error e => exact h

/-- What was taken before an action and in it. -/
theorem behind {b k : Nat} (first : net.Leaves allowed b k mid)
    (h : mid.Pays allowed (fun a => bytes a - b) (fun a => sends a - k) r after) :
    net.Pays allowed bytes sends r after := by
  cases r with
  | ok a =>
    have both := first.trans h
    dsimp only at both
    exact both.mono (by omega) (by omega)
  | error e => exact ⟨(first.trans h.1).mono (Nat.zero_le _) (Nat.zero_le _), h.2⟩

end Network.Pays

namespace Act

variable {σ τ α β : Type} [HasNetwork σ] [HasNetwork τ]

/-- Wherever it is started, on a network with faults of one kind, the action takes these many bytes
and outcomes of sends from the peers, depending on its value, and fails with no other faults. -/
structure Spends (allowed : Fault → Prop) (act : Act σ α) (bytes sends : α → Nat) : Prop where
  pays : ∀ s, (network s).Within allowed →
    (network s).Pays allowed bytes sends (outcome act s).1 (network (outcome act s).2)

/-- The action takes something, but no one says how much. -/
abbrev Frugal (allowed : Fault → Prop) (act : Act σ α) : Prop :=
  Spends allowed act (fun _ => 0) fun _ => 0

variable {act : Act σ α} {f : α → Act σ β} {bytes sends : α → Nat}

theorem Spends.frugal (h : Spends allowed act bytes sends) : Frugal allowed act :=
  ⟨fun s within => (h.pays s within).mono (fun _ => Nat.zero_le _) fun _ => Nat.zero_le _⟩

theorem spends_pure {a : α} (bytes_eq : bytes a = 0) (sends_eq : sends a = 0) :
    Spends allowed (pure a : Act σ α) bytes sends := by
  refine ⟨fun s _ => ?_⟩
  change (network s).Leaves allowed (bytes a) (sends a) (network s)
  rw [bytes_eq, sends_eq]
  exact .refl _

theorem frugal_pure (a : α) : Frugal allowed (pure a : Act σ α) :=
  spends_pure rfl rfl

theorem spends_throw {e : Failure} (within : e.Within allowed) :
    Spends allowed (throw e : Act σ α) bytes sends :=
  ⟨fun _ _ => ⟨.refl _, within⟩⟩

theorem spends_throw_bind {e : Failure} {bytes sends : β → Nat} (within : e.Within allowed) :
    Spends allowed (throw e >>= f) bytes sends :=
  ⟨fun _ _ => ⟨.refl _, within⟩⟩

theorem frugal_ofExcept {r : Except Failure α} (within : ∀ e, r = .error e → e.Within allowed) :
    Frugal allowed (ofExcept r : Act σ α) := by
  cases r with
  | ok a => exact frugal_pure a
  | error e => exact spends_throw (within e rfl)

/-- A change of the state that leaves the network alone. -/
theorem frugal_modify {g : σ → σ} (same : ∀ s, network (g s) = network s) :
    Frugal allowed (modify g : Act σ PUnit) := by
  refine ⟨fun s _ => ?_⟩
  change (network s).Leaves allowed 0 0 (network (g s))
  rw [same]
  exact .refl _

theorem spends_get_bind {g : σ → Act σ α} (h : ∀ s, Spends allowed (g s) bytes sends) :
    Spends allowed (get >>= g) bytes sends :=
  ⟨fun s => (h s).pays s⟩

/-- **Sequencing**: the second part has to take what the first one leaves to be taken. -/
theorem Spends.bind {bytes' sends' : β → Nat} (h : Spends allowed act bytes sends)
    (next : ∀ a, Spends allowed (f a) (fun b => bytes' b - bytes a) fun b => sends' b - sends a) :
    Spends allowed (act >>= f) bytes' sends' := by
  refine ⟨fun s within => ?_⟩
  have first := h.pays s within
  rw [outcome_bind]
  generalize outcome act s = o at first ⊢
  obtain ⟨e | a, t⟩ := o
  · exact first
  · exact .behind first ((next a).pays t (first.within within))

/-- The first part need not take anything. -/
theorem Frugal.bind {bytes' sends' : β → Nat} (h : Frugal allowed act)
    (next : ∀ a, Spends allowed (f a) bytes' sends') : Spends allowed (act >>= f) bytes' sends' :=
  Spends.bind h next

theorem Spends.map {g : α → β} {bytes' sends' : β → Nat}
    (h : Spends allowed act (fun a => bytes' (g a)) fun a => sends' (g a)) :
    Spends allowed (g <$> act) bytes' sends' := by
  rw [map_eq_pure_bind]
  exact h.bind fun a => spends_pure (Nat.sub_self _) (Nat.sub_self _)

theorem Spends.tryCatch {answer : Failure → Act σ α} (h : Spends allowed act bytes sends)
    (next : ∀ e, e.Within allowed → Spends allowed (answer e) bytes sends) :
    Spends allowed (tryCatch act answer) bytes sends := by
  refine ⟨fun s within => ?_⟩
  have first := h.pays s within
  rw [outcome_tryCatch]
  generalize outcome act s = o at first ⊢
  obtain ⟨e | a, t⟩ := o
  · exact .behind first.1 ((next e first.2).pays t (first.1.within within))
  · exact first

theorem Spends.rescue {answer : Failure → Act σ α} (h : Spends allowed act bytes sends)
    (next : ∀ e, e.Within allowed → Spends allowed (answer e) bytes sends) :
    Spends allowed (act.rescue answer) bytes sends := by
  refine ⟨fun s within => ?_⟩
  have first := h.pays s within
  rw [outcome_rescue]
  generalize outcome act s = o at first ⊢
  obtain ⟨e | a, t⟩ := o
  · dsimp only
    split
    · exact .behind first.1 ((next e first.2).pays t (first.1.within within))
    · exact first
  · exact first

/-- An action on a part of the state that holds the network. -/
theorem Spends.zoom {part : σ → τ} {put : τ → σ → σ} {act : Act τ α}
    (h : Spends allowed act bytes sends) (hpart : ∀ s, network (part s) = network s)
    (hput : ∀ t s, network (put t s) = network t) :
    Spends allowed (act.zoom part put) bytes sends := by
  refine ⟨fun s within => ?_⟩
  have inner := h.pays (part s) ((hpart s).symm ▸ within)
  rw [hpart] at inner
  rw [outcome_zoom, hput]
  exact inner

/-- An action on the network, on a host. -/
theorem Spends.onHost {act : Act Network α} (h : Spends allowed act bytes sends) :
    Spends allowed (liftM act : Act Host α) bytes sends :=
  Spends.zoom h (fun _ => rfl) fun _ _ => rfl

/-- An action on the host, on something held. -/
theorem Spends.onHeld {ρ : Type} {act : Act Host α} (h : Spends allowed act bytes sends) :
    Spends allowed (liftM act : Act (Held ρ) α) bytes sends :=
  Spends.zoom h (fun _ => rfl) fun _ _ => rfl

/-- An action on a part of what is owned. -/
theorem Spends.onPart {ρ π : Type} {part : ρ → π} {put : π → ρ → ρ} {act : Act (Held π) α}
    (h : Spends allowed act bytes sends) :
    Spends allowed (Held.zoom part put act) bytes sends :=
  Spends.zoom h (fun _ => rfl) fun _ _ => rfl

end Act

open Act (Spends Frugal)

-- ════════════════════════════════════════════════════════════════════════
-- Calls
-- ════════════════════════════════════════════════════════════════════════

namespace Network

variable {c : ConnectionId}

/-- A call on a connection takes what its peer makes of it. -/
theorem call_spends {α : Type} {event : Option α → Event} {answer : Peer → Except Fault α × Peer}
    {bytes sends : α → Nat}
    (pays : ∀ {peer after : Peer} {r : Except Fault α}, answer peer = (r, after) →
      peer.Pays bytes sends r after) :
    Spends allowed (call c event answer) bytes sends := by
  refine ⟨fun net within => ?_⟩
  unfold Act.outcome call
  rcases answered : answer (net.peer c) with ⟨f | a, after⟩
  · have paid := pays answered
    refine ⟨(leaves_setPeer paid.1).record _, ?_⟩
    rintro _ ⟨⟩
    exact within.peer c _ paid.2
  · exact (leaves_setPeer (pays answered)).record _

theorem send_spends (data : Bytes) :
    Spends allowed (send c data) (fun _ => 0) fun count => if count < data.length then 1 else 0 :=
  call_spends Peer.pays_accept

theorem receive_spends (limit : Nat) :
    Spends allowed (receive c limit) List.length fun _ => 0 :=
  call_spends Peer.pays_deliver

theorem receiveInto_spends (limit : Nat) :
    Spends allowed (receiveInto c limit) List.length fun _ => 0 :=
  call_spends Peer.pays_deliver

theorem setBlocking_frugal : Frugal allowed (setBlocking c) :=
  call_spends (Peer.pays_comply fun _ => Peer.blockingFault_mem)

theorem connectSocket_frugal (name : SocketName) : Frugal allowed (connectSocket c name) :=
  call_spends (Peer.pays_comply fun _ => Peer.connectFault_mem)

theorem close_frugal : Frugal allowed (close c) :=
  call_spends (Peer.pays_comply fun _ => Peer.closeFault_mem)

theorem setTimeout_frugal (range : Timeout.Range) (timeout : Int) :
    Frugal allowed (setTimeout range c timeout) := by
  refine ⟨fun net _ => ?_⟩
  unfold Act.outcome setTimeout
  cases taken : range.refusal? timeout with
  | none => exact (Leaves.refl net).record _
  | some e =>
    refine ⟨(Leaves.refl net).record _, ?_⟩
    rcases Timeout.Range.refusal?_cases taken with rfl | rfl <;> nofun

theorem connect_frugal (address : Address) (timeout : Int) :
    Frugal allowed (connect address timeout) := by
  refine ⟨fun net within => ?_⟩
  unfold Act.outcome connect
  cases fault : net.nextPeer.connectFault with
  | none =>
    simp only [fault]
    exact (leaves_addConnection net).record _
  | some f =>
    simp only [fault]
    refine ⟨(leaves_dropPeer net).record _, ?_⟩
    rintro _ ⟨⟩
    exact within.nextPeer _ (Peer.connectFault_mem fault)

theorem openSocket_frugal : Frugal allowed openSocket := by
  refine ⟨fun net within => ?_⟩
  unfold Act.outcome openSocket
  cases fault : net.nextPeer.socketFault with
  | none =>
    simp only [fault]
    exact (leaves_addConnection net).record _
  | some f =>
    simp only [fault]
    refine ⟨(leaves_dropPeer net).record _, ?_⟩
    rintro _ ⟨⟩
    exact within.nextPeer _ (Peer.socketFault_mem fault)

end Network

-- ════════════════════════════════════════════════════════════════════════
-- Making connections
-- ════════════════════════════════════════════════════════════════════════

theorem Host.write_frugal (level : Log.Level) (source : Log.Source) (message : String) :
    Frugal allowed (Host.write level source message) :=
  Act.frugal_modify fun _ => rfl

theorem Held.write_frugal {σ : Type} (level : Log.Level) (source : Log.Source) (message : String) :
    Frugal allowed (liftM (Host.write level source message) : Act (Held σ) Unit) :=
  Spends.onHeld (Host.write_frugal _ _ _)

theorem Host.nextSessionId_frugal (source : IdSource) :
    Frugal allowed (Host.nextSessionId source) :=
  Act.spends_get_bind fun host =>
    (Act.frugal_modify fun host => by cases source <;> rfl).bind fun _ => Act.frugal_pure _

/-- Closing a connection and passing a failure on. -/
theorem close_throw_frugal {α : Type} {c : ConnectionId} {level : Log.Level} {source : Log.Source}
    {message : String} {final : Failure} (within : final.Within allowed) :
    Frugal allowed
      (do Host.write level source message; Network.close c; throw final : Act Host α) :=
  (Host.write_frugal _ _ _).bind fun _ => (Spends.onHost Network.close_frugal).bind fun _ =>
    Act.spends_throw within

theorem orGiveUp_frugal {c : ConnectionId} {step : String} {act : Act Host Unit}
    (h : Frugal allowed act) : Frugal allowed (orGiveUp c step act) :=
  h.rescue fun _ within => close_throw_frugal within

theorem Dialer.dialSocket_frugal (range : Timeout.Range) (address : Address) (timeout : Int) :
    Frugal allowed (dialSocket range address timeout) := by
  refine (Spends.rescue (Spends.onHost Network.openSocket_frugal) fun _ _ =>
    Act.spends_throw nofun).bind fun c => ?_
  have connects : Frugal allowed (do
      Network.setTimeout range c timeout
      Act.rescue (Network.connectSocket c address.socketName : Act Network Unit) fun cause => do
        Host.write .debug .dialer s!"Close {c.descriptor}"
        Network.close c
        throw (.cannotConnect address.target cause)
      pure c : Act Host ConnectionId) :=
    (Spends.onHost (Network.setTimeout_frugal range timeout)).bind fun _ =>
      (Spends.rescue (Spends.onHost (Network.connectSocket_frugal _)) fun _ _ =>
        close_throw_frugal nofun).bind fun _ => Act.frugal_pure c
  split
  · exact Act.spends_throw_bind nofun
  · exact connects

theorem Dialer.dial_frugal (dialer : Dialer) (address : Address) (timeout : Int) :
    Frugal allowed (dialer.dial address timeout) := by
  cases dialer with
  | direct => exact Spends.onHost (Network.connect_frugal address timeout)
  | socket range => exact dialSocket_frugal range address timeout

theorem reach_frugal (dialer : Dialer) (address : Address) (timeout : Int) :
    Frugal allowed (reach dialer address timeout) := by
  refine (dialer.dial_frugal address timeout).rescue fun e within => Act.spends_throw ?_
  split
  · exact within
  · nofun

theorem Wire.transmit_frugal (c : ConnectionId) (data : Bytes) :
    Frugal allowed (transmit c data) := by
  fun_induction transmit c data with
  | case1 => exact Act.frugal_pure ()
  | case2 b later ih =>
    refine (Network.send_spends (b :: later)).frugal.bind fun count => ?_
    cases count with
    | zero =>
      refine Act.spends_throw fun f same => ?_
      cases same
    | succ count => exact ih count

theorem Wire.receiveLine_frugal (c : ConnectionId) (limit : Int) (room : Nat) (line : Bytes) :
    Frugal allowed (receiveLine c limit room line) := by
  induction room generalizing line with
  | zero => exact Act.spends_throw (Failure.within_quoting nofun)
  | succ room ih =>
    refine (Network.receive_spends 1).frugal.bind fun bs => ?_
    cases bs with
    | nil => exact Act.spends_throw nofun
    | cons b _ =>
      dsimp only
      split
      · exact Act.frugal_pure line
      · exact ih _

theorem Wire.receiveReply_frugal (c : ConnectionId) (limit : Int) :
    Frugal allowed (receiveReply c limit) :=
  (receiveLine_frugal c limit _ _).bind fun _ => Act.frugal_pure _

theorem Command.requireWritable_within (command : Command) :
    ∀ e, command.requireWritable = .error e → e.Within allowed := by
  unfold Command.requireWritable
  split
  · nofun
  · rintro e ⟨⟩
    nofun

theorem Session.handOn_frugal (command : Command) (message : String) :
    Frugal allowed (do
      Act.ofExcept command.requireWritable
      Host.write .info .joining message
      pure command : Act (Held Session) Command) :=
  (Act.frugal_ofExcept command.requireWritable_within).bind fun _ =>
    (Held.write_frugal _ _ _).bind fun _ => Act.frugal_pure command

theorem Session.introduction_frugal (source : IdSource) :
    Frugal allowed (introduction source) := by
  refine Act.spends_get_bind fun held => ?_
  dsimp only
  split
  · next id _ => exact handOn_frugal (.runSession id) _
  · refine (Spends.onHeld (Host.nextSessionId_frugal source)).bind fun id => ?_
    refine Frugal.bind (Act.frugal_modify fun _ => rfl) fun _ => ?_
    exact handOn_frugal (.newSession held.own.direction id) _

theorem Session.join_frugal (route : Route) (address : Address) (timeout : Int) :
    Frugal allowed (join route address timeout) :=
  (Held.write_frugal _ _ _).bind fun _ =>
    (Spends.onHeld (reach_frugal _ _ _)).bind fun c =>
    (Spends.onHeld (orGiveUp_frugal (Spends.onHost Network.setBlocking_frugal))).bind fun _ =>
    (introduction_frugal _).bind fun _ =>
    (Spends.onHeld (orGiveUp_frugal (Spends.onHost (Wire.transmit_frugal _ _)))).bind fun _ =>
    (Held.write_frugal _ _ _).bind fun _ => Act.frugal_pure c

-- ════════════════════════════════════════════════════════════════════════
-- Open streams
-- ════════════════════════════════════════════════════════════════════════

namespace Link

theorem note_frugal (level : Log.Level) (message : String) : Frugal allowed (note level message) :=
  Held.write_frugal _ _ _

theorem update_frugal (f : Link → Link) : Frugal allowed (update f) :=
  Act.frugal_modify fun _ => rfl

theorem requireUsable_frugal : Frugal allowed requireUsable := by
  refine Act.spends_get_bind fun held => ?_
  split
  · exact Act.frugal_pure ()
  · exact Act.spends_throw nofun

theorem requireDirection_frugal (wanted : Direction) (complaint : String) :
    Frugal allowed (requireDirection wanted complaint) := by
  refine Act.spends_get_bind fun held => ?_
  dsimp only
  split
  · exact (note_frugal _ _).bind fun _ => Act.spends_throw nofun
  · exact Act.frugal_pure ()

theorem fallOutOfStep_frugal {α : Type} {cause : Failure} (within : cause.Within allowed) :
    Frugal allowed (fallOutOfStep cause : Act (Held Link) α) :=
  Act.spends_get_bind fun _ => (note_frugal _ _).bind fun _ => (update_frugal _).bind fun _ =>
    Act.spends_throw within

theorem say_frugal (command : Command) : Frugal allowed (say command) :=
  Act.spends_get_bind fun _ => Spends.onHeld (Spends.onHost (Wire.transmit_frugal _ _))

theorem hear_frugal : Frugal allowed hear := by
  refine Act.spends_get_bind fun held =>
    (Spends.onHeld (Spends.onHost (Wire.receiveReply_frugal _ _))).tryCatch fun e within => ?_
  split
  · exact fallOutOfStep_frugal nofun
  · exact Act.spends_throw within

theorem announce_frugal : Frugal allowed announce := by
  refine Act.spends_get_bind fun held => (Act.frugal_ofExcept (Command.requireWritable_within
      (.transfer held.own.session.direction held.own.position))).bind fun _ =>
    (note_frugal _ _).bind fun _ => (say_frugal _).bind fun _ => hear_frugal.bind fun reply => ?_
  split
  · exact Act.frugal_pure ()
  · next refusal refused =>
    have within : refusal.Within allowed := by
      unfold Reply.requireAdmission at refused
      split at refused
      · cases refused
      · cases refused
        nofun
    exact (note_frugal _ _).bind fun _ => fallOutOfStep_frugal within

theorem newConnection_frugal : Frugal allowed newConnection :=
  Act.spends_get_bind fun _ => Spends.onPart (Session.join_frugal _ _ _)

theorem dataConnection_frugal : Frugal allowed dataConnection := by
  refine Act.spends_get_bind fun held => ?_
  split
  · exact Act.frugal_pure _
  · exact announce_frugal.bind fun _ => newConnection_frugal.bind fun c =>
      (update_frugal _).bind fun _ => Act.frugal_pure c

/-- What is received is taken from what the peers had to deliver. -/
theorem receive_spends (limit : Nat) :
    Spends allowed (receive limit) (fun chunk => chunk.val.length) fun _ => 0 := by
  refine requireUsable_frugal.bind fun _ => (requireDirection_frugal _ _).bind fun _ =>
    dataConnection_frugal.bind fun c =>
    (Spends.onHeld (Spends.onHost (Network.receiveInto_spends limit))).bind fun bytes => ?_
  split
  · exact (update_frugal _).bind fun _ => Act.spends_pure (Nat.sub_self _) rfl
  · exact Act.spends_get_bind fun _ => Act.spends_throw (Failure.within_quoting nofun)

theorem read_spends (wanted : Nat) :
    Spends allowed (read wanted) List.length fun _ => 0 := by
  unfold read
  split
  · exact requireUsable_frugal.bind fun _ => Act.spends_pure rfl rfl
  · refine (Spends.map (receive_spends wanted)).tryCatch fun e within => ?_
    split
    · exact Act.spends_pure rfl rfl
    · exact Act.spends_throw within

/-- Every write that is accepted in part takes an outcome that was laid down for a send. -/
theorem write_spends (data : Bytes) :
    Spends allowed (write data) (fun _ => 0)
      fun count => if count < data.length then 1 else 0 := by
  refine requireUsable_frugal.bind fun _ => (requireDirection_frugal _ _).bind fun _ =>
    dataConnection_frugal.bind fun c =>
    (Spends.onHeld (Spends.onHost (Network.send_spends data))).bind fun count =>
    (update_frugal _).bind fun _ => Act.spends_pure rfl (Nat.sub_self _)

theorem stat_frugal : Frugal allowed stat := by
  refine requireUsable_frugal.bind fun _ => (note_frugal _ _).bind fun _ =>
    (say_frugal _).bind fun _ => (note_frugal _ _).bind fun _ => hear_frugal.bind fun reply =>
    (note_frugal _ _).bind fun _ => Act.frugal_ofExcept fun e refused => ?_
  unfold Reply.size at refused
  split at refused
  · cases refused
    nofun
  · split at refused <;> cases refused
    nofun

theorem releaseData_frugal : Frugal allowed releaseData := by
  refine Act.spends_get_bind fun held => ?_
  split
  · exact Act.frugal_pure ()
  · exact (update_frugal _).bind fun _ => (note_frugal _ _).bind fun _ =>
      Spends.onHeld (Spends.onHost Network.close_frugal)

theorem moveTo_frugal (target : Int) : Frugal allowed (moveTo target) := by
  unfold moveTo
  split
  · exact Act.spends_throw_bind (Failure.within_quoting nofun)
  · refine Act.spends_get_bind fun held => ?_
    have arrive : Frugal allowed (do
        update fun link => { link with position := target.toNat }
        pure target.toNat) :=
      (update_frugal _).bind fun _ => Act.frugal_pure _
    split
    · exact releaseData_frugal.bind fun _ => arrive
    · exact arrive

theorem seek_frugal (offset code : Int) : Frugal allowed (seek offset code) := by
  refine requireUsable_frugal.bind fun _ => Act.spends_get_bind fun held => ?_
  dsimp only
  split
  · exact (note_frugal _ _).bind fun _ => Act.spends_throw (Failure.within_quoting nofun)
  · exact stat_frugal
  · exact (note_frugal _ _).bind fun _ => Spends.map (moveTo_frugal _)
  · exact (note_frugal _ _).bind fun _ => Spends.map (moveTo_frugal _)
  · refine stat_frugal.bind fun size => (note_frugal _ _).bind fun _ => ?_
    split
    · exact Act.spends_throw_bind nofun
    · exact Spends.map (moveTo_frugal _)

theorem release_frugal (link : Link) : Frugal allowed link.release := by
  have last : Frugal allowed (do
      Host.write .debug .stream s!"Close {link.control.descriptor}"
      Network.close link.control : Act Host Unit) :=
    (Host.write_frugal _ _ _).bind fun _ => Spends.onHost Network.close_frugal
  unfold release
  split
  · exact (Host.write_frugal _ _ _).bind fun _ =>
      (Spends.rescue (Spends.onHost Network.close_frugal) fun _ _ =>
        Host.write_frugal _ _ _).bind fun _ => last
  · exact last

end Link

-- ════════════════════════════════════════════════════════════════════════
-- Streams
-- ════════════════════════════════════════════════════════════════════════

theorem locate_frugal (target : Word) : Frugal allowed (locate target) := by
  refine (Act.frugal_ofExcept fun e refused => ?_).bind fun address =>
    (Host.write_frugal _ _ _).bind fun _ => ?_
  · rcases Word.address_cases refused with rfl | ⟨_, _, _, rfl⟩ <;> nofun
  · split
    · exact (Host.write_frugal _ _ _).bind fun _ => Act.frugal_pure _
    · exact Act.frugal_pure _

namespace ByteStream

theorem establish_frugal (settings : Settings) : Frugal allowed (establish settings) :=
  (Spends.onHeld (locate_frugal _)).bind fun _ => (Session.join_frugal _ _ _).bind fun _ =>
    Act.spends_get_bind fun _ => Act.frugal_pure _

theorem connect_frugal : Frugal allowed connect := by
  refine ⟨fun ⟨stream, host⟩ within => ?_⟩
  cases stream with
  | unopened settings session =>
    have established := (establish_frugal settings).pays ⟨session, host⟩ within
    rw [outcome_connect_unopened]
    generalize Act.outcome (establish settings) ⟨session, host⟩ = o at established ⊢
    obtain ⟨e | link, after⟩ := o <;> exact established
  | opened => exact ⟨.refl _, nofun⟩
  | closed => exact ⟨.refl _, nofun⟩

theorem close_frugal : Frugal allowed close := by
  refine ⟨fun ⟨stream, host⟩ within => ?_⟩
  cases stream with
  | opened link =>
    rw [outcome_close_opened]
    exact link.release_frugal.pays host within
  | unopened => exact Network.Leaves.refl _
  | closed => exact Network.Leaves.refl _

theorem whileOpen_spends {α : Type} {act : Act (Held Link) α} {bytes sends : α → Nat}
    (h : Spends allowed act bytes sends) : Spends allowed (whileOpen act) bytes sends := by
  refine ⟨fun ⟨stream, host⟩ within => ?_⟩
  cases stream with
  | opened link =>
    rw [outcome_whileOpen_opened]
    exact h.pays ⟨link, host⟩ within
  | unopened => exact ⟨.refl _, nofun⟩
  | closed => exact ⟨.refl _, nofun⟩

theorem reserve_frugal (size : Nat) : Frugal allowed (reserve size) := by
  refine Act.spends_get_bind fun held => Act.frugal_ofExcept fun e refused => ?_
  unfold Buffer.reserve at refused
  split at refused
  · cases refused
    nofun
  · split at refused <;> cases refused
    nofun

theorem read_spends (size : Option Int) :
    Spends allowed (read size) List.length fun _ => 0 :=
  (reserve_frugal _).bind fun _ => whileOpen_spends (Link.read_spends _)

theorem write_spends (data : Bytes) :
    Spends allowed (write data) (fun _ => 0)
      fun count => if count < data.length then 1 else 0 :=
  whileOpen_spends (Link.write_spends data)

theorem seek_frugal (offset code : Int) : Frugal allowed (seek offset code) :=
  whileOpen_spends (Link.seek_frugal offset code)

/-- No operation fails with a fault that no peer had. -/
theorem perform_frugal (operation : Operation) : Frugal allowed (perform operation) := by
  have answering {α : Type} {act : Act (Held ByteStream) α} (h : Frugal allowed act)
      (f : α → Answer) : Frugal allowed (do pure (f (← act))) :=
    h.bind fun _ => Act.frugal_pure _
  cases operation with
  | connect => exact answering connect_frugal fun _ => .done
  | read size => exact answering (read_spends size).frugal .bytes
  | receive limit =>
    exact answering (whileOpen_spends (Link.receive_spends limit)).frugal fun chunk =>
      .bytes chunk.val
  | write data => exact answering (write_spends data).frugal fun count => .number count
  | seek offset code => exact answering (seek_frugal offset code) .number
  | stat => exact answering (whileOpen_spends Link.stat_frugal) .number
  | position => exact Act.spends_get_bind fun _ => Act.frugal_pure _
  | descriptor =>
    have named : Frugal allowed descriptor :=
      whileOpen_spends (Act.spends_get_bind fun held => Act.frugal_pure held.own.control.descriptor)
    exact answering named fun n => .number n
  | inspect => exact Act.spends_get_bind fun _ => Act.frugal_pure _
  | close => exact answering close_frugal fun _ => .done

end ByteStream

end SessionStream
