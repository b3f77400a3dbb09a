import SessionStream.Proofs.Conversation
import SessionStream.Proofs.Simulation

/-!
# The same action on two networks

An action is run twice, on networks whose peers are not the same but have enough in common for the
action to end alike. This file says what two such runs have in common, and gives the rules by which
that follows for an action from its parts.

## Main definitions

- `Act.Parallels` — two runs that end with the same result, and the states they leave behind
- `Act.Maintains` — an action after which two runs go on being alike
- `SameBytes` — records that tell of the same bytes on every connection
- `Network.Alike`, `Host.Alike` — networks and hosts of two runs
- `TakesLine` — outcomes of sends that take a whole line

## Main results

- `Network.Alike.call` — a call that is answered in the same way by both peers
- `Wire.transmit_parallels` — a line that both peers take, each in its own number of sends
- `reach_parallels` — a connection to an address

## Design notes

What the peers of a connection have in common is a parameter of `Network.Alike`, one relation for
each connection. A call that both peers answer alike keeps it. The sends of a line are not answered
alike, and the two runs make different numbers of them; what they have in common afterwards is
stated anew by `Wire.transmit_parallels`.
-/

namespace SessionStream

-- ════════════════════════════════════════════════════════════════════════
-- Actions
-- ════════════════════════════════════════════════════════════════════════

namespace Act

variable {σ τ α β : Type}

/-- Started in `s` and `s'`, the two actions end with the same result and leave states behind that
together with it are as `post` says. -/
def Parallels (act act' : Act σ α) (s s' : σ) (post : Except Failure α → σ → σ → Prop) : Prop :=
  ∃ r t t', outcome act s = (r, t) ∧ outcome act' s' = (r, t') ∧ post r t t'

variable {act act' : Act σ α} {f f' : α → Act σ β} {s s' : σ}

/-- **Consequence rule**: weaken the post-condition. -/
theorem Parallels.mono {post post' : Except Failure α → σ → σ → Prop}
    (h : Parallels act act' s s' post) (hpost : ∀ r t t', post r t t' → post' r t t') :
    Parallels act act' s s' post' := by
  obtain ⟨r, t, t', ended, ended', h⟩ := h
  exact ⟨r, t, t', ended, ended', hpost r t t' h⟩

/-- Two runs whose ends are known. -/
theorem parallels_of_outcome (act act' : Act σ α) {r : Except Failure α} {t t' : σ}
    (ended : outcome act s = (r, t)) (ended' : outcome act' s' = (r, t'))
    {post : Except Failure α → σ → σ → Prop} : Parallels act act' s s' post ↔ post r t t' := by
  constructor
  · rintro ⟨r₁, t₁, t₁', h, h', hpost⟩
    rw [ended, Prod.mk.injEq] at h
    rw [ended', Prod.mk.injEq] at h'
    obtain ⟨rfl, rfl⟩ := h
    obtain ⟨-, rfl⟩ := h'
    exact hpost
  · exact fun hpost => ⟨r, t, t', ended, ended', hpost⟩

@[simp] theorem parallels_pure {a : α} {post : Except Failure α → σ → σ → Prop} :
    Parallels (pure a) (pure a) s s' post ↔ post (.ok a) s s' :=
  parallels_of_outcome (pure a) (pure a) rfl rfl

@[simp] theorem parallels_throw {e : Failure} {post : Except Failure α → σ → σ → Prop} :
    Parallels (throw e) (throw e) s s' post ↔ post (.error e) s s' :=
  parallels_of_outcome (throw e) (throw e) rfl rfl

@[simp] theorem parallels_ofExcept {r : Except Failure α} {post : Except Failure α → σ → σ → Prop} :
    Parallels (ofExcept r) (ofExcept r) s s' post ↔ post r s s' := by
  cases r with
  | ok a => exact parallels_pure
  | error e => exact parallels_throw

@[simp] theorem parallels_throw_bind {e : Failure} {post : Except Failure β → σ → σ → Prop} :
    Parallels (throw e >>= f) (throw e >>= f') s s' post ↔ post (.error e) s s' :=
  parallels_of_outcome (throw e >>= f) (throw e >>= f') rfl rfl

theorem parallels_get_bind {g g' : σ → Act σ β} {post : Except Failure β → σ → σ → Prop} :
    Parallels (get >>= g) (get >>= g') s s' post ↔ Parallels (g s) (g' s') s s' post :=
  Iff.rfl

theorem parallels_modify_bind {g g' : σ → σ} {f f' : PUnit → Act σ β}
    {post : Except Failure β → σ → σ → Prop} :
    Parallels (modify g >>= f) (modify g' >>= f') s s' post ↔
      Parallels (f ()) (f' ()) (g s) (g' s') post :=
  Iff.rfl

/-- **Sequencing**. -/
theorem Parallels.bind {post : Except Failure β → σ → σ → Prop}
    (h : Parallels act act' s s' fun r t t' => match r with
      | .ok a => Parallels (f a) (f' a) t t' post
      | .error e => post (.error e) t t') :
    Parallels (act >>= f) (act' >>= f') s s' post := by
  obtain ⟨r, t, t', ended, ended', h⟩ := h
  unfold Parallels
  rw [outcome_bind, outcome_bind, ended, ended']
  cases r with
  | ok a => exact h
  | error e => exact ⟨_, _, _, rfl, rfl, h⟩

/-- Actions whose value is changed afterwards. -/
theorem Parallels.map {g : α → β} {post : Except Failure β → σ → σ → Prop}
    (h : Parallels act act' s s' fun r t t' => post (g <$> r) t t') :
    Parallels (g <$> act) (g <$> act') s s' post := by
  rw [map_eq_pure_bind, map_eq_pure_bind]
  refine Parallels.bind (h.mono fun r t t' h => ?_)
  cases r with
  | ok a => exact parallels_pure.2 h
  | error e => exact h

/-- Actions with an answer to every failure. -/
theorem Parallels.tryCatch {answer answer' : Failure → Act σ α}
    {post : Except Failure α → σ → σ → Prop}
    (h : Parallels act act' s s' fun r t t' => match r with
      | .ok a => post (.ok a) t t'
      | .error e => Parallels (answer e) (answer' e) t t' post) :
    Parallels (tryCatch act answer) (tryCatch act' answer') s s' post := by
  obtain ⟨r, t, t', ended, ended', h⟩ := h
  unfold Parallels
  rw [outcome_tryCatch, outcome_tryCatch, ended, ended']
  cases r with
  | ok a => exact ⟨_, _, _, rfl, rfl, h⟩
  | error e => exact h

/-- Actions with an answer to system failures. -/
theorem Parallels.rescue {answer answer' : Failure → Act σ α}
    {post : Except Failure α → σ → σ → Prop}
    (h : Parallels act act' s s' fun r t t' => match r with
      | .ok a => post (.ok a) t t'
      | .error e => if e.isSystem then Parallels (answer e) (answer' e) t t' post
          else post (.error e) t t') :
    Parallels (act.rescue answer) (act'.rescue answer') s s' post := by
  obtain ⟨r, t, t', ended, ended', h⟩ := h
  unfold Parallels
  rw [outcome_rescue, outcome_rescue, ended, ended']
  cases r with
  | ok a => exact ⟨_, _, _, rfl, rfl, h⟩
  | error e =>
    by_cases system : e.isSystem = true
    · simp only [system, if_true] at h ⊢
      exact h
    · simp only [system] at h ⊢
      exact ⟨_, _, _, rfl, rfl, h⟩

/-- Actions on a part of the state. -/
theorem Parallels.zoom {part part' : σ → τ} {put put' : τ → σ → σ} {act act' : Act τ α}
    {post : Except Failure α → σ → σ → Prop}
    (h : Parallels act act' (part s) (part' s') fun r t t' => post r (put t s) (put' t' s')) :
    Parallels (act.zoom part put) (act'.zoom part' put') s s' post := by
  obtain ⟨r, t, t', ended, ended', h⟩ := h
  unfold Parallels
  rw [outcome_zoom, outcome_zoom, ended, ended']
  exact ⟨_, _, _, rfl, rfl, h⟩

/-- Actions on the network, on a host. -/
theorem Parallels.onHost {act act' : Act Network α} {host host' : Host}
    {post : Except Failure α → Host → Host → Prop}
    (h : Parallels act act' host.network host'.network fun r net net' =>
      post r { host with network := net } { host' with network := net' }) :
    Parallels (liftM act : Act Host α) (liftM act' : Act Host α) host host' post :=
  Parallels.zoom h

/-- Actions on the host, on something held. -/
theorem Parallels.onHeld {act act' : Act Host α} {held held' : Held σ}
    {post : Except Failure α → Held σ → Held σ → Prop}
    (h : Parallels act act' held.host held'.host fun r host host' =>
      post r { held with host := host } { held' with host := host' }) :
    Parallels (liftM act : Act (Held σ) α) (liftM act' : Act (Held σ) α) held held' post :=
  Parallels.zoom h

/-- Actions on a part of what is owned. -/
theorem Parallels.onPart {part : σ → τ} {put : τ → σ → σ} {act act' : Act (Held τ) α}
    {held held' : Held σ} {post : Except Failure α → Held σ → Held σ → Prop}
    (h : Parallels act act' ⟨part held.own, held.host⟩ ⟨part held'.own, held'.host⟩
      fun r inner inner' => post r ⟨put inner.own held.own, inner.host⟩
        ⟨put inner'.own held'.own, inner'.host⟩) :
    Parallels (Held.zoom part put act) (Held.zoom part put act') held held' post :=
  Parallels.zoom h

/-- What the first run does whatever the network answers, it does here. -/
theorem Parallels.does [HasNetwork σ] {post : Except Failure α → σ → σ → Prop}
    {does : Except Failure α → List Event → σ → Prop} (h : Parallels act act' s s' post)
    (h' : Does act s does) :
    Parallels act act' s s' fun r t t' => post r t t' ∧ ∃ es, does r es t := by
  obtain ⟨r, t, t', ended, ended', h⟩ := h
  obtain ⟨es, -, h'⟩ := h'
  rw [ended] at h'
  exact ⟨r, t, t', ended, ended', h, es, h'⟩

/-- Started in states that go together, two runs of the action end with the same result and leave
such states behind. -/
def Maintains (alike : σ → σ → Prop) (act : Act σ α) : Prop :=
  ∀ s s', alike s s' → Parallels act act s s' fun _ t t' => alike t t'

section Maintains

variable {alike : σ → σ → Prop}

theorem maintains_pure (a : α) : Maintains alike (pure a : Act σ α) :=
  fun _ _ h => parallels_pure.2 h

theorem maintains_throw (e : Failure) : Maintains alike (throw e : Act σ α) :=
  fun _ _ h => parallels_throw.2 h

theorem maintains_ofExcept (r : Except Failure α) : Maintains alike (ofExcept r : Act σ α) :=
  fun _ _ h => parallels_ofExcept.2 h

/-- An action that is chosen by looking at the state. -/
theorem maintains_get_bind {g : σ → Act σ α}
    (next : ∀ s s', alike s s' → Parallels (g s) (g s') s s' fun _ t t' => alike t t') :
    Maintains alike (get >>= g) :=
  next

theorem Maintains.bind (h : Maintains alike act) (next : ∀ a, Maintains alike (f a)) :
    Maintains alike (act >>= f) := by
  refine fun s s' together => Parallels.bind ((h s s' together).mono ?_)
  rintro (e | a) t t' together
  · exact together
  · exact next a t t' together

theorem Maintains.map (h : Maintains alike act) (g : α → β) : Maintains alike (g <$> act) :=
  fun s s' together => Parallels.map (h s s' together)

theorem Maintains.tryCatch {answer : Failure → Act σ α} (h : Maintains alike act)
    (next : ∀ e, Maintains alike (answer e)) : Maintains alike (tryCatch act answer) := by
  refine fun s s' together => Parallels.tryCatch ((h s s' together).mono ?_)
  rintro (e | a) t t' together
  · exact next e t t' together
  · exact together

end Maintains

end Act

open Act (Parallels)

-- ════════════════════════════════════════════════════════════════════════
-- Networks and hosts of two runs
-- ════════════════════════════════════════════════════════════════════════

variable {c : ConnectionId}

/-- Two records tell of the same bytes on every connection, if not of the same calls. -/
structure SameBytes (es es' : List Event) : Prop where
  accepted_eq (c : ConnectionId) : accepted c es' = accepted c es
  received_eq (c : ConnectionId) : received c es' = received c es
  delivered_eq (c : ConnectionId) : delivered c es' = delivered c es

theorem SameBytes.refl (es : List Event) : SameBytes es es :=
  ⟨fun _ => rfl, fun _ => rfl, fun _ => rfl⟩

theorem SameBytes.append {es es' fs fs' : List Event} (h : SameBytes es es')
    (h' : SameBytes fs fs') : SameBytes (es ++ fs) (es' ++ fs') where
  accepted_eq c := by rw [accepted_append, accepted_append, h.accepted_eq, h'.accepted_eq]
  received_eq c := by rw [received_append, received_append, h.received_eq, h'.received_eq]
  delivered_eq c := by rw [delivered_append, delivered_append, h.delivered_eq, h'.delivered_eq]

/-- Relations between the peers that a connection has in two runs. -/
abbrev Common := ConnectionId → Peer → Peer → Prop

/-- The same relations, but for one connection. -/
def Common.but (on : Common) (c : ConnectionId) (common : Peer → Peer → Prop) : Common :=
  fun k peer peer' => if k = c then common peer peer' else on k peer peer'

/-- The same relations, but for one connection, whose peers are known. -/
def Common.exactly (on : Common) (c : ConnectionId) (peer peer' : Peer) : Common :=
  on.but c fun p p' => p = peer ∧ p' = peer'

/-- The same relations, but nothing is asked of one connection. -/
def Common.except (on : Common) (c : ConnectionId) : Common :=
  on.but c fun _ _ => True

theorem Common.except_of_exactly {on : Common} {k : ConnectionId} {peer peer' p p' : Peer}
    (h : on.exactly c peer peer' k p p') : on.except c k p p' := by
  unfold Common.exactly Common.but at h
  unfold Common.except Common.but
  split
  · trivial
  · next other => rwa [if_neg other] at h

theorem Common.exactly_exactly (on : Common) (c : ConnectionId) (p p' peer peer' : Peer) :
    (on.exactly c p p').exactly c peer peer' = on.exactly c peer peer' := by
  funext k
  unfold Common.exactly Common.but
  by_cases same : k = c
  · simp only [same, if_true]
  · simp only [same, if_false]

theorem Common.except_of {on : Common} {k : ConnectionId} {p p' : Peer} (h : on k p p') :
    on.except c k p p' := by
  unfold Common.except Common.but
  split
  · trivial
  · exact h

namespace Network

variable {net net' : Network}

/-- The network after calls on a connection. -/
def called (c : ConnectionId) (peer : Peer) (es : List Event) (net : Network) : Network where
  waiting := net.waiting
  connections := net.connections.set c.index peer
  trace := net.trace ++ es

theorem called_self (net : Network) (c : ConnectionId) (es : List Event) :
    net.called c (net.peer c) es = { net with trace := net.trace ++ es } := by
  obtain ⟨waiting, connections, trace⟩ := net
  have same : connections.set c.index (connections.getD c.index {}) = connections := by
    by_cases made : c.index < connections.length
    · rw [List.getD_eq_getElem?_getD, List.getElem?_eq_getElem made, Option.getD_some,
        List.set_getElem_self]
    · exact List.set_eq_of_length_le (Nat.le_of_not_lt made)
  simp only [called, Network.peer, same]

theorem called_called (net : Network) (c : ConnectionId) (peer peer' : Peer) (es fs : List Event) :
    (net.called c peer es).called c peer' fs = net.called c peer' (es ++ fs) := by
  simp only [called, List.set_set, List.append_assoc]

theorem peer_called (net : Network) (c k : ConnectionId) (peer : Peer) (es : List Event) :
    (net.called c peer es).peer k =
      if k = c ∧ c.index < net.connections.length then peer else net.peer k := by
  obtain ⟨i⟩ := c
  obtain ⟨j⟩ := k
  unfold Network.peer called
  rw [List.getD_eq_getElem?_getD, List.getD_eq_getElem?_getD, List.getElem?_set]
  by_cases same : i = j
  · subst same
    by_cases made : i < net.connections.length <;> simp [made]
  · have other : j ≠ i := fun h => same h.symm
    simp [same, other]

/-- What is no connection looks like a peer with nothing to come. -/
theorem peer_of_not_made {net : Network} {c : ConnectionId}
    (h : ¬c.index < net.connections.length) : net.peer c = {} := by
  rw [peer, List.getD_eq_getElem?_getD, List.getElem?_eq_none (Nat.le_of_not_lt h)]
  rfl

theorem peer_addConnection (net : Network) (k : ConnectionId) (peer : Peer) :
    (net.addConnection peer).peer k = if k = net.nextId then peer else net.peer k := by
  obtain ⟨j⟩ := k
  unfold Network.peer addConnection nextId
  rw [List.getD_eq_getElem?_getD, List.getD_eq_getElem?_getD]
  rcases Nat.lt_trichotomy j net.connections.length with old | rfl | beyond
  · rw [List.getElem?_append_left old]
    simp [Nat.ne_of_lt old]
  · simp
  · rw [List.getElem?_eq_none (List.length_append ▸ beyond),
      List.getElem?_eq_none (Nat.le_of_lt beyond)]
    simp [Nat.ne_of_gt beyond]

/-- The networks of two runs. Connections have the same numbers, the peers of each have something in
common, and nothing is asked of connections that have yet to be made; which peers wait is known. -/
structure Alike (on : Common) (waiting waiting' : List Peer) (net net' : Network) : Prop where
  waiting_eq : net.waiting = waiting
  waiting_eq' : net'.waiting = waiting'
  length_eq : net'.connections.length = net.connections.length
  peers (c : ConnectionId) : on c (net.peer c) (net'.peer c)
  fresh (c : ConnectionId) (new : net.connections.length ≤ c.index) (peer peer' : Peer) :
    on c peer peer'
  bytes : SameBytes net.trace net'.trace

namespace Alike

variable {on on' : Common} {waiting waiting' : List Peer}

theorem mono (h : Alike on waiting waiting' net net')
    (less : ∀ c peer peer', on c peer peer' → on' c peer peer') :
    Alike on' waiting waiting' net net' :=
  { h with
    peers := fun c => less c _ _ (h.peers c)
    fresh := fun c new peer peer' => less c _ _ (h.fresh c new peer peer') }

theorem except (h : Alike on waiting waiting' net net') (c : ConnectionId) :
    Alike (on.except c) waiting waiting' net net' :=
  h.mono fun _ _ _ => Common.except_of

theorem nextId_eq (h : Alike on waiting waiting' net net') : net'.nextId = net.nextId :=
  congrArg ConnectionId.mk h.length_eq

theorem nextPeer_eq (h : Alike on waiting waiting' net net') :
    net.nextPeer = waiting.headD {} ∧ net'.nextPeer = waiting'.headD {} := by
  unfold nextPeer
  rw [h.waiting_eq, h.waiting_eq']
  exact ⟨rfl, rfl⟩

/-- A connection of which something is asked has been made. -/
theorem made (h : Alike on waiting waiting' net net') (peer peer' : Peer)
    (asks : ¬on c peer peer') : c.index < net.connections.length :=
  Nat.lt_of_not_le fun new => asks (h.fresh c new peer peer')

theorem peers_exactly {peer peer' : Peer}
    (h : Alike (on.exactly c peer peer') waiting waiting' net net') :
    net.peer c = peer ∧ net'.peer c = peer' := by
  have here := h.peers c
  unfold Common.exactly Common.but at here
  rwa [if_pos rfl] at here

theorem made_exactly {peer peer' : Peer}
    (h : Alike (on.exactly c peer peer') waiting waiting' net net') :
    c.index < net.connections.length := by
  refine h.made { peer with acceptances := .upTo 0 :: peer.acceptances } peer' fun same => ?_
  unfold Common.exactly Common.but at same
  rw [if_pos rfl] at same
  exact absurd (congrArg Peer.acceptances same.1) (List.cons_ne_self _ _)

/-- The same event is recorded in both runs. -/
theorem record (h : Alike on waiting waiting' net net') (e : Event) :
    Alike on waiting waiting' (net.record e) (net'.record e) :=
  { h with bytes := h.bytes.append (.refl _) }

/-- A connection goes on with new peers after calls on it. -/
theorem called (h : Alike on waiting waiting' net net') {c : ConnectionId} {peer peer' : Peer}
    (common : on c peer peer') {es es' : List Event} (bytes : SameBytes es es') :
    Alike on waiting waiting' (net.called c peer es) (net'.called c peer' es') where
  waiting_eq := h.waiting_eq
  waiting_eq' := h.waiting_eq'
  length_eq := List.length_set.trans (h.length_eq.trans List.length_set.symm)
  peers k := by
    rw [peer_called, peer_called, h.length_eq]
    split
    · next here => rwa [here.1]
    · exact h.peers k
  fresh k new := h.fresh k (List.length_set ▸ new)
  bytes := h.bytes.append bytes

/-- A connection that has been made goes on with peers that have something else in common. -/
theorem called_but (h : Alike on waiting waiting' net net') {c : ConnectionId}
    (made : c.index < net.connections.length) {common : Peer → Peer → Prop} {peer peer' : Peer}
    (here : common peer peer') {es es' : List Event} (bytes : SameBytes es es') :
    Alike (on.but c common) waiting waiting' (net.called c peer es) (net'.called c peer' es') where
  waiting_eq := h.waiting_eq
  waiting_eq' := h.waiting_eq'
  length_eq := List.length_set.trans (h.length_eq.trans List.length_set.symm)
  peers k := by
    rw [peer_called, peer_called, h.length_eq]
    unfold Common.but
    by_cases same : k = c
    · simp only [same, made, and_self, if_true]
      exact here
    · simp only [same, false_and, if_false]
      exact h.peers k
  fresh k new peer peer' := by
    have old : net.connections.length ≤ k.index := List.length_set ▸ new
    have other : k ≠ c := by
      rintro rfl
      omega
    unfold Common.but
    rw [if_neg other]
    exact h.fresh k old peer peer'
  bytes := h.bytes.append bytes

/-- The next peers are taken, and no connection is made. -/
theorem dropPeer (h : Alike on waiting waiting' net net') (e : Event) :
    Alike on waiting.tail waiting'.tail (net.dropPeer.record e) (net'.dropPeer.record e) where
  waiting_eq := congrArg List.tail h.waiting_eq
  waiting_eq' := congrArg List.tail h.waiting_eq'
  length_eq := h.length_eq
  peers := h.peers
  fresh := h.fresh
  bytes := h.bytes.append (.refl _)

/-- The next peers are taken for a new connection. -/
theorem addConnection (h : Alike on waiting waiting' net net') (e : Event) :
    Alike (on.exactly net.nextId (waiting.headD {}) (waiting'.headD {}))
      waiting.tail waiting'.tail ((net.dropPeer.addConnection net.nextPeer).record e)
      ((net'.dropPeer.addConnection net'.nextPeer).record e) where
  waiting_eq := congrArg List.tail h.waiting_eq
  waiting_eq' := congrArg List.tail h.waiting_eq'
  length_eq := by
    simp only [Network.record, Network.addConnection, Network.dropPeer, List.length_append,
      h.length_eq, List.length_singleton]
  peers k := by
    change on.exactly _ _ _ k ((net.dropPeer.addConnection net.nextPeer).peer k)
      ((net'.dropPeer.addConnection net'.nextPeer).peer k)
    rw [peer_addConnection, peer_addConnection, show net.dropPeer.nextId = net.nextId from rfl,
      show net'.dropPeer.nextId = net.nextId from h.nextId_eq]
    unfold Common.exactly Common.but
    split
    · exact h.nextPeer_eq
    · exact h.peers k
  fresh k new peer peer' := by
    have beyond : net.connections.length + 1 ≤ k.index := by
      simpa [Network.record, Network.addConnection, Network.dropPeer] using new
    have other : k ≠ net.nextId := by
      rintro rfl
      exact absurd beyond (Nat.not_succ_le_self _)
    unfold Common.exactly Common.but
    rw [if_neg other]
    exact h.fresh k (Nat.le_of_succ_le beyond) peer peer'
  bytes := h.bytes.append (.refl _)

/-- A call that both peers of a connection answer alike. -/
theorem call {α : Type} (h : Alike on waiting waiting' net net') {event : Option α → Event}
    {answer : Peer → Except Fault α × Peer} {r : Except Fault α} {peer peer' : Peer}
    (answered : answer (net.peer c) = (r, peer)) (answered' : answer (net'.peer c) = (r, peer'))
    (common : on c peer peer') :
    Parallels (Network.call c event answer) (Network.call c event answer) net net' fun r' t t' =>
      r' = r.mapError Failure.fault ∧ Alike on waiting waiting' t t' := by
  have after (result : Option α) :
      Alike on waiting waiting' ((net.setPeer c peer).record (event result))
        ((net'.setPeer c peer').record (event result)) :=
    h.called common (.refl [event result])
  cases r with
  | ok a =>
    refine (Act.parallels_of_outcome _ _ (r := .ok a) ?_ ?_).2 ⟨rfl, after (some a)⟩ <;>
      simp only [Act.outcome, Network.call, answered, answered']
  | error f =>
    refine (Act.parallels_of_outcome _ _ (r := .error (.fault f)) ?_ ?_).2 ⟨rfl, after none⟩ <;>
      simp only [Act.outcome, Network.call, answered, answered']

/-- A call that changes no peer, and fails for a fault that both peers have or both do not. -/
theorem comply (h : Alike on waiting waiting' net net') {event : Option Unit → Event}
    {fault? : Peer → Option Fault} (same : fault? (net'.peer c) = fault? (net.peer c)) :
    Parallels (Network.call c event (Peer.comply fault?))
      (Network.call c event (Peer.comply fault?))
      net net' fun r t t' =>
        (match fault? (net.peer c) with
          | none => r = .ok ()
          | some f => r = .error (.fault f)) ∧ Alike on waiting waiting' t t' := by
  have answered (peer : Peer) : Peer.comply fault? peer =
      ((Peer.comply fault? peer).1, peer) := by
    unfold Peer.comply
    split <;> rfl
  have alike : (Peer.comply fault? (net'.peer c)).1 = (Peer.comply fault? (net.peer c)).1 := by
    unfold Peer.comply
    rw [same]
    split <;> rfl
  refine (h.call (answered _) (alike ▸ answered _) (h.peers c)).mono ?_
  rintro r t t' ⟨rfl, after⟩
  refine ⟨?_, after⟩
  unfold Peer.comply
  cases fault? (net.peer c) <;> rfl

end Alike

end Network

/-- The hosts of two runs. The counters and the log are the same. -/
structure Host.Alike (on : Common) (waiting waiting' : List Peer) (host host' : Host) : Prop where
  network : host.network.Alike on waiting waiting' host'.network
  givenIds_eq : host'.givenIds = host.givenIds
  sharedIds_eq : host'.sharedIds = host.sharedIds
  log_eq : host'.log = host.log

namespace Host.Alike

variable {host host' : Host} {on on' : Common} {waiting waiting' : List Peer}

theorem mono (h : Alike on waiting waiting' host host')
    (less : ∀ c peer peer', on c peer peer' → on' c peer peer') :
    Alike on' waiting waiting' host host' :=
  { h with network := h.network.mono less }

theorem ids_eq (h : Alike on waiting waiting' host host') (source : IdSource) :
    host'.ids source = host.ids source := by
  cases source with
  | given => exact h.givenIds_eq
  | shared => exact h.sharedIds_eq

theorem setIds (h : Alike on waiting waiting' host host') (source : IdSource) (ids : SessionIds) :
    Alike on waiting waiting' (host.setIds source ids) (host'.setIds source ids) := by
  cases source with
  | given => exact { h with givenIds_eq := rfl }
  | shared => exact { h with sharedIds_eq := rfl }

theorem logged (h : Alike on waiting waiting' host host') (entry : Log.Entry) :
    Alike on waiting waiting' (host.logged entry) (host'.logged entry) :=
  { h with log_eq := congrArg (· ++ [entry]) h.log_eq }

/-- The network goes on, and nothing else. -/
theorem withNetwork (h : Alike on waiting waiting' host host') {on' : Common}
    {later later' : List Peer} {net net' : Network} (after : net.Alike on' later later' net') :
    Alike on' later later' { host with network := net } { host' with network := net' } :=
  { h with network := after }

end Host.Alike

section Silent

variable {σ β : Type} {level : Log.Level} {source : Log.Source} {message : String}

@[simp] theorem Host.parallels_write_bind {f f' : Unit → Act Host β} {host host' : Host}
    {post : Except Failure β → Host → Host → Prop} :
    Parallels (Host.write level source message >>= f) (Host.write level source message >>= f') host
        host' post ↔
      Parallels (f ()) (f' ()) (host.logged ⟨level, source, message⟩)
        (host'.logged ⟨level, source, message⟩) post :=
  Iff.rfl

@[simp] theorem Host.parallels_write {host host' : Host}
    {post : Except Failure Unit → Host → Host → Prop} :
    Parallels (Host.write level source message) (Host.write level source message) host host' post ↔
      post (.ok ()) (host.logged ⟨level, source, message⟩)
        (host'.logged ⟨level, source, message⟩) :=
  Act.parallels_of_outcome (write level source message) (write level source message) rfl rfl

@[simp] theorem Held.parallels_write_bind {f f' : Unit → Act (Held σ) β} {held held' : Held σ}
    {post : Except Failure β → Held σ → Held σ → Prop} :
    Parallels (liftM (Host.write level source message) >>= f)
        (liftM (Host.write level source message) >>= f') held held' post ↔
      Parallels (f ()) (f' ()) (held.logged ⟨level, source, message⟩)
        (held'.logged ⟨level, source, message⟩) post :=
  Iff.rfl

@[simp] theorem Link.parallels_note_bind {f f' : Unit → Act (Held Link) β} {held held' : Held Link}
    {post : Except Failure β → Held Link → Held Link → Prop} :
    Parallels (Link.note level message >>= f) (Link.note level message >>= f') held held' post ↔
      Parallels (f ()) (f' ()) (held.logged ⟨level, .stream, message⟩)
        (held'.logged ⟨level, .stream, message⟩) post :=
  Iff.rfl

@[simp] theorem Link.parallels_update_bind {g : Link → Link} {f f' : Unit → Act (Held Link) β}
    {held held' : Held Link} {post : Except Failure β → Held Link → Held Link → Prop} :
    Parallels (Link.update g >>= f) (Link.update g >>= f') held held' post ↔
      Parallels (f ()) (f' ()) { held with own := g held.own } { held' with own := g held'.own }
        post :=
  Iff.rfl

end Silent

-- ════════════════════════════════════════════════════════════════════════
-- Lines
-- ════════════════════════════════════════════════════════════════════════

/-- The outcomes of sends take a line of this length, at least one byte with each send, and leave
others for the sends after it. -/
inductive TakesLine : Nat → List Acceptance → List Acceptance → Prop
  | done (acceptances : List Acceptance) : TakesLine 0 acceptances acceptances
  | whole (length : Nat) : TakesLine (length + 1) [] []
  | part {length count : Nat} {later rest : List Acceptance}
      (takes : TakesLine (length - count) later rest) :
      TakesLine (length + 1) (.upTo (count + 1) :: later) rest

/-- Every send accepts something. -/
def AllTake (acceptances : List Acceptance) : Prop :=
  ∀ acceptance ∈ acceptances, ∃ count, acceptance = .upTo (count + 1)

theorem AllTake.takesLine {acceptances : List Acceptance} (h : AllTake acceptances)
    (length : Nat) : ∃ rest, TakesLine length acceptances rest ∧ AllTake rest := by
  induction acceptances generalizing length with
  | nil =>
    cases length with
    | zero => exact ⟨[], .done [], h⟩
    | succ length => exact ⟨[], .whole length, h⟩
  | cons acceptance later ih =>
    cases length with
    | zero => exact ⟨_, .done _, h⟩
    | succ length =>
      obtain ⟨count, rfl⟩ := h acceptance (List.mem_cons_self ..)
      obtain ⟨rest, takes, positive⟩ :=
        ih (fun a ha => h a (List.mem_cons_of_mem _ ha)) (length - count)
      exact ⟨rest, .part takes, positive⟩

namespace Wire

/-- What the sends of a line leave behind if the peer takes the line. -/
theorem outcome_transmit {net : Network} (made : c.index < net.connections.length) {data : Bytes}
    {rest : List Acceptance} (takes : TakesLine data.length (net.peer c).acceptances rest) :
    ∃ es, Act.outcome (transmit c data) net =
        (.ok (), net.called c { net.peer c with acceptances := rest } es) ∧
      Transmission c data es (.ok ()) := by
  fun_induction transmit c data generalizing net with
  | case1 =>
    cases takes
    refine ⟨[], ?_, .done⟩
    have same := net.called_self c []
    rw [List.append_nil] at same
    exact congrArg (Prod.mk _) same.symm
  | case2 b later ih =>
    -- The first send takes at least one byte, and leaves a peer that takes the rest.
    obtain ⟨count, fits, left, answered, takes⟩ : ∃ count, count ≤ later.length ∧ ∃ left,
        (net.peer c).accept (b :: later).length =
          (.ok (count + 1), { net.peer c with acceptances := left }) ∧
        TakesLine (later.drop count).length left rest := by
      generalize net.peer c = peer at takes ⊢
      obtain ⟨incoming, acceptances⟩ := peer
      unfold Peer.accept
      dsimp only at takes ⊢
      cases takes with
      | whole =>
        refine ⟨later.length, Nat.le_refl _, [], rfl, ?_⟩
        rw [List.drop_length]
        exact .done []
      | @part _ count left _ takes =>
        refine ⟨min count later.length, Nat.min_le_right .., left, ?_, ?_⟩
        · simp only [List.length_cons, Nat.add_min_add_right]
        · rwa [List.length_drop,
            show later.length - min count later.length = later.length - count by omega]
    let mid := net.called c { net.peer c with acceptances := left }
      [.send c (b :: later) (some (count + 1))]
    have sent : Act.outcome (Network.send c (b :: later)) net = (.ok (count + 1), mid) := by
      simp only [Act.outcome, Network.send, Network.call, answered]
      rfl
    have here : mid.peer c = { net.peer c with acceptances := left } := by
      rw [Network.peer_called, if_pos ⟨rfl, made⟩]
    have made' : c.index < mid.connections.length :=
      Nat.lt_of_lt_of_eq made List.length_set.symm
    obtain ⟨es, ended, sends⟩ := ih count made' (by rwa [here])
    refine ⟨_, ?_, .advanced fits sends⟩
    rw [Act.outcome_bind, sent]
    show Act.outcome (transmit c (later.drop count)) mid = _
    rw [ended, Network.called_called, here]
    rfl

/-- What the sends of a line tell of bytes does not depend on how many they are. -/
theorem Transmission.sameBytes {data : Bytes} {es es' : List Event}
    (h : Transmission c data es (.ok ())) (h' : Transmission c data es' (.ok ())) :
    SameBytes es es' where
  accepted_eq k := by
    have all {es : List Event} (h : Transmission c data es (.ok ())) :
        SessionStream.accepted c es = data := by
      obtain ⟨left, eq, rfl⟩ := h.accepted
      rw [eq, List.append_nil]
    by_cases same : k = c
    · rw [same, all h, all h']
    · have other {es : List Event} (h : Transmission c data es (.ok ())) : Untouched k es :=
        fun e he on => same (Option.some.inj (on.symm.trans (h.target? e he)))
      rw [(other h).accepted_eq_nil, (other h').accepted_eq_nil]
  received_eq k := by rw [h.outward.received_eq_nil, h'.outward.received_eq_nil]
  delivered_eq k := by rw [h.outward.delivered_eq_nil, h'.outward.delivered_eq_nil]

/-- A line that the peers of both runs take is sent in both. -/
theorem transmit_parallels {on : Common} {waiting waiting' : List Peer} {net net' : Network}
    (alike : net.Alike on waiting waiting' net') (made : c.index < net.connections.length)
    {data : Bytes} {rest rest' : List Acceptance}
    (takes : TakesLine data.length (net.peer c).acceptances rest)
    (takes' : TakesLine data.length (net'.peer c).acceptances rest') :
    Parallels (transmit c data) (transmit c data) net net' fun r t t' => r = .ok () ∧
      t.Alike (on.exactly c { net.peer c with acceptances := rest }
        { net'.peer c with acceptances := rest' }) waiting waiting' t' := by
  obtain ⟨es, ended, sends⟩ := outcome_transmit made takes
  obtain ⟨es', ended', sends'⟩ := outcome_transmit (alike.length_eq ▸ made) takes'
  refine (Act.parallels_of_outcome _ _ ended ended').2 ⟨rfl, ?_⟩
  exact alike.called_but made ⟨rfl, rfl⟩ (sends.sameBytes sends')

end Wire

-- ════════════════════════════════════════════════════════════════════════
-- Reaching an address
-- ════════════════════════════════════════════════════════════════════════

/-- The calls that make a connection and that give it up fail in the same way. -/
structure Peer.SameFaults (peer peer' : Peer) : Prop where
  blockingFault_eq : peer'.blockingFault = peer.blockingFault
  closeFault_eq : peer'.closeFault = peer.closeFault
  connectFault_eq : peer'.connectFault = peer.connectFault
  socketFault_eq : peer'.socketFault = peer.socketFault

theorem Peer.SameFaults.refl (peer : Peer) : peer.SameFaults peer :=
  ⟨rfl, rfl, rfl, rfl⟩

/-- A connection can be made from a peer in this way, with this timeout. -/
structure Peer.Reachable (dialer : Dialer) (timeout : Int) (peer : Peer) : Prop where
  connectFault_eq : peer.connectFault = none
  socket (range : Timeout.Range) : dialer = .socket range →
    peer.socketFault = none ∧ Timeout.Settable range timeout

section Reach

variable {on : Common} {waiting waiting' : List Peer}

/-- The first peer of those that wait. -/
abbrev foremost (waiting : List Peer) : Peer :=
  waiting.headD {}

/-- How the attempt to reach an address ended in two runs: the first peers were taken, and made into
a connection if they can be reached. -/
def Reached (on : Common) (waiting waiting' : List Peer) (dialer : Dialer) (timeout : Int)
    (host : Host) : Except Failure ConnectionId → Host → Host → Prop
  | .ok c, t, t' => c = host.network.nextId ∧ (foremost waiting).Reachable dialer timeout ∧
      t.Alike (on.exactly c (foremost waiting) (foremost waiting')) waiting.tail waiting'.tail t'
  | .error _, t, t' => ¬(foremost waiting).Reachable dialer timeout ∧
      t.Alike (on.except host.network.nextId) waiting.tail waiting'.tail t'

theorem connect_parallels {net net' : Network} (alike : net.Alike on waiting waiting' net')
    (faults : (foremost waiting).SameFaults (foremost waiting')) (address : Address)
    (timeout : Int) :
    Parallels (Network.connect address timeout) (Network.connect address timeout) net net'
      fun r t t' => match r with
        | .ok c => c = net.nextId ∧ (foremost waiting).connectFault = none ∧
            t.Alike (on.exactly c (foremost waiting) (foremost waiting'))
              waiting.tail waiting'.tail t'
        | .error _ => (foremost waiting).connectFault ≠ none ∧
            t.Alike on waiting.tail waiting'.tail t' := by
  have ended := Network.outcome_connect address timeout net
  have ended' := Network.outcome_connect address timeout net'
  rw [alike.nextPeer_eq.1] at ended
  rw [alike.nextPeer_eq.2, faults.connectFault_eq, alike.nextId_eq] at ended'
  cases refused : (foremost waiting).connectFault with
  | none =>
    rw [refused] at ended ended'
    have after := alike.addConnection (.connect address.target timeout (some net.nextId))
    rw [alike.nextPeer_eq.1, alike.nextPeer_eq.2] at after
    exact (Act.parallels_of_outcome _ _ ended ended').2 ⟨rfl, rfl, after⟩
  | some f =>
    rw [refused] at ended ended'
    exact (Act.parallels_of_outcome _ _ ended ended').2 ⟨Option.some_ne_none f, alike.dropPeer _⟩

theorem openSocket_parallels {net net' : Network} (alike : net.Alike on waiting waiting' net')
    (faults : (foremost waiting).SameFaults (foremost waiting')) :
    Parallels Network.openSocket Network.openSocket net net' fun r t t' => match r with
      | .ok c => c = net.nextId ∧ (foremost waiting).socketFault = none ∧
          t.Alike (on.exactly c (foremost waiting) (foremost waiting')) waiting.tail waiting'.tail
            t'
      | .error _ => (foremost waiting).socketFault ≠ none ∧
          t.Alike on waiting.tail waiting'.tail t' := by
  obtain ⟨next, next'⟩ := alike.nextPeer_eq
  cases refused : (foremost waiting).socketFault with
  | none =>
    have made : net.nextPeer.socketFault = none := (congrArg Peer.socketFault next).trans refused
    have made' : net'.nextPeer.socketFault = none :=
      (congrArg Peer.socketFault next').trans (faults.socketFault_eq.trans refused)
    have ended' := Network.outcome_openSocket made'
    rw [alike.nextId_eq] at ended'
    have after := alike.addConnection (.socket (some net.nextId))
    exact (Act.parallels_of_outcome _ _ (Network.outcome_openSocket made) ended').2
      ⟨rfl, rfl, after⟩
  | some f =>
    have ended : Act.outcome Network.openSocket net =
        (.error (.fault f), net.dropPeer.record (.socket none)) := by
      simp only [Act.outcome, Network.openSocket, next, refused]
    have ended' : Act.outcome Network.openSocket net' =
        (.error (.fault f), net'.dropPeer.record (.socket none)) := by
      simp only [Act.outcome, Network.openSocket, next', faults.socketFault_eq, refused]
    exact (Act.parallels_of_outcome _ _ ended ended').2 ⟨Option.some_ne_none f, alike.dropPeer _⟩

/-- The sockets of both runs take the timeout, or refuse it. -/
theorem setTimeout_parallels {net net' : Network} (alike : net.Alike on waiting waiting' net')
    (range : Timeout.Range) (timeout : Int) :
    Parallels (Network.setTimeout range c timeout) (Network.setTimeout range c timeout) net net'
      fun r t t' =>
        r = (match range.refusal? timeout with | none => .ok () | some e => .error e) ∧
          t.Alike on waiting waiting' t' := by
  have ended (net : Network) := Network.outcome_setTimeout range c timeout net
  cases taken : range.refusal? timeout with
  | none =>
    rw [taken] at ended
    exact (Act.parallels_of_outcome _ _ (ended net) (ended net')).2 ⟨rfl, alike.record _⟩
  | some e =>
    rw [taken] at ended
    exact (Act.parallels_of_outcome _ _ (ended net) (ended net')).2 ⟨rfl, alike.record _⟩

/-- A connection is given up, and a failure is passed on. -/
theorem close_throw_parallels {host host' : Host} (alike : host.Alike on waiting waiting' host')
    (same : (host'.network.peer c).closeFault = (host.network.peer c).closeFault)
    {level : Log.Level} {source : Log.Source} {message : String} {cause : Failure} {α : Type} :
    Parallels
      (do Host.write level source message; Network.close c; throw cause : Act Host α)
      (do Host.write level source message; Network.close c; throw cause : Act Host α) host host'
      fun r t t' => (∃ e, r = .error e) ∧ t.Alike on waiting waiting' t' := by
  refine Host.parallels_write_bind.2 ?_
  have logged := alike.logged ⟨level, source, message⟩
  refine Parallels.bind (Parallels.onHost ((logged.network.comply same).mono ?_))
  rintro (e | u) t t' ⟨-, after⟩
  · exact ⟨⟨e, rfl⟩, logged.withNetwork after⟩
  · exact Act.parallels_throw.2 ⟨⟨cause, rfl⟩, logged.withNetwork after⟩

theorem dialSocket_parallels {host host' : Host} (alike : host.Alike on waiting waiting' host')
    (faults : (foremost waiting).SameFaults (foremost waiting')) (range : Timeout.Range)
    (address : Address) (timeout : Int) :
    Parallels (Dialer.dialSocket range address timeout) (Dialer.dialSocket range address timeout)
      host host' (Reached on waiting waiting' (.socket range) timeout host) := by
  unfold Dialer.dialSocket
  refine Parallels.bind (Parallels.rescue (Parallels.onHost
    ((openSocket_parallels alike.network faults).mono ?_)))
  rintro (e | c) net net' h
  · obtain ⟨refused, after⟩ := h
    have after := alike.withNetwork (after.except host.network.nextId)
    have unreachable : ¬(foremost waiting).Reachable (.socket range) timeout := fun h =>
      refused (h.socket range rfl).1
    dsimp only
    split
    · exact Act.parallels_throw.2 ⟨unreachable, after⟩
    · exact ⟨unreachable, after⟩
  obtain ⟨rfl, made, after⟩ := h
  dsimp only
  by_cases small : Timeout.Representable timeout
  · simp only [small, not_true_eq_false, if_false]
    refine Parallels.bind (Parallels.onHost ((setTimeout_parallels after range timeout).mono ?_))
    rintro (e | u) net net' ⟨set, after⟩
    · refine ⟨fun h => ?_, (alike.withNetwork after).mono fun _ _ _ => Common.except_of_exactly⟩
      rw [(h.socket range rfl).2.2] at set
      cases set
    have taken : range.refusal? timeout = none := by
      cases refused : range.refusal? timeout with
      | none => rfl
      | some e =>
        rw [refused] at set
        cases set
    obtain ⟨here, here'⟩ := after.peers_exactly
    refine Parallels.bind (Parallels.rescue (Parallels.onHost ((after.comply ?_).mono ?_)))
    · rw [here, here', faults.connectFault_eq]
    rw [here]
    rintro (e | u) net net' ⟨ended, after⟩
    · have refused : ¬(foremost waiting).Reachable (.socket range) timeout := by
        intro h
        rw [h.connectFault_eq] at ended
        cases ended
      have after := alike.withNetwork after
      have weak := after.mono fun _ _ _ => Common.except_of_exactly
      obtain ⟨here, here'⟩ := after.network.peers_exactly
      dsimp only
      split
      · refine (close_throw_parallels weak ?_).mono ?_
        · rw [here, here', faults.closeFault_eq]
        · rintro _ t t' ⟨⟨e, rfl⟩, after⟩
          exact ⟨refused, after⟩
      · exact ⟨refused, weak⟩
    · have accepted : (foremost waiting).connectFault = none := by
        cases refused : (foremost waiting).connectFault with
        | none => rfl
        | some f =>
          rw [refused] at ended
          cases ended
      exact Act.parallels_pure.2
        ⟨rfl, ⟨accepted, fun _ same => Dialer.socket.inj same ▸ ⟨made, small, taken⟩⟩,
          alike.withNetwork after⟩
  · simp only [small, not_false_eq_true, if_true]
    refine Act.parallels_throw_bind.2 ⟨fun h => small (h.socket range rfl).2.1, ?_⟩
    exact (alike.withNetwork after).mono fun _ _ _ => Common.except_of_exactly

theorem dial_parallels {host host' : Host} (alike : host.Alike on waiting waiting' host')
    (faults : (foremost waiting).SameFaults (foremost waiting')) (dialer : Dialer)
    (address : Address) (timeout : Int) :
    Parallels (dialer.dial address timeout) (dialer.dial address timeout) host host'
      (Reached on waiting waiting' dialer timeout host) := by
  cases dialer with
  | socket range => exact dialSocket_parallels alike faults range address timeout
  | direct =>
    refine Parallels.onHost ((connect_parallels alike.network faults address timeout).mono ?_)
    rintro (e | c) net net' h
    · obtain ⟨refused, after⟩ := h
      exact ⟨fun h => refused h.connectFault_eq, alike.withNetwork (after.except _)⟩
    · obtain ⟨rfl, accepted, after⟩ := h
      exact ⟨rfl, ⟨accepted, nofun⟩, alike.withNetwork after⟩

/-- The same address is reached in both runs, or in neither. -/
theorem reach_parallels {host host' : Host} (alike : host.Alike on waiting waiting' host')
    (faults : (foremost waiting).SameFaults (foremost waiting')) (dialer : Dialer)
    (address : Address) (timeout : Int) :
    Parallels (reach dialer address timeout) (reach dialer address timeout) host host'
      (Reached on waiting waiting' dialer timeout host) := by
  refine Parallels.rescue ((dial_parallels alike faults dialer address timeout).mono ?_)
  rintro (e | c) t t' h
  · dsimp only
    split
    · exact Act.parallels_throw.2 h
    · exact h
  · exact h

end Reach

end SessionStream
