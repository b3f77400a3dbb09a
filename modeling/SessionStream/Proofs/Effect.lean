import SessionStream.World

/-!
# What actions do to the network

Everything that the network shows of a run is its record of events. This file says what it means
that an action, whatever the network answers, has certain events and a certain end, and gives the
rules by which that follows for an action from its parts.

## Main definitions

- `Event.target?`, `Event.opened?` — the connection that a call was on, and the one it made
- `opened` — the connections made in a list of events
- `Network.Extends` — the record grew by a list of events
- `Act.outcome` — how an action ends, with the state it leaves behind
- `Act.Does` — an action has events and an end of a given kind

## Design notes

`Act.Does` hides the peers: its post-condition sees the result, the new events and the state after
the action, so a proof has to hold for every answer the network may give. Connections are numbered
in the order in which they are made, and `Network.Extends` carries that along, which is how a
connection made by an action is known to be new.
-/

namespace SessionStream

/-- The connection that a call has made. -/
def Event.opened? : Event → Option ConnectionId
  | .connect _ _ result => result
  | .socket result => result
  | _ => none

/-- The connection that a call was on; one that the call has made counts. -/
def Event.target? : Event → Option ConnectionId
  | .connect _ _ result => result
  | .socket result => result
  | .setTimeout c _ _ => some c
  | .connectSocket c _ _ => some c
  | .setBlocking c _ => some c
  | .send c _ _ => some c
  | .receive c _ _ => some c
  | .receiveInto c _ _ => some c
  | .close c _ => some c

/-- The connections made in a list of events, in the order in which they were made. -/
def opened (events : List Event) : List ConnectionId :=
  events.filterMap Event.opened?

@[simp] theorem opened_nil : opened [] = [] := rfl

@[simp] theorem opened_append (es fs : List Event) : opened (es ++ fs) = opened es ++ opened fs :=
  List.filterMap_append

@[simp] theorem opened_cons (e : Event) (es : List Event) :
    opened (e :: es) = e.opened?.toList ++ opened es := by
  cases h : e.opened? <;> simp [opened, h]

/-- What is on record stays on record. -/
theorem mem_opened_append {c : ConnectionId} {es : List Event} (h : c ∈ opened es)
    (fs : List Event) : c ∈ opened (es ++ fs) := by
  rw [opened_append]
  exact List.mem_append_left _ h

/-- A call that makes a connection is on it. -/
theorem Event.target?_of_opened? {e : Event} {c : ConnectionId} (h : e.opened? = some c) :
    e.target? = some c := by
  cases e <;> simp_all [Event.opened?, Event.target?]

namespace Network

/-- The connections on record are those the network has, by their numbers. -/
def Numbered (net : Network) : Prop :=
  opened net.trace = (List.range net.connections.length).map ConnectionId.mk

/-- The record grew by these events, and connections were numbered as they were made. -/
structure Extends (net : Network) (events : List Event) (after : Network) : Prop where
  trace_eq : after.trace = net.trace ++ events
  numbered : net.Numbered → after.Numbered

theorem Extends.refl (net : Network) : net.Extends [] net :=
  ⟨(List.append_nil _).symm, id⟩

theorem Extends.trans {net mid after : Network} {es fs : List Event} (h : net.Extends es mid)
    (h' : mid.Extends fs after) : net.Extends (es ++ fs) after :=
  ⟨by rw [h'.trace_eq, h.trace_eq, List.append_assoc], h'.numbered ∘ h.numbered⟩

/-- The record tells which events were new. -/
theorem Extends.nil_of_eq {net : Network} {es : List Event} (h : net.Extends es net) : es = [] := by
  simpa using h.trace_eq

/-- A change of the peers alone adds nothing to the record. -/
theorem Extends.of_trace_eq {net after : Network} (ht : after.trace = net.trace)
    (hc : after.connections.length = net.connections.length) : net.Extends [] after :=
  ⟨by rw [ht, List.append_nil], fun h => by rw [Numbered, ht, hc]; exact h⟩

/-- An event that makes no connection is added to the record. -/
theorem Extends.of_record (net : Network) {e : Event} (he : e.opened? = none) :
    net.Extends [e] (net.record e) where
  trace_eq := rfl
  numbered h := by
    simpa [Numbered, record, he] using h

/-- A call on a connection adds its event to the record. -/
theorem Extends.record_setPeer (net : Network) (c : ConnectionId) (peer : Peer) {e : Event}
    (he : e.opened? = none) : net.Extends [e] ((net.setPeer c peer).record e) :=
  have quiet : net.Extends [] (net.setPeer c peer) := .of_trace_eq rfl List.length_set
  quiet.trans (.of_record _ he)

/-- A call that makes a connection gives it the next number. -/
theorem Extends.record_addConnection (net : Network) (peer : Peer) {e : Event}
    (he : e.opened? = some net.nextId) :
    net.Extends [e] (((net.dropPeer).addConnection peer).record e) where
  trace_eq := rfl
  numbered h := by
    simp only [Numbered, record, addConnection, dropPeer, opened_append, opened_cons, he,
      Option.toList_some, opened_nil, List.append_nil, List.length_append, List.length_singleton,
      List.range_succ, List.map_append, List.map_singleton] at h ⊢
    rw [h]
    rfl

/-- A call that makes no connection and changes no peer adds its event to the record. -/
theorem Extends.record_dropPeer (net : Network) {e : Event} (he : e.opened? = none) :
    net.Extends [e] (net.dropPeer.record e) :=
  have quiet : net.Extends [] net.dropPeer := .of_trace_eq rfl rfl
  quiet.trans (.of_record _ he)

end Network

/-- States that hold the network. -/
class HasNetwork (σ : Type) where
  /-- The network in a state. -/
  network : σ → Network

instance : HasNetwork Network := ⟨id⟩
instance : HasNetwork Host := ⟨Host.network⟩
instance {σ : Type} : HasNetwork (Held σ) := ⟨fun held => held.host.network⟩
instance : HasNetwork World := ⟨fun world => world.host.network⟩

open HasNetwork (network)

namespace Act

variable {σ τ α β : Type}

/-- How an action ends, and the state it leaves behind. -/
def outcome (act : Act σ α) (s : σ) : Except Failure α × σ :=
  match act s with
  | .ok a t => (.ok a, t)
  | .error e t => (.error e, t)

theorem outcome_bind (act : Act σ α) (f : α → Act σ β) (s : σ) :
    outcome (act >>= f) s =
      match outcome act s with
      | (.ok a, t) => outcome (f a) t
      | (.error e, t) => (.error e, t) := by
  simp only [outcome, bind, EStateM.bind]
  cases act s <;> rfl

theorem outcome_tryCatch (act : Act σ α) (answer : Failure → Act σ α) (s : σ) :
    outcome (tryCatch act answer) s =
      match outcome act s with
      | (.ok a, t) => (.ok a, t)
      | (.error e, t) => outcome (answer e) t := by
  change outcome (EStateM.tryCatch act answer) s = _
  unfold outcome
  delta EStateM.tryCatch
  cases act s <;> rfl

theorem outcome_rescue (act : Act σ α) (answer : Failure → Act σ α) (s : σ) :
    outcome (act.rescue answer) s =
      match outcome act s with
      | (.ok a, t) => (.ok a, t)
      | (.error e, t) => if e.isSystem then outcome (answer e) t else (.error e, t) := by
  simp only [outcome, rescue]
  cases act s with
  | ok a t => rfl
  | error e t => by_cases h : e.isSystem <;> simp [h]

theorem outcome_zoom (part : σ → τ) (put : τ → σ → σ) (act : Act τ α) (s : σ) :
    outcome (act.zoom part put) s =
      ((outcome act (part s)).1, put (outcome act (part s)).2 s) := by
  simp only [outcome, zoom]
  cases act (part s) <;> rfl

/-- Started in `s`, the action ends with a result, has events on the network and leaves a state
behind that together are as `post` says. -/
def Does [HasNetwork σ] (act : Act σ α) (s : σ)
    (post : Except Failure α → List Event → σ → Prop) : Prop :=
  ∃ events, (network s).Extends events (network (outcome act s).2) ∧
    post (outcome act s).1 events (outcome act s).2

variable [HasNetwork σ] {act : Act σ α} {f : α → Act σ β} {s : σ}

/-- **Consequence rule**: weaken the post-condition. -/
theorem Does.mono {post post' : Except Failure α → List Event → σ → Prop} (h : Does act s post)
    (hpost : ∀ r es t, post r es t → post' r es t) : Does act s post' := by
  obtain ⟨es, hext, h⟩ := h
  exact ⟨es, hext, hpost _ _ _ h⟩

/-- An action that ends without a call. -/
theorem does_of_outcome {r : Except Failure α} {t : σ} (h : outcome act s = (r, t))
    (hnet : network t = network s) {post : Except Failure α → List Event → σ → Prop} :
    Does act s post ↔ post r [] t := by
  unfold Does
  rw [h]
  constructor
  · rintro ⟨es, hext, h⟩
    have hes : es = [] := (hnet ▸ hext).nil_of_eq
    exact hes ▸ h
  · intro h
    exact ⟨[], hnet ▸ Network.Extends.refl _, h⟩

@[simp] theorem does_pure {a : α} {post : Except Failure α → List Event → σ → Prop} :
    Does (pure a) s post ↔ post (.ok a) [] s :=
  does_of_outcome rfl rfl

@[simp] theorem does_throw {e : Failure} {post : Except Failure α → List Event → σ → Prop} :
    Does (throw e) s post ↔ post (.error e) [] s :=
  does_of_outcome rfl rfl

@[simp] theorem does_ofExcept {r : Except Failure α}
    {post : Except Failure α → List Event → σ → Prop} :
    Does (ofExcept r) s post ↔ post r [] s := by
  cases r <;> exact does_of_outcome rfl rfl

@[simp] theorem does_throw_bind {e : Failure} {post : Except Failure β → List Event → σ → Prop} :
    Does (throw e >>= f) s post ↔ post (.error e) [] s :=
  does_of_outcome rfl rfl

@[simp] theorem does_pure_bind {a : α} {post : Except Failure β → List Event → σ → Prop} :
    Does (pure a >>= f) s post ↔ Does (f a) s post :=
  Iff.rfl

theorem does_ofExcept_bind {r : Except Failure α}
    {post : Except Failure β → List Event → σ → Prop} :
    Does (ofExcept r >>= f) s post ↔
      match r with
      | .ok a => Does (f a) s post
      | .error e => post (.error e) [] s := by
  cases r with
  | ok a => exact Iff.rfl
  | error e => exact does_throw_bind

@[simp] theorem does_get_bind {g : σ → Act σ β}
    {post : Except Failure β → List Event → σ → Prop} :
    Does (get >>= g) s post ↔ Does (g s) s post :=
  Iff.rfl

/-- **Sequencing**: the events of the parts stand one after the other. -/
theorem Does.bind {post : Except Failure β → List Event → σ → Prop}
    (h : Does act s fun r es t => match r with
      | .ok a => Does (f a) t fun r' fs u => post r' (es ++ fs) u
      | .error e => post (.error e) es t) :
    Does (act >>= f) s post := by
  obtain ⟨es, hext, h⟩ := h
  unfold Does
  rw [outcome_bind]
  generalize outcome act s = o at hext h ⊢
  obtain ⟨r, t⟩ := o
  cases r with
  | ok a =>
    obtain ⟨fs, hext', h⟩ := h
    exact ⟨es ++ fs, hext.trans hext', h⟩
  | error e => exact ⟨es, hext, h⟩

/-- An action whose value is changed afterwards. -/
theorem Does.map {g : α → β} {post : Except Failure β → List Event → σ → Prop}
    (h : Does act s fun r es t => post (g <$> r) es t) : Does (g <$> act) s post := by
  rw [map_eq_pure_bind]
  refine Does.bind (h.mono fun r es t hr => ?_)
  cases r with
  | ok a => simpa [Functor.map, Except.map] using hr
  | error e => exact hr

/-- An action with an answer to every failure. -/
theorem Does.tryCatch {answer : Failure → Act σ α}
    {post : Except Failure α → List Event → σ → Prop}
    (h : Does act s fun r es t => match r with
      | .ok a => post (.ok a) es t
      | .error e => Does (answer e) t fun r' fs u => post r' (es ++ fs) u) :
    Does (tryCatch act answer) s post := by
  obtain ⟨es, hext, h⟩ := h
  unfold Does
  rw [outcome_tryCatch]
  generalize outcome act s = o at hext h ⊢
  obtain ⟨r, t⟩ := o
  cases r with
  | ok a => exact ⟨es, hext, h⟩
  | error e =>
    obtain ⟨fs, hext', h⟩ := h
    exact ⟨es ++ fs, hext.trans hext', h⟩

/-- An action with an answer to system failures. -/
theorem Does.rescue {answer : Failure → Act σ α}
    {post : Except Failure α → List Event → σ → Prop}
    (h : Does act s fun r es t => match r with
      | .ok a => post (.ok a) es t
      | .error e =>
        (e.isSystem = true → Does (answer e) t fun r' fs u => post r' (es ++ fs) u) ∧
        (e.isSystem = false → post (.error e) es t)) :
    Does (act.rescue answer) s post := by
  obtain ⟨es, hext, h⟩ := h
  unfold Does
  rw [outcome_rescue]
  generalize outcome act s = o at hext h ⊢
  obtain ⟨r, t⟩ := o
  cases r with
  | ok a => exact ⟨es, hext, h⟩
  | error e =>
    cases hs : e.isSystem with
    | true =>
      obtain ⟨fs, hext', h⟩ := h.1 hs
      simp only [hs, if_true]
      exact ⟨es ++ fs, hext.trans hext', h⟩
    | false =>
      simp only [hs]
      exact ⟨es, hext, h.2 hs⟩

/-- An action on a part of the state that holds the network. -/
theorem Does.zoom [HasNetwork τ] {part : σ → τ} {put : τ → σ → σ} {act : Act τ α}
    (hpart : network (part s) = network s) (hput : ∀ t, network (put t s) = network t)
    {post : Except Failure α → List Event → σ → Prop}
    (h : Does act (part s) fun r es t => post r es (put t s)) :
    Does (act.zoom part put) s post := by
  obtain ⟨es, hext, h⟩ := h
  unfold Does
  rw [outcome_zoom]
  exact ⟨es, by rw [hput, ← hpart]; exact hext, h⟩

end Act

section Silent

variable {σ α β : Type}

/-- An action without a call, in front of another one. -/
theorem Act.does_bind_of_outcome [HasNetwork σ] {act : Act σ α} {f : α → Act σ β} {s t : σ} {a : α}
    (h : Act.outcome act s = (.ok a, t)) (hnet : network t = network s)
    {post : Except Failure β → List Event → σ → Prop} :
    Act.Does (act >>= f) s post ↔ Act.Does (f a) t post := by
  unfold Act.Does
  rw [Act.outcome_bind, h, ← hnet]

/-- The host with one more record in its log. -/
def Host.logged (entry : Log.Entry) (host : Host) : Host :=
  { host with log := host.log ++ [entry] }

/-- What is held does not change with the log. -/
def Held.logged (entry : Log.Entry) (held : Held σ) : Held σ :=
  { held with host := held.host.logged entry }

@[simp] theorem Held.own_logged (entry : Log.Entry) (held : Held σ) :
    (held.logged entry).own = held.own := rfl

@[simp] theorem Host.does_write_bind {level : Log.Level} {source : Log.Source} {message : String}
    {f : Unit → Act Host β} {host : Host} {post : Except Failure β → List Event → Host → Prop} :
    Act.Does (Host.write level source message >>= f) host post ↔
      Act.Does (f ()) (host.logged ⟨level, source, message⟩) post :=
  Act.does_bind_of_outcome (s := host) (t := host.logged _) rfl rfl

@[simp] theorem Host.does_write {level : Log.Level} {source : Log.Source} {message : String}
    {host : Host} {post : Except Failure Unit → List Event → Host → Prop} :
    Act.Does (Host.write level source message) host post ↔
      post (.ok ()) [] (host.logged ⟨level, source, message⟩) :=
  Act.does_of_outcome rfl rfl

@[simp] theorem Held.does_write_bind {level : Log.Level} {source : Log.Source} {message : String}
    {f : Unit → Act (Held σ) β} {held : Held σ}
    {post : Except Failure β → List Event → Held σ → Prop} :
    Act.Does (liftM (Host.write level source message) >>= f) held post ↔
      Act.Does (f ()) (held.logged ⟨level, source, message⟩) post :=
  Act.does_bind_of_outcome (s := held) (t := held.logged _) rfl rfl

@[simp] theorem Link.does_note_bind {level : Log.Level} {message : String}
    {f : Unit → Act (Held Link) β} {held : Held Link}
    {post : Except Failure β → List Event → Held Link → Prop} :
    Act.Does (Link.note level message >>= f) held post ↔
      Act.Does (f ()) (held.logged ⟨level, .stream, message⟩) post :=
  Act.does_bind_of_outcome (s := held) (t := held.logged _) rfl rfl

@[simp] theorem Link.does_update_bind {g : Link → Link} {f : Unit → Act (Held Link) β}
    {held : Held Link} {post : Except Failure β → List Event → Held Link → Prop} :
    Act.Does (Link.update g >>= f) held post ↔
      Act.Does (f ()) { held with own := g held.own } post :=
  Act.does_bind_of_outcome (s := held) (t := { held with own := g held.own }) rfl rfl

end Silent

section Lift

variable {σ τ α : Type}

/-- An action on the network, on a host. -/
theorem Act.Does.onHost {act : Act Network α} {host : Host}
    {post : Except Failure α → List Event → Host → Prop}
    (h : Act.Does act host.network fun r es net => post r es { host with network := net }) :
    Act.Does (liftM act : Act Host α) host post :=
  Act.Does.zoom rfl (fun _ => rfl) h

/-- An action on the host, on something held. -/
theorem Act.Does.onHeld {act : Act Host α} {held : Held σ}
    {post : Except Failure α → List Event → Held σ → Prop}
    (h : Act.Does act held.host fun r es host => post r es { held with host }) :
    Act.Does (liftM act : Act (Held σ) α) held post :=
  Act.Does.zoom rfl (fun _ => rfl) h

/-- An action on the network, on something held: what is owned stays as it is. -/
theorem Act.Does.onHeldNetwork {act : Act Network α} {held : Held σ}
    {post : Except Failure α → List Event → Held σ → Prop}
    (h : Act.Does act held.host.network fun r es net =>
      post r es { held with host := { held.host with network := net } }) :
    Act.Does (liftM act : Act (Held σ) α) held post :=
  Act.Does.onHeld (Act.Does.onHost h)

/-- An action on a part of what is owned. -/
theorem Act.Does.onPart {part : σ → τ} {put : τ → σ → σ} {act : Act (Held τ) α} {held : Held σ}
    {post : Except Failure α → List Event → Held σ → Prop}
    (h : Act.Does act ⟨part held.own, held.host⟩ fun r es inner =>
      post r es ⟨put inner.own held.own, inner.host⟩) :
    Act.Does (Held.zoom part put act) held post :=
  Act.Does.zoom rfl (fun _ => rfl) h

end Lift

-- ════════════════════════════════════════════════════════════════════════
-- Calls
-- ════════════════════════════════════════════════════════════════════════

/-- One call: it gives one of the possible values, or fails by itself and gives none. -/
inductive Called {α : Type} (event : Option α → Event) (possible : α → Prop) :
    Except Failure α → List Event → Prop
  | answered {a : α} (ha : possible a) : Called event possible (.ok a) [event (some a)]
  | failed (fault : Fault) : Called event possible (.error (.fault fault)) [event none]

namespace Network

variable {net : Network} {c : ConnectionId}

/-- A call on a connection. Its value is one that a peer can give. -/
theorem call_does {α : Type} {event : Option α → Event} {answer : Peer → Except Fault α × Peer}
    {possible : α → Prop} (he : ∀ r, (event r).opened? = none)
    (ha : ∀ peer later a, answer peer = (.ok a, later) → possible a) :
    Act.Does (call c event answer) net fun r es _ => Called event possible r es := by
  unfold Act.Does Act.outcome call
  rcases h : answer (net.peer c) with ⟨a | f, later⟩
  · exact ⟨_, Extends.record_setPeer net c later (he _), .failed a⟩
  · exact ⟨_, Extends.record_setPeer net c later (he _), .answered (ha _ _ _ h)⟩

theorem send_does (data : Bytes) :
    Act.Does (send c data) net fun r es _ => Called (.send c data) (· ≤ data.length) r es :=
  call_does (fun _ => rfl) fun _ _ _ h => Peer.le_of_accept h

theorem receive_does (limit : Nat) :
    Act.Does (receive c limit) net fun r es _ =>
      Called (.receive c limit) (·.length ≤ limit) r es :=
  call_does (fun _ => rfl) fun _ _ _ h => Peer.length_le_of_deliver h

theorem receiveInto_does (limit : Nat) :
    Act.Does (receiveInto c limit) net fun r es _ =>
      Called (.receiveInto c limit) (·.length ≤ limit) r es :=
  call_does (fun _ => rfl) fun _ _ _ h => Peer.length_le_of_deliver h

theorem setBlocking_does :
    Act.Does (setBlocking c) net fun r es _ => Called (.setBlocking c) (fun _ => True) r es :=
  call_does (fun _ => rfl) fun _ _ _ _ => trivial

theorem connectSocket_does (name : SocketName) :
    Act.Does (connectSocket c name) net fun r es _ =>
      Called (.connectSocket c name) (fun _ => True) r es :=
  call_does (fun _ => rfl) fun _ _ _ _ => trivial

theorem close_does :
    Act.Does (close c) net fun r es _ => Called (.close c) (fun _ => True) r es :=
  call_does (fun _ => rfl) fun _ _ _ _ => trivial

theorem setTimeout_does (range : Timeout.Range) (timeout : Int) :
    Act.Does (setTimeout range c timeout) net fun r es _ =>
      match range.refusal? timeout with
      | none => r = .ok () ∧ es = [.setTimeout c timeout (some ())]
      | some e => r = .error e ∧ es = [.setTimeout c timeout none] := by
  unfold Act.Does Act.outcome setTimeout
  cases range.refusal? timeout with
  | none => exact ⟨_, Extends.of_record net rfl, rfl, rfl⟩
  | some e => exact ⟨_, Extends.of_record net rfl, rfl, rfl⟩

theorem connect_does (address : Address) (timeout : Int) :
    Act.Does (connect address timeout) net fun r es _ =>
      Called (.connect address.target timeout) (fun _ => True) r es := by
  unfold Act.Does Act.outcome connect
  cases h : net.nextPeer.connectFault with
  | some f =>
    simp only [h]
    exact ⟨_, Extends.record_dropPeer net rfl, .failed f⟩
  | none =>
    simp only [h]
    exact ⟨_, Extends.record_addConnection net _ rfl, .answered trivial⟩

theorem openSocket_does :
    Act.Does openSocket net fun r es _ => Called .socket (fun _ => True) r es := by
  unfold Act.Does Act.outcome openSocket
  cases h : net.nextPeer.socketFault with
  | some f =>
    simp only [h]
    exact ⟨_, Extends.record_dropPeer net rfl, .failed f⟩
  | none =>
    simp only [h]
    exact ⟨_, Extends.record_addConnection net _ rfl, .answered trivial⟩

end Network

end SessionStream
