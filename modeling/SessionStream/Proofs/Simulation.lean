import SessionStream.Proofs.Renumbering
import SessionStream.Proofs.Joining

/-!
# Two runs side by side

One run makes each connection in one call, the other one by way of a socket. This file says how
the states of two such runs go together, and gives the rules by which an action of the one run is
followed by an action of the other.

## Main definitions

- `Peer.Portable` — peers that do not tell the two ways to connect apart
- `Twinned` — states of two runs that go together
- `Renamed` — a value, and the one that stands for it
- `Act.Simulates` — two actions that keep the states together and give the same

## Main results

- `Network.call_simulates` — a call on a connection
- `reach_simulates` — a connection to an address, in the two ways

## Design notes

`Act.Simulates` speaks of all longer renumberings at once. What is known of a value goes on to hold
after an action has made more connections, so a proof does not have to rename anything.
-/

namespace SessionStream

variable {ρ ρ' : Renumbering} {c c' : ConnectionId}

/-- A peer that does not tell the two ways to connect apart: a socket can be made for it, and if it
refuses to be connected, then by a failure that says nothing of peers that cannot be reached, and
the socket can be closed. -/
structure Peer.Portable (peer : Peer) : Prop where
  socketFault_eq : peer.socketFault = none
  closeFault_eq {f : Fault} (refused : peer.connectFault = some f) : peer.closeFault = none
  not_isUnreachable {f : Fault} (refused : peer.connectFault = some f) :
    (Failure.fault f).isUnreachable = false

theorem Peer.portable_default : Peer.Portable {} :=
  ⟨rfl, nofun, nofun⟩

-- ════════════════════════════════════════════════════════════════════════
-- Networks that go together
-- ════════════════════════════════════════════════════════════════════════

namespace Network

variable {net net' : Network}

/-- The network after a socket was made for the next peer and got its timeout, and after more calls
on it. -/
def dialed (timeout : Int) (calls : List Event) (net : Network) : Network where
  waiting := net.waiting.tail
  connections := net.connections ++ [net.nextPeer]
  trace := net.trace ++
    (.socket (some net.nextId) :: .setTimeout net.nextId timeout (some ()) :: calls)

/-- The networks of two runs that go together. The same peers wait, connections that stand for one
another have the same to come, and the records go together. -/
structure Twins (ρ : Renumbering) (net net' : Network) : Prop where
  waiting_eq : net'.waiting = net.waiting
  portable : ∀ peer ∈ net.waiting, peer.Portable
  length_eq : net.connections.length = ρ.length
  peers_eq {i : Nat} {c : ConnectionId} (stands : ρ[i]? = some c) :
    net'.connections[c.index]? = net.connections[i]?
  recorded : Recorded ρ net.trace net'.trace
  fresh (c : ConnectionId) (new : net'.connections.length ≤ c.index) : Untouched c net'.trace

namespace Twins

theorem nextPeer_eq (h : Twins ρ net net') : net'.nextPeer = net.nextPeer := by
  simp only [nextPeer, h.waiting_eq]

theorem portable_nextPeer (h : Twins ρ net net') : net.nextPeer.Portable := by
  unfold nextPeer
  cases waiting : net.waiting with
  | nil => exact Peer.portable_default
  | cons peer later => exact h.portable peer (waiting ▸ List.mem_cons_self ..)

theorem portable_tail (h : Twins ρ net net') : ∀ peer ∈ net.waiting.tail, peer.Portable :=
  fun peer hp => h.portable peer (List.mem_of_mem_tail hp)

/-- Every connection that stands for another one is there. -/
theorem index_lt {i : Nat} (h : Twins ρ net net') (stands : ρ[i]? = some c) :
    c.index < net'.connections.length := by
  have made : i < net.connections.length := by
    rw [h.length_eq]
    exact (List.getElem?_eq_some_iff.1 stands).1
  have here := h.peers_eq stands
  rw [List.getElem?_eq_getElem made] at here
  exact (List.getElem?_eq_some_iff.1 here).1

/-- Calls on a new connection are on no later one. -/
theorem untouched_append (h : Twins ρ net net') {es : List Event}
    (on : ∀ e ∈ es, e.target? = some net'.nextId)
    (new : net'.connections.length + 1 ≤ c.index) : Untouched c (net'.trace ++ es) := by
  have other : net'.nextId ≠ c := by
    rintro rfl
    exact absurd new (Nat.not_succ_le_self _)
  intro e he
  rcases List.mem_append.1 he with before | now
  · exact h.fresh c (Nat.le_of_succ_le new) e before
  · rw [on e now]
    exact fun same => other (Option.some.inj same)

theorem peer_eq (h : Twins ρ net net') (fits : c.Fits ρ) :
    net'.peer (c.renamed ρ) = net.peer c := by
  unfold peer
  rw [List.getD_eq_getElem?_getD, List.getD_eq_getElem?_getD, h.peers_eq fits.getElem?]

/-- A call on connections that stand for one another. -/
theorem call (h : Twins ρ net net') (fits : c.Fits ρ) {e : Event} (used : e.used? = some c)
    (peer : Peer) :
    Twins ρ ((net.setPeer c peer).record e)
      ((net'.setPeer (c.renamed ρ) peer).record (e.renamed ρ)) where
  waiting_eq := h.waiting_eq
  portable := h.portable
  length_eq := List.length_set.trans h.length_eq
  peers_eq {i k} stands := by
    have made : c.index < net.connections.length := h.length_eq ▸ fits
    simp only [record, setPeer, List.getElem?_set]
    by_cases same : (c.renamed ρ).index = k.index
    · have twice : ρ[c.index]? = ρ[i]? := by
        rw [fits.getElem?, stands]
        exact congrArg (some ∘ ConnectionId.mk) same
      have eq : c.index = i := (List.getElem?_inj fits h.recorded.nodup).1 twice
      rw [if_pos same, if_pos eq, if_pos (h.index_lt fits.getElem?), if_pos made]
    · have ne : c.index ≠ i := by
        rintro rfl
        exact same (congrArg _ (Option.some.inj (fits.getElem?.symm.trans stands)))
      rw [if_neg same, if_neg ne, h.peers_eq stands]
  recorded := h.recorded.used used fits
  fresh k new := by
    have old : net'.connections.length ≤ k.index := List.length_set ▸ new
    intro e' he
    rcases List.mem_append.1 he with before | now
    · exact h.fresh k old e' before
    · have on : (e.renamed ρ).used? = some (c.renamed ρ) := by rw [Event.used?_renamed, used]; rfl
      rw [List.mem_singleton.1 now, Event.target?_of_used? on]
      intro same
      have lt := h.index_lt fits.getElem?
      rw [Option.some.inj same] at lt
      omega

/-- A connection that was made in the two ways. -/
theorem connected (h : Twins ρ net net') (target : String) (timeout : Int) (name : SocketName) :
    Twins (ρ ++ [net'.nextId])
      ((net.dropPeer.addConnection net.nextPeer).record
        (.connect target timeout (some net.nextId)))
      (net'.dialed timeout [.connectSocket net'.nextId name (some ())]) where
  waiting_eq := congrArg List.tail h.waiting_eq
  portable := h.portable_tail
  length_eq := by
    simp only [record, addConnection, dropPeer, List.length_append, h.length_eq,
      List.length_singleton]
  peers_eq {i k} stands := by
    simp only [record, addConnection, dropPeer, dialed, h.nextPeer_eq]
    rcases Nat.lt_trichotomy i ρ.length with old | last | beyond
    · rw [List.getElem?_append_left old] at stands
      rw [List.getElem?_append_left (h.index_lt stands), h.peers_eq stands,
        List.getElem?_append_left (h.length_eq.symm ▸ old)]
    · subst last
      rw [List.getElem?_concat_length] at stands
      rw [← Option.some.inj stands, nextId, List.getElem?_concat_length, ← h.length_eq,
        List.getElem?_concat_length]
    · rw [List.getElem?_eq_none (by simp; omega)] at stands
      cases stands
  recorded := by
    simp only [record, addConnection, dropPeer, nextId, h.length_eq]
    exact h.recorded.connected (h.fresh net'.nextId (Nat.le_refl _))
  fresh k new := by
    refine h.untouched_append (fun e he => ?_) (by simpa [dialed] using new)
    simp only [List.mem_cons, List.not_mem_nil, or_false] at he
    rcases he with rfl | rfl | rfl <;> rfl

/-- A connection that was refused in the two ways. -/
theorem refused (h : Twins ρ net net') (target : String) (timeout : Int) (name : SocketName)
    {closes : List Event} (gone : closes = [] ∨ closes = [.close net'.nextId (some ())]) :
    Twins ρ (net.dropPeer.record (.connect target timeout none))
      (net'.dialed timeout (.connectSocket net'.nextId name none :: closes)) where
  waiting_eq := congrArg List.tail h.waiting_eq
  portable := h.portable_tail
  length_eq := h.length_eq
  peers_eq {i k} stands :=
    (List.getElem?_append_left (h.index_lt stands)).trans (h.peers_eq stands)
  recorded := h.recorded.refused (h.fresh net'.nextId (Nat.le_refl _)) gone
  fresh k new := by
    refine h.untouched_append (fun e he => ?_) (by simpa [dialed] using new)
    simp only [List.mem_cons] at he
    rcases he with rfl | rfl | rfl | he
    · rfl
    · rfl
    · rfl
    · rcases gone with rfl | rfl
      · cases he
      · rw [List.mem_singleton.1 he]
        rfl

end Twins

end Network

-- ════════════════════════════════════════════════════════════════════════
-- States that go together
-- ════════════════════════════════════════════════════════════════════════

/-- A value is one that stands for another one. -/
def Renamed {α : Type} [Renumbers α] (ρ : Renumbering) (a a' : α) : Prop :=
  Renumbers.Fits ρ a ∧ a' = Renumbers.renamed ρ a

theorem Renamed.extend {α : Type} [Renumbers α] {a a' : α} (h : Renamed ρ a a')
    (longer : ρ <+: ρ') : Renamed ρ' a a' :=
  ⟨Renumbers.fits_extend longer h.1, h.2.trans (Renumbers.renamed_extend longer h.1).symm⟩

/-- Two values that are the same, whatever the connections are. -/
def Same {α : Type} (_ : Renumbering) (a a' : α) : Prop :=
  a' = a

/-- States of two runs that go together. -/
class Twinned (σ : Type) where
  Twins : Renumbering → σ → σ → Prop

open Twinned (Twins)

instance : Twinned Network := ⟨Network.Twins⟩

/-- The hosts of two runs that go together. The logs name connections by their numbers, and are left
out. -/
structure Host.Twins (ρ : Renumbering) (host host' : Host) : Prop where
  network : host.network.Twins ρ host'.network
  givenIds_eq : host'.givenIds = host.givenIds
  sharedIds_eq : host'.sharedIds = host.sharedIds

instance : Twinned Host := ⟨Host.Twins⟩

/-- What is held in two runs that go together. -/
structure Held.Twins {σ : Type} [Renumbers σ] (ρ : Renumbering) (held held' : Held σ) : Prop where
  own : Renamed ρ held.own held'.own
  host : held.host.Twins ρ held'.host

instance {σ : Type} [Renumbers σ] : Twinned (Held σ) := ⟨Held.Twins⟩

theorem Host.Twins.ids_eq {host host' : Host} (h : host.Twins ρ host') (source : IdSource) :
    host'.ids source = host.ids source := by
  cases source with
  | given => exact h.givenIds_eq
  | shared => exact h.sharedIds_eq

theorem Host.Twins.setIds {host host' : Host} (h : host.Twins ρ host') (source : IdSource)
    (ids : SessionIds) : (host.setIds source ids).Twins ρ (host'.setIds source ids) := by
  cases source with
  | given => exact ⟨h.network, rfl, h.sharedIds_eq⟩
  | shared => exact ⟨h.network, h.givenIds_eq, rfl⟩

-- ════════════════════════════════════════════════════════════════════════
-- Actions
-- ════════════════════════════════════════════════════════════════════════

/-- How the same thing ends in two runs: with the same failure, or with values that go together. -/
inductive Akin {α β : Type} (alike : α → β → Prop) : Except Failure α → Except Failure β → Prop
  | ok {a : α} {b : β} (h : alike a b) : Akin alike (.ok a) (.ok b)
  | error (e : Failure) : Akin alike (.error e) (.error e)

namespace Act

variable {σ τ α β γ δ : Type}

/-- Started in states that go together, the two actions leave such states behind and end alike. -/
def Simulates [Twinned σ] (ρ : Renumbering) (act : Act σ α) (act' : Act σ β)
    (alike : Renumbering → α → β → Prop) : Prop :=
  ∀ ρ₁ s s', ρ <+: ρ₁ → Twins ρ₁ s s' → ∃ ρ₂, ρ₁ <+: ρ₂ ∧
    Twins ρ₂ (outcome act s).2 (outcome act' s').2 ∧
    Akin (alike ρ₂) (outcome act s).1 (outcome act' s').1

variable [Twinned σ] {act : Act σ α} {act' : Act σ β} {alike : Renumbering → α → β → Prop}
  {alike' : Renumbering → γ → δ → Prop}

theorem Simulates.extend (h : Simulates ρ act act' alike) (longer : ρ <+: ρ') :
    Simulates ρ' act act' alike :=
  fun ρ₁ s s' later => h ρ₁ s s' (longer.trans later)

theorem simulates_pure {a : α} {b : β} (h : ∀ ρ', ρ <+: ρ' → alike ρ' a b) :
    Simulates ρ (pure a : Act σ α) (pure b) alike :=
  fun ρ₁ _ _ later twins => ⟨ρ₁, List.prefix_rfl, twins, .ok (h ρ₁ later)⟩

theorem simulates_pure_renamed [Renumbers α] {a a' : α} (h : Renamed ρ a a') :
    Simulates ρ (pure a : Act σ α) (pure a') Renamed :=
  simulates_pure fun _ => h.extend

theorem simulates_pure_same (a : α) : Simulates ρ (pure a : Act σ α) (pure a) Same :=
  simulates_pure fun _ _ => rfl

theorem simulates_throw (e : Failure) : Simulates ρ (throw e : Act σ α) (throw e : Act σ β) alike :=
  fun ρ₁ _ _ _ twins => ⟨ρ₁, List.prefix_rfl, twins, .error e⟩

theorem simulates_throw_bind {f : α → Act σ γ} {f' : β → Act σ δ} (e : Failure) :
    Simulates ρ (throw e >>= f) (throw e >>= f') alike' :=
  fun ρ₁ _ _ _ twins => ⟨ρ₁, List.prefix_rfl, twins, .error e⟩

theorem simulates_ofExcept (r : Except Failure α) :
    Simulates ρ (ofExcept r : Act σ α) (ofExcept r) Same := by
  cases r with
  | ok a => exact simulates_pure_same a
  | error e => exact simulates_throw e

theorem simulates_modify {f f' : σ → σ}
    (h : ∀ ρ' s s', ρ <+: ρ' → Twins ρ' s s' → Twins ρ' (f s) (f' s')) :
    Simulates ρ (modify f : Act σ PUnit) (modify f') Same :=
  fun ρ₁ s s' later twins => ⟨ρ₁, List.prefix_rfl, h ρ₁ s s' later twins, .ok rfl⟩

theorem simulates_get : Simulates ρ (get : Act σ σ) get Twins :=
  fun ρ₁ _ _ _ twins => ⟨ρ₁, List.prefix_rfl, twins, .ok twins⟩

/-- The ends of the two actions: values that go together, or the same failure. -/
theorem Simulates.ends {ρ₁ : Renumbering} {s s' : σ} (h : Simulates ρ act act' alike)
    (later : ρ <+: ρ₁) (twins : Twins ρ₁ s s') :
    ∃ ρ₂ t t', ρ₁ <+: ρ₂ ∧ Twins ρ₂ t t' ∧
      ((∃ a b, alike ρ₂ a b ∧ outcome act s = (.ok a, t) ∧ outcome act' s' = (.ok b, t')) ∨
        ∃ e, outcome act s = (.error e, t) ∧ outcome act' s' = (.error e, t')) := by
  obtain ⟨ρ₂, longer, after, ended⟩ := h ρ₁ s s' later twins
  refine ⟨ρ₂, _, _, longer, after, ?_⟩
  generalize outcome act s = o at ended ⊢
  generalize outcome act' s' = o' at ended ⊢
  obtain ⟨r, t⟩ := o
  obtain ⟨r', t'⟩ := o'
  cases ended with
  | ok h => exact .inl ⟨_, _, h, rfl, rfl⟩
  | error e => exact .inr ⟨e, rfl, rfl⟩

/-- **Sequencing**. -/
theorem Simulates.bind {f : α → Act σ γ} {f' : β → Act σ δ} (h : Simulates ρ act act' alike)
    (next : ∀ ρ' a b, ρ <+: ρ' → alike ρ' a b → Simulates ρ' (f a) (f' b) alike') :
    Simulates ρ (act >>= f) (act' >>= f') alike' := by
  intro ρ₁ s s' later twins
  rw [outcome_bind, outcome_bind]
  obtain ⟨ρ₂, t, t', longer, after, ⟨a, b, h, eq, eq'⟩ | ⟨e, eq, eq'⟩⟩ := h.ends later twins
  · rw [eq, eq']
    obtain ⟨ρ₃, longer', after', ended⟩ :=
      next ρ₂ a b (later.trans longer) h ρ₂ t t' List.prefix_rfl after
    exact ⟨ρ₃, longer.trans longer', after', ended⟩
  · rw [eq, eq']
    exact ⟨ρ₂, longer, after, .error e⟩

/-- An action that goes on with the same value. -/
theorem Simulates.bind_same {f : α → Act σ γ} {f' : α → Act σ δ} {act' : Act σ α}
    (h : Simulates ρ act act' Same)
    (next : ∀ ρ' a, ρ <+: ρ' → Simulates ρ' (f a) (f' a) alike') :
    Simulates ρ (act >>= f) (act' >>= f') alike' :=
  h.bind fun ρ' a _ longer same => same ▸ next ρ' a longer

/-- An action whose value is changed afterwards. -/
theorem Simulates.map {f : α → γ} {f' : β → δ} (h : Simulates ρ act act' alike)
    (change : ∀ ρ' a b, ρ <+: ρ' → alike ρ' a b → alike' ρ' (f a) (f' b)) :
    Simulates ρ (f <$> act) (f' <$> act') alike' := by
  intro ρ₁ s s' later twins
  rw [map_eq_pure_bind, map_eq_pure_bind, outcome_bind, outcome_bind]
  obtain ⟨ρ₂, t, t', longer, after, ⟨a, b, h, eq, eq'⟩ | ⟨e, eq, eq'⟩⟩ := h.ends later twins
  · rw [eq, eq']
    exact ⟨ρ₂, longer, after, .ok (change ρ₂ a b (later.trans longer) h)⟩
  · rw [eq, eq']
    exact ⟨ρ₂, longer, after, .error e⟩

/-- An action with an answer to every failure. -/
theorem Simulates.tryCatch {answer : Failure → Act σ α} {answer' : Failure → Act σ β}
    (h : Simulates ρ act act' alike)
    (next : ∀ ρ' e, ρ <+: ρ' → Simulates ρ' (answer e) (answer' e) alike) :
    Simulates ρ (tryCatch act answer) (tryCatch act' answer') alike := by
  intro ρ₁ s s' later twins
  rw [outcome_tryCatch, outcome_tryCatch]
  obtain ⟨ρ₂, t, t', longer, after, ⟨a, b, h, eq, eq'⟩ | ⟨e, eq, eq'⟩⟩ := h.ends later twins
  · rw [eq, eq']
    exact ⟨ρ₂, longer, after, .ok h⟩
  · rw [eq, eq']
    obtain ⟨ρ₃, longer', after', ended⟩ :=
      next ρ₂ e (later.trans longer) ρ₂ t t' List.prefix_rfl after
    exact ⟨ρ₃, longer.trans longer', after', ended⟩

theorem rescue_eq_tryCatch {σ : Type} (act : Act σ α) (answer : Failure → Act σ α) :
    act.rescue answer =
      MonadExcept.tryCatch act fun e => if e.isSystem then answer e else throw e := by
  funext s
  change act.rescue answer s = EStateM.tryCatch act _ s
  delta EStateM.tryCatch Act.rescue
  cases act s with
  | ok a t => rfl
  | error e t => by_cases h : e.isSystem <;> simp [h] <;> rfl

/-- An action with an answer to system failures. -/
theorem Simulates.rescue {answer : Failure → Act σ α} {answer' : Failure → Act σ β}
    (h : Simulates ρ act act' alike)
    (next : ∀ ρ' e, ρ <+: ρ' → Simulates ρ' (answer e) (answer' e) alike) :
    Simulates ρ (act.rescue answer) (act'.rescue answer') alike := by
  rw [rescue_eq_tryCatch, rescue_eq_tryCatch]
  refine h.tryCatch fun ρ' e longer => ?_
  split
  · exact next ρ' e longer
  · exact simulates_throw e

/-- An action on a part of the state. -/
theorem Simulates.zoom [Twinned τ] {part part' : σ → τ} {put put' : τ → σ → σ} {act : Act τ α}
    {act' : Act τ β} (h : Simulates ρ act act' alike)
    (parts : ∀ ρ' s s', ρ <+: ρ' → Twins ρ' s s' → Twins ρ' (part s) (part' s'))
    (puts : ∀ ρ₁ ρ₂ s s' t t', ρ <+: ρ₁ → ρ₁ <+: ρ₂ → Twins ρ₁ s s' → Twins ρ₂ t t' →
      Twins ρ₂ (put t s) (put' t' s')) :
    Simulates ρ (act.zoom part put) (act'.zoom part' put') alike := by
  intro ρ₁ s s' later twins
  obtain ⟨ρ₂, longer, after, ended⟩ :=
    h ρ₁ (part s) (part' s') later (parts ρ₁ s s' later twins)
  rw [outcome_zoom, outcome_zoom]
  exact ⟨ρ₂, longer, puts ρ₁ ρ₂ s s' _ _ later longer twins after, ended⟩

/-- An action on the network, on a host. -/
theorem Simulates.onHost {act : Act Network α} {act' : Act Network β}
    (h : Simulates ρ act act' alike) :
    Simulates ρ (liftM act : Act Host α) (liftM act' : Act Host β) alike :=
  h.zoom (fun _ _ _ _ twins => twins.network)
    fun _ _ _ _ _ _ _ _ twins after => ⟨after, twins.givenIds_eq, twins.sharedIds_eq⟩

/-- An action on the host, on something held. -/
theorem Simulates.onHeld [Renumbers τ] {act : Act Host α} {act' : Act Host β}
    (h : Simulates ρ act act' alike) :
    Simulates ρ (liftM act : Act (Held τ) α) (liftM act' : Act (Held τ) β) alike :=
  h.zoom (fun _ _ _ _ twins => twins.host)
    fun _ _ _ _ _ _ _ longer twins after => ⟨twins.own.extend longer, after⟩

/-- An action on a part of what is owned. -/
theorem Simulates.onPart {ω : Type} [Renumbers τ] [Renumbers ω] {part : τ → ω} {put : ω → τ → τ}
    {act : Act (Held ω) α} {act' : Act (Held ω) β} (h : Simulates ρ act act' alike)
    (parts : ∀ ρ' a a', Renamed ρ' a a' → Renamed ρ' (part a) (part a'))
    (puts : ∀ ρ' a a' t t', Renamed ρ' a a' → Renamed ρ' t t' → Renamed ρ' (put t a) (put t' a')) :
    Simulates ρ (Held.zoom part put act) (Held.zoom part put act') alike :=
  h.zoom (fun ρ₁ _ _ _ twins => ⟨parts ρ₁ _ _ twins.own, twins.host⟩)
    fun _ ρ₂ _ _ _ _ _ longer twins after =>
      ⟨puts ρ₂ _ _ _ _ (twins.own.extend longer) after.own, after.host⟩

end Act

open Act (Simulates)

theorem Host.write_simulates {level : Log.Level} {source : Log.Source} {message message' : String} :
    Simulates ρ (Host.write level source message) (Host.write level source message') Same :=
  Act.simulates_modify fun _ _ _ _ twins => ⟨twins.network, twins.givenIds_eq, twins.sharedIds_eq⟩

theorem Host.nextSessionId_simulates (source : IdSource) :
    Simulates ρ (Host.nextSessionId source) (Host.nextSessionId source) Same := by
  refine Act.simulates_get.bind fun ρ₁ host host' _ twins => ?_
  rw [Host.Twins.ids_eq twins source]
  refine (Act.simulates_modify fun _ _ _ _ now => ?_).bind_same fun _ _ _ =>
    Act.simulates_pure_same _
  exact Host.Twins.setIds now source _

-- ════════════════════════════════════════════════════════════════════════
-- Calls
-- ════════════════════════════════════════════════════════════════════════

namespace Network

variable {α : Type}

/-- A call on a connection, and on the one that stands for it. -/
theorem call_simulates {event event' : Option α → Event} {answer : Peer → Except Fault α × Peer}
    (stands : Renamed ρ c c') (used : ∀ r, (event r).used? = some c)
    (events : ∀ ρ', c' = c.renamed ρ' → ∀ r, event' r = (event r).renamed ρ') :
    Simulates ρ (call c event answer) (call c' event' answer) Same := by
  intro ρ₁ net net' later twins
  have fits : c.Fits ρ₁ := (stands.extend later).1
  have eq : c' = c.renamed ρ₁ := (stands.extend later).2
  have peers : net'.peer c' = net.peer c := by
    rw [eq]
    exact Twins.peer_eq twins fits
  have after (r : Option α) (peer : Peer) : Twins ρ₁ ((net.setPeer c peer).record (event r))
      ((net'.setPeer c' peer).record (event' r)) := by
    rw [events ρ₁ eq, eq]
    exact Twins.call twins fits (used r) peer
  refine ⟨ρ₁, List.prefix_rfl, ?_⟩
  unfold Act.outcome call
  rw [peers]
  rcases answer (net.peer c) with ⟨f | a, peer⟩
  · exact ⟨after none peer, .error _⟩
  · exact ⟨after (some a) peer, .ok rfl⟩

theorem setBlocking_simulates (stands : Renamed ρ c c') :
    Simulates ρ (setBlocking c) (setBlocking c') Same :=
  call_simulates stands (fun _ => rfl) fun _ eq _ => eq ▸ rfl

theorem send_simulates (stands : Renamed ρ c c') (data : Bytes) :
    Simulates ρ (send c data) (send c' data) Same :=
  call_simulates stands (fun _ => rfl) fun _ eq _ => eq ▸ rfl

theorem receive_simulates (stands : Renamed ρ c c') (limit : Nat) :
    Simulates ρ (receive c limit) (receive c' limit) Same :=
  call_simulates stands (fun _ => rfl) fun _ eq _ => eq ▸ rfl

theorem receiveInto_simulates (stands : Renamed ρ c c') (limit : Nat) :
    Simulates ρ (receiveInto c limit) (receiveInto c' limit) Same :=
  call_simulates stands (fun _ => rfl) fun _ eq _ => eq ▸ rfl

theorem close_simulates (stands : Renamed ρ c c') : Simulates ρ (close c) (close c') Same :=
  call_simulates stands (fun _ => rfl) fun _ eq _ => eq ▸ rfl

theorem enqueue_simulates {peers : List Peer} (portable : ∀ peer ∈ peers, peer.Portable) :
    Simulates ρ (modify (enqueue peers) : Act Network PUnit) (modify (enqueue peers)) Same := by
  refine Act.simulates_modify fun _ net net' _ twins => ?_
  exact {
    waiting_eq := congrArg (· ++ peers) twins.waiting_eq
    portable := fun peer hp => (List.mem_append.1 hp).elim (twins.portable peer) (portable peer)
    length_eq := twins.length_eq
    peers_eq := twins.peers_eq
    recorded := twins.recorded
    fresh := twins.fresh }

theorem outcome_connect (address : Address) (timeout : Int) (net : Network) :
    Act.outcome (connect address timeout) net =
      match net.nextPeer.connectFault with
      | none =>
        (.ok net.nextId, (net.dropPeer.addConnection net.nextPeer).record
          (.connect address.target timeout (some net.nextId)))
      | some f =>
        (.error (.fault f), net.dropPeer.record (.connect address.target timeout none)) := by
  unfold Act.outcome connect
  cases refused : net.nextPeer.connectFault <;> simp only [refused]

theorem outcome_setTimeout (range : Timeout.Range) (c : ConnectionId) (timeout : Int)
    (net : Network) : Act.outcome (setTimeout range c timeout) net =
      match range.refusal? timeout with
      | none => (.ok (), net.record (.setTimeout c timeout (some ())))
      | some e => (.error e, net.record (.setTimeout c timeout none)) := by
  unfold Act.outcome setTimeout
  cases range.refusal? timeout <;> rfl

theorem outcome_openSocket (made : net.nextPeer.socketFault = none) :
    Act.outcome openSocket net = (.ok net.nextId,
      (net.dropPeer.addConnection net.nextPeer).record (.socket (some net.nextId))) := by
  simp only [Act.outcome, openSocket, made]

/-- A call on a socket that has just been made. -/
theorem outcome_call_dialed (event : Option Unit → Event) (fault? : Peer → Option Fault)
    (timeout : Int) (calls : List Event) (net : Network) :
    Act.outcome (call net.nextId event (Peer.comply fault?)) (net.dialed timeout calls) =
      match fault? net.nextPeer with
      | none => (.ok (), net.dialed timeout (calls ++ [event (some ())]))
      | some f => (.error (.fault f), net.dialed timeout (calls ++ [event none])) := by
  have here : (net.dialed timeout calls).peer net.nextId = net.nextPeer := by
    simp [dialed, peer, nextId]
  have kept : (net.dialed timeout calls).setPeer net.nextId net.nextPeer =
      net.dialed timeout calls := by
    simp [dialed, setPeer, nextId]
  unfold Act.outcome call Peer.comply
  rw [here]
  cases fault? net.nextPeer <;> simp only [kept] <;> simp [record, dialed]

end Network

-- ════════════════════════════════════════════════════════════════════════
-- Reaching an address
-- ════════════════════════════════════════════════════════════════════════

theorem Act.outcome_onHost {α : Type} (act : Act Network α) (host : Host) :
    Act.outcome (liftM act : Act Host α) host = ((Act.outcome act host.network).1,
      { host with network := (Act.outcome act host.network).2 }) :=
  Act.outcome_zoom ..

theorem Act.outcome_onHeld {σ α : Type} (act : Act Host α) (held : Held σ) :
    Act.outcome (liftM act : Act (Held σ) α) held =
      ((Act.outcome act held.host).1, { held with host := (Act.outcome act held.host).2 }) :=
  Act.outcome_zoom ..

theorem Host.outcome_write (level : Log.Level) (source : Log.Source) (message : String)
    (host : Host) :
    Act.outcome (Host.write level source message) host =
      (.ok (), host.logged ⟨level, source, message⟩) := rfl

namespace Dialer

variable {range : Timeout.Range} {address : Address} {timeout : Int} {host : Host}

theorem outcome_dialSocket (settable : Timeout.Settable range timeout)
    (made : host.network.nextPeer.socketFault = none) :
    Act.outcome (dialSocket range address timeout) host =
      Act.outcome (do
        Act.rescue
          (liftM (Network.connectSocket host.network.nextId address.socketName) : Act Host Unit)
          fun cause => do
            Host.write .debug .dialer s!"Close {host.network.nextId.descriptor}"
            Network.close host.network.nextId
            throw (.cannotConnect address.target cause)
        pure host.network.nextId)
        { host with network := host.network.dialed timeout [] } := by
  have set : ((host.network.dropPeer.addConnection host.network.nextPeer).record
      (.socket (some host.network.nextId))).record
        (.setTimeout host.network.nextId timeout (some ())) =
        host.network.dialed timeout [] := by
    simp [Network.dialed, Network.record, Network.addConnection, Network.dropPeer]
  unfold dialSocket
  rw [Act.outcome_bind, Act.outcome_rescue, Act.outcome_onHost, Network.outcome_openSocket made]
  simp only [settable.1, not_true_eq_false, if_false]
  rw [Act.outcome_bind, Act.outcome_onHost, Network.outcome_setTimeout, settable.2, ← set]

theorem dialSocket_accepted (settable : Timeout.Settable range timeout)
    (made : host.network.nextPeer.socketFault = none)
    (accepted : host.network.nextPeer.connectFault = none) :
    Act.outcome (dialSocket range address timeout) host = (.ok host.network.nextId, { host with
      network := host.network.dialed timeout
        [.connectSocket host.network.nextId address.socketName (some ())] }) := by
  rw [outcome_dialSocket settable made, Act.outcome_bind, Act.outcome_rescue, Act.outcome_onHost,
    Network.connectSocket, Network.outcome_call_dialed]
  simp only [accepted]
  rfl

/-- A socket that was refused by the system is closed. -/
theorem dialSocket_refused (address : Address) (settable : Timeout.Settable range timeout)
    (portable : host.network.nextPeer.Portable) {f : Fault}
    (refused : host.network.nextPeer.connectFault = some f) :
    ∃ log closes, (closes = [] ∨ closes = [.close host.network.nextId (some ())]) ∧
      Act.outcome (dialSocket range address timeout) host =
        (.error (if (Failure.fault f).isSystem then .cannotConnect address.target (.fault f)
            else .fault f),
          { host with
            network := host.network.dialed timeout
              (.connectSocket host.network.nextId address.socketName none :: closes)
            log }) := by
  rw [outcome_dialSocket settable portable.socketFault_eq, Act.outcome_bind, Act.outcome_rescue,
    Act.outcome_onHost, Network.connectSocket, Network.outcome_call_dialed]
  simp only [refused]
  by_cases system : (Failure.fault f).isSystem = true
  · have closed := Network.outcome_call_dialed (.close host.network.nextId) Peer.closeFault timeout
      [.connectSocket host.network.nextId address.socketName none] host.network
    simp only [portable.closeFault_eq refused] at closed
    refine ⟨host.log ++ [⟨.debug, .dialer, s!"Close {host.network.nextId.descriptor}"⟩],
      [.close host.network.nextId (some ())], .inr rfl, ?_⟩
    rw [if_pos system, if_pos system]
    simp only [Act.outcome_bind, Act.outcome_onHost, Host.outcome_write, Host.logged, Network.close,
      List.nil_append, closed]
    rfl
  · rw [if_neg system, if_neg system]
    exact ⟨host.log, [], .inl rfl, rfl⟩

end Dialer

theorem outcome_reach (dialer : Dialer) (address : Address) (timeout : Int) (host : Host) :
    Act.outcome (reach dialer address timeout) host =
      ((Act.outcome (dialer.dial address timeout) host).1.mapError (unreached address),
        (Act.outcome (dialer.dial address timeout) host).2) := by
  unfold reach
  rw [Act.outcome_rescue]
  rcases Act.outcome (dialer.dial address timeout) host with ⟨e | c, after⟩
  · show _ = (Except.error (unreached address e), after)
    by_cases system : e.isSystem = true
    · by_cases unreachable : e.isUnreachable = true
      · simp only [system, unreachable, if_true, unreached]
        rfl
      · simp only [system, unreachable, if_true, unreached]
        rfl
    · simp only [system, unreached]
      rfl
  · rfl

/-- A refusal by the system is reported as a failed connect to the address, wherever that is
done. -/
theorem unreached_of_refused {f : Fault} (address : Address)
    (reachable : (Failure.fault f).isUnreachable = false) :
    unreached address (if (Failure.fault f).isSystem then .cannotConnect address.target (.fault f)
      else .fault f) = unreached address (.fault f) := by
  by_cases system : (Failure.fault f).isSystem = true
  · simp only [unreached, system, reachable]
    rfl
  · rw [if_neg system]

/-- A refused connect is reported in both ways as a failed connect to the address. -/
theorem reach_refused (dialer : Dialer) (address : Address) {timeout : Int} {host : Host}
    {f : Fault} (takes : dialer.Takes timeout)
    (portable : host.network.nextPeer.Portable)
    (refused : host.network.nextPeer.connectFault = some f) :
    (Act.outcome (reach dialer address timeout) host).1 =
      .error (unreached address (.fault f)) := by
  rw [outcome_reach]
  cases dialer with
  | direct =>
    simp only [Dialer.dial, Act.outcome_onHost, Network.outcome_connect, refused]
    rfl
  | socket range =>
    obtain ⟨_, _, -, ended⟩ := Dialer.dialSocket_refused address takes portable refused
    simp only [Dialer.dial, ended]
    exact congrArg Except.error
      (unreached_of_refused address (portable.not_isUnreachable refused))

/-- A connection to an address, made in the two ways. -/
theorem reach_simulates {range : Timeout.Range} (address : Address) {timeout : Int}
    (settable : Timeout.Settable range timeout) :
    Simulates ρ (reach .direct address timeout) (reach (.socket range) address timeout)
      Renamed := by
  intro ρ₁ host host' later twins
  have net : Network.Twins ρ₁ host.network host'.network := twins.network
  have portable : host'.network.nextPeer.Portable := net.nextPeer_eq ▸ net.portable_nextPeer
  rw [outcome_reach, outcome_reach]
  simp only [Dialer.dial, Act.outcome_onHost, Network.outcome_connect]
  cases refused : host.network.nextPeer.connectFault with
  | none =>
    have accepted : host'.network.nextPeer.connectFault = none := net.nextPeer_eq ▸ refused
    have after := net.connected address.target timeout address.socketName
    rw [Dialer.dialSocket_accepted settable portable.socketFault_eq accepted]
    refine ⟨ρ₁ ++ [host'.network.nextId], List.prefix_append .., ?_, .ok ?_⟩
    · exact ⟨after, twins.givenIds_eq, twins.sharedIds_eq⟩
    · rw [show host.network.nextId = ⟨ρ₁.length⟩ from congrArg ConnectionId.mk net.length_eq]
      exact ⟨ConnectionId.fits_concat .., (ConnectionId.renamed_concat ..).symm⟩
  | some f =>
    have refused' : host'.network.nextPeer.connectFault = some f := net.nextPeer_eq ▸ refused
    obtain ⟨log, closes, gone, ended⟩ :=
      Dialer.dialSocket_refused address settable portable refused'
    have after := net.refused address.target timeout address.socketName gone
    rw [ended]
    refine ⟨ρ₁, List.prefix_rfl, ⟨after, twins.givenIds_eq, twins.sharedIds_eq⟩, ?_⟩
    show Akin _ (.error (unreached address (.fault f))) (.error (unreached address _))
    rw [unreached_of_refused address (portable.not_isUnreachable refused')]
    exact .error _

end SessionStream
