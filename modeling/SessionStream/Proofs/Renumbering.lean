import SessionStream.Proofs.Dialogue

/-!
# Records with other numbers

Two runs that make their connections in different ways number them differently: a socket that could
not be connected takes a number, too. This file says how the records of two such runs go together,
where the connections of one run stand for those of the other in the order in which they were
connected.

## Main definitions

- `Renumbering` — which connection stands for which one
- `Renumbers` — what has connections in it, and the same with other numbers
- `Recorded` — two records that go together
- `connected`, `usesOn` — the connections of a record, and the calls that use one of them

## Main results

- `Recorded.usesOn_eq` — a connection is used like the one that it stands for
-/

namespace SessionStream

variable {c k : ConnectionId} {es trace trace' : List Event}

/-- The connections of one run, in the order of those of another run that they stand for. -/
abbrev Renumbering := List ConnectionId

variable {ρ ρ' : Renumbering}

/-- What has connections in it. With more connections, the numbers of those that there were before
stay the same. -/
class Renumbers (σ : Type) where
  /-- The same, with the other numbers. -/
  renamed : Renumbering → σ → σ
  /-- All connections in it have another number. -/
  Fits : Renumbering → σ → Prop
  fits_extend {ρ ρ' : Renumbering} {a : σ} (longer : ρ <+: ρ') (fits : Fits ρ a) : Fits ρ' a
  renamed_extend {ρ ρ' : Renumbering} {a : σ} (longer : ρ <+: ρ') (fits : Fits ρ a) :
    renamed ρ' a = renamed ρ a

namespace ConnectionId

/-- The connection that stands for another one. -/
def renamed (ρ : Renumbering) (c : ConnectionId) : ConnectionId :=
  ρ.getD c.index c

/-- There is a connection that stands for this one. -/
def Fits (ρ : Renumbering) (c : ConnectionId) : Prop :=
  c.index < ρ.length

theorem Fits.getElem? (h : c.Fits ρ) : ρ[c.index]? = some (c.renamed ρ) := by
  simp [renamed, List.getElem?_eq_getElem h]

theorem Fits.renamed_mem (h : c.Fits ρ) : c.renamed ρ ∈ ρ :=
  List.mem_of_getElem? h.getElem?

theorem Fits.extend (h : c.Fits ρ) (longer : ρ <+: ρ') : c.Fits ρ' :=
  Nat.lt_of_lt_of_le h longer.length_le

theorem Fits.renamed_extend (h : c.Fits ρ) (longer : ρ <+: ρ') : c.renamed ρ' = c.renamed ρ := by
  obtain ⟨rest, rfl⟩ := longer
  have same := h.getElem?
  rw [← List.getElem?_append_left h, (h.extend ⟨rest, rfl⟩).getElem?] at same
  exact Option.some.inj same

/-- Different connections stand for different ones. -/
theorem Fits.renamed_inj (h : c.Fits ρ) (h' : k.Fits ρ) (nodup : ρ.Nodup)
    (same : c.renamed ρ = k.renamed ρ) : c = k := by
  have eq := h.getElem?.trans ((congrArg some same).trans h'.getElem?.symm)
  exact congrArg mk ((List.getElem?_inj h nodup).1 eq)

theorem renamed_concat (ρ : Renumbering) (k : ConnectionId) :
    renamed (ρ ++ [k]) ⟨ρ.length⟩ = k := by
  simp [renamed]

theorem fits_concat (ρ : Renumbering) (k : ConnectionId) : Fits (ρ ++ [k]) ⟨ρ.length⟩ := by
  simp [Fits]

instance : Renumbers ConnectionId :=
  ⟨renamed, Fits, fun longer h => h.extend longer, fun longer h => h.renamed_extend longer⟩

end ConnectionId

-- ════════════════════════════════════════════════════════════════════════
-- Uses
-- ════════════════════════════════════════════════════════════════════════

/-- The connection that a call has made ready for use: by one call, or by connecting its socket. -/
def Event.connected? : Event → Option ConnectionId
  | .connect _ _ result => result
  | .connectSocket c _ (some _) => some c
  | _ => none

/-- The connection that a call uses. -/
def Event.used? : Event → Option ConnectionId
  | .setBlocking c _ => some c
  | .send c _ _ => some c
  | .receive c _ _ => some c
  | .receiveInto c _ _ => some c
  | .close c _ => some c
  | _ => none

/-- A call that uses a connection, on the one that stands for it. -/
def Event.renamed (ρ : Renumbering) : Event → Event
  | .setBlocking c result => .setBlocking (c.renamed ρ) result
  | .send c offered result => .send (c.renamed ρ) offered result
  | .receive c limit result => .receive (c.renamed ρ) limit result
  | .receiveInto c limit result => .receiveInto (c.renamed ρ) limit result
  | .close c result => .close (c.renamed ρ) result
  | e => e

/-- The connections of a record that got connected, in this order. -/
def connected (es : List Event) : List ConnectionId :=
  es.filterMap Event.connected?

/-- The calls that use a connection. -/
def usesOn (c : ConnectionId) (es : List Event) : List Event :=
  es.filter (·.used? = some c)

theorem Event.target?_of_used? {e : Event} (h : e.used? = some c) : e.target? = some c := by
  cases e <;> simp_all [Event.used?, Event.target?]

theorem Event.used?_renamed (ρ : Renumbering) (e : Event) :
    (e.renamed ρ).used? = e.used?.map (ConnectionId.renamed ρ) := by
  cases e <;> rfl

theorem Event.renamed_extend {e : Event} (used : e.used? = some c) (fits : c.Fits ρ)
    (longer : ρ <+: ρ') : e.renamed ρ' = e.renamed ρ := by
  cases e <;> simp_all [Event.used?, Event.renamed, fits.renamed_extend longer]

@[simp] theorem connected_append (es fs : List Event) :
    connected (es ++ fs) = connected es ++ connected fs :=
  List.filterMap_append

@[simp] theorem usesOn_append (c : ConnectionId) (es fs : List Event) :
    usesOn c (es ++ fs) = usesOn c es ++ usesOn c fs :=
  List.filter_append ..

theorem usesOn_eq_nil (h : ∀ e ∈ es, e.used? ≠ some c) : usesOn c es = [] :=
  List.filter_eq_nil_iff.2 fun e he => by simpa using h e he

theorem Untouched.usesOn_eq_nil (h : Untouched c es) : usesOn c es = [] :=
  SessionStream.usesOn_eq_nil fun e he used => h e he (Event.target?_of_used? used)

-- ════════════════════════════════════════════════════════════════════════
-- Records that go together
-- ════════════════════════════════════════════════════════════════════════

/-- Two records that go together: one with connections made in one call, and one with connections
made by way of sockets. A socket that was refused stands for nothing. -/
inductive Recorded : Renumbering → List Event → List Event → Prop
  | nothing : Recorded [] [] []
  | used {ρ : Renumbering} {trace trace' : List Event} {e : Event} {c : ConnectionId}
      (before : Recorded ρ trace trace') (used : e.used? = some c) (fits : c.Fits ρ) :
      Recorded ρ (trace ++ [e]) (trace' ++ [e.renamed ρ])
  | connected {ρ : Renumbering} {trace trace' : List Event} {c : ConnectionId} {target : String}
      {timeout : Int} {name : SocketName} (before : Recorded ρ trace trace')
      (fresh : Untouched c trace') :
      Recorded (ρ ++ [c]) (trace ++ [.connect target timeout (some ⟨ρ.length⟩)])
        (trace' ++ [.socket (some c), .setTimeout c timeout (some ()),
          .connectSocket c name (some ())])
  | refused {ρ : Renumbering} {trace trace' closes : List Event} {c : ConnectionId}
      {target : String} {timeout : Int} {name : SocketName} (before : Recorded ρ trace trace')
      (fresh : Untouched c trace') (gone : closes = [] ∨ closes = [.close c (some ())]) :
      Recorded ρ (trace ++ [.connect target timeout none]) (trace' ++
        ([.socket (some c), .setTimeout c timeout (some ()), .connectSocket c name none] ++
          closes))

namespace Recorded

theorem fits (h : Recorded ρ trace trace') : ∀ e ∈ trace, ∀ c, e.used? = some c → c.Fits ρ := by
  induction h with
  | nothing => exact nofun
  | @used _ _ _ e c _ used fits ih =>
    intro e' he c' used'
    rcases List.mem_append.1 he with old | new
    · exact ih e' old c' used'
    · obtain rfl := List.mem_singleton.1 new
      exact Option.some.inj (used.symm.trans used') ▸ fits
  | connected _ _ ih =>
    intro e' he c' used'
    rcases List.mem_append.1 he with old | new
    · exact (ih e' old c' used').extend (List.prefix_append ..)
    · rw [List.mem_singleton.1 new] at used'
      cases used'
  | refused _ _ _ ih =>
    intro e' he c' used'
    rcases List.mem_append.1 he with old | new
    · exact ih e' old c' used'
    · rw [List.mem_singleton.1 new] at used'
      cases used'

/-- A connection that stands for another one is on record. -/
theorem touched (h : Recorded ρ trace trace') : ∀ c ∈ ρ, ¬Untouched c trace' := by
  have grown : ∀ {c : ConnectionId} {es fs : List Event}, ¬Untouched c es →
      ¬Untouched c (es ++ fs) :=
    fun touched untouched => touched fun e he => untouched e (List.mem_append_left _ he)
  induction h with
  | nothing => exact nofun
  | used _ _ _ ih => exact fun c hc => grown (ih c hc)
  | @connected _ _ trace' c _ timeout name _ _ ih =>
    intro c' hc
    rcases List.mem_append.1 hc with old | new
    · exact grown (ih c' old)
    · obtain rfl := List.mem_singleton.1 new
      exact fun untouched => untouched (.socket (some c')) (by simp) rfl
  | refused _ _ _ ih => exact fun c hc => grown (ih c hc)

theorem nodup (h : Recorded ρ trace trace') : ρ.Nodup := by
  induction h with
  | nothing => exact .nil
  | used _ _ _ ih => exact ih
  | connected before fresh ih =>
    refine List.nodup_append.2 ⟨ih, by simp, fun c hc c' hc' same => ?_⟩
    rw [List.mem_singleton.1 hc'] at same
    exact before.touched c hc (same ▸ fresh)
  | refused _ _ _ ih => exact ih

/-- Connections got connected in the order in which they stand for one another. -/
theorem connected_eq (h : Recorded ρ trace trace') :
    SessionStream.connected trace = (List.range ρ.length).map ConnectionId.mk ∧
      SessionStream.connected trace' = ρ := by
  induction h with
  | nothing => exact ⟨rfl, rfl⟩
  | @used ρ _ _ e _ _ used _ ih =>
    have neither : e.connected? = none ∧ (e.renamed ρ).connected? = none := by
      cases e <;> first | exact ⟨rfl, rfl⟩ | cases used
    rw [connected_append, connected_append, ih.1, ih.2]
    simp [SessionStream.connected, neither.1, neither.2]
  | connected _ _ ih =>
    constructor
    · rw [connected_append, ih.1, List.length_append, List.length_singleton, List.range_succ,
        List.map_append]
      rfl
    · rw [connected_append, ih.2]
      rfl
  | refused _ _ gone ih =>
    constructor
    · rw [connected_append, ih.1]
      exact List.append_nil _
    · rw [connected_append, ih.2]
      rcases gone with rfl | rfl <;> exact List.append_nil _

/-- A connection is used like the one that it stands for. -/
theorem usesOn_eq (h : Recorded ρ trace trace') (hc : c.Fits ρ) :
    usesOn (c.renamed ρ) trace' = (usesOn c trace).map (Event.renamed ρ) := by
  induction h with
  | nothing => exact absurd hc (Nat.not_lt_zero _)
  | @used ρ _ _ e k before used fits ih =>
    have here : (e.renamed ρ).used? = some (c.renamed ρ) ↔ e.used? = some c := by
      rw [Event.used?_renamed, used, Option.map_some, Option.some.injEq, Option.some.injEq]
      exact ⟨fits.renamed_inj hc before.nodup, congrArg _⟩
    rw [usesOn_append, usesOn_append, ih hc, List.map_append]
    congr 1
    by_cases same : e.used? = some c
    · simp [usesOn, here.2 same, same]
    · simp [usesOn, mt here.1 same, same]
  | @connected ρ trace trace' k target timeout name before fresh ih =>
    have longer : ρ <+: ρ ++ [k] := List.prefix_append ..
    have idle : ∀ d, usesOn d [.connect target timeout (some ⟨ρ.length⟩)] = [] ∧
        usesOn d [.socket (some k), .setTimeout k timeout (some ()),
          .connectSocket k name (some ())] = [] :=
      fun d => ⟨rfl, rfl⟩
    rw [usesOn_append, usesOn_append, (idle _).1, (idle _).2, List.append_nil, List.append_nil]
    by_cases old : c.Fits ρ
    · rw [old.renamed_extend longer, ih old]
      refine List.map_congr_left fun e he => ?_
      have used := of_decide_eq_true (List.mem_filter.1 he).2
      exact (Event.renamed_extend used old longer).symm
    · have last : c = ⟨ρ.length⟩ := by
        simp only [ConnectionId.Fits, List.length_append, List.length_singleton] at hc old
        exact congrArg ConnectionId.mk (show c.index = ρ.length by omega)
      rw [SessionStream.usesOn_eq_nil fun e he used => old (before.fits e he c used), last,
        ConnectionId.renamed_concat, fresh.usesOn_eq_nil]
      rfl
  | @refused ρ trace trace' closes k target timeout name before fresh gone ih =>
    have other : c.renamed ρ ≠ k := fun same => before.touched _ hc.renamed_mem (same ▸ fresh)
    have idle : usesOn (c.renamed ρ) ([.socket (some k), .setTimeout k timeout (some ()),
        .connectSocket k name none] ++ closes) = [] := by
      rcases gone with rfl | rfl <;> simp [usesOn, Event.used?, Ne.symm other]
    rw [usesOn_append c, show usesOn c [.connect target timeout none] = [] from rfl,
      List.append_nil, ← ih hc, usesOn_append _ trace', idle, List.append_nil]

end Recorded

end SessionStream
