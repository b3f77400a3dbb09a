import SessionStream.Proofs.Simulation
import SessionStream.Proofs.StreamLife

/-!
# Operations side by side

What a stream does on connections that were each made in one call, it does on sockets just as well:
every part of it is followed by itself, on connections that stand for those of the other run.

## Main definitions

- `Sockets` — the sockets of the other run
- `Settings.via` — the same settings, with another way to connect
- `Link.renamed`, `ByteStream.renamed` — the same stream in the other run

## Main results

- `Session.join_simulates` — a connection bound to a session
- `ByteStream.connect_simulates`, `ByteStream.whileOpen_simulates`, `ByteStream.close_simulates` —
  the operations of a stream
-/

namespace SessionStream

open Act (Simulates)
open Twinned (Twins)

variable {ρ ρ' : Renumbering} {c c' : ConnectionId}

-- ════════════════════════════════════════════════════════════════════════
-- Lines
-- ════════════════════════════════════════════════════════════════════════

namespace Wire

theorem transmit_simulates (stands : Renamed ρ c c') (data : Bytes) :
    Simulates ρ (transmit c data) (transmit c' data) Same := by
  induction data using transmit.induct generalizing ρ with
  | case1 =>
    rw [transmit, transmit]
    exact Act.simulates_pure_same _
  | case2 b later ih =>
    rw [transmit, transmit]
    refine (Network.send_simulates stands _).bind_same fun ρ₁ count longer => ?_
    cases count with
    | zero => exact Act.simulates_throw _
    | succ count => exact ih count (stands.extend longer)

theorem receiveLine_simulates (stands : Renamed ρ c c') (limit : Int) (room : Nat) (line : Bytes) :
    Simulates ρ (receiveLine c limit room line) (receiveLine c' limit room line) Same := by
  induction room generalizing ρ line with
  | zero => exact Act.simulates_throw _
  | succ room ih =>
    refine (Network.receive_simulates stands 1).bind_same fun ρ₁ bytes longer => ?_
    cases bytes with
    | nil => exact Act.simulates_throw _
    | cons b _ =>
      dsimp only
      split
      · exact Act.simulates_pure_same _
      · exact ih (stands.extend longer) _

theorem receiveReply_simulates (stands : Renamed ρ c c') (limit : Int) :
    Simulates ρ (receiveReply c limit) (receiveReply c' limit) Same :=
  (receiveLine_simulates stands limit _ _).bind_same fun _ _ _ => Act.simulates_pure_same _

end Wire

-- ════════════════════════════════════════════════════════════════════════
-- Joining a session
-- ════════════════════════════════════════════════════════════════════════

/-- The sockets of the other run, as far as it matters which timeouts they take. All of them take
the same ones. -/
class Sockets where
  range : Timeout.Range

/-- A session has no connections in it. -/
instance : Renumbers Session where
  renamed _ session := session
  Fits _ _ := True
  fits_extend _ _ := trivial
  renamed_extend _ _ := rfl

theorem orGiveUp_simulates (stands : Renamed ρ c c') (step : String) {act act' : Act Host Unit}
    (h : Simulates ρ act act' Same) :
    Simulates ρ (orGiveUp c step act) (orGiveUp c' step act') Same := by
  refine h.rescue fun ρ₁ e longer => ?_
  refine Host.write_simulates.bind_same fun ρ₂ _ longer' => ?_
  refine Simulates.bind_same ?_ fun _ _ _ => Act.simulates_throw e
  exact (Network.close_simulates (stands.extend (longer.trans longer'))).onHost

theorem locate_simulates (target : Word) : Simulates ρ (locate target) (locate target) Same := by
  refine (Act.simulates_ofExcept _).bind_same fun _ address _ => ?_
  refine Host.write_simulates.bind_same fun _ _ _ => ?_
  split
  · exact Host.write_simulates.bind_same fun _ _ _ => Act.simulates_pure_same _
  · exact Act.simulates_pure_same _

namespace Session

theorem introduction_simulates (source : IdSource) :
    Simulates ρ (introduction source) (introduction source) Same := by
  refine Act.simulates_get.bind fun ρ₁ held held' _ twins => ?_
  have same : held'.own = held.own := twins.own.2
  rw [same]
  generalize held.own = session
  dsimp only
  cases session.id with
  | some id =>
    refine (Act.simulates_ofExcept _).bind_same fun _ _ _ => ?_
    exact Host.write_simulates.onHeld.bind_same fun _ _ _ => Act.simulates_pure_same _
  | none =>
    refine (Host.nextSessionId_simulates source).onHeld.bind_same fun _ id _ => ?_
    refine Simulates.bind_same (Act.simulates_modify fun _ _ _ _ now => ?_) fun _ _ _ => ?_
    · exact ⟨⟨trivial, rfl⟩, now.host⟩
    refine (Act.simulates_ofExcept _).bind_same fun _ _ _ => ?_
    exact Host.write_simulates.onHeld.bind_same fun _ _ _ => Act.simulates_pure_same _

variable [Sockets]

/-- A connection bound to a session, made in the two ways. -/
theorem join_simulates {route : Route} (direct : route.dialer = .direct) (address : Address)
    {timeout : Int} (settable : Timeout.Settable Sockets.range timeout) :
    Simulates ρ (join route address timeout)
      (join { route with dialer := .socket Sockets.range } address timeout) Renamed := by
  unfold join
  rw [direct]
  refine Host.write_simulates.onHeld.bind_same fun _ _ _ => ?_
  refine (reach_simulates address settable).onHeld.bind fun ρ₁ c c' _ stands => ?_
  refine Simulates.bind_same
    (orGiveUp_simulates stands _ (Network.setBlocking_simulates stands).onHost).onHeld
    fun ρ₂ _ longer => ?_
  refine (introduction_simulates route.ids).bind_same fun ρ₃ command longer' => ?_
  have stands := stands.extend (longer.trans longer')
  refine Simulates.bind_same
    (orGiveUp_simulates stands _ (Wire.transmit_simulates stands _).onHost).onHeld
    fun ρ₄ _ longer'' => ?_
  exact Host.write_simulates.onHeld.bind_same fun _ _ later =>
    Act.simulates_pure_renamed (stands.extend (longer''.trans later))

end Session

-- ════════════════════════════════════════════════════════════════════════
-- Open streams
-- ════════════════════════════════════════════════════════════════════════

variable [Sockets]

/-- The same settings, with another way to connect. -/
def Settings.via (dialer : Dialer) (settings : Settings) : Settings :=
  { settings with route := { settings.route with dialer } }

/-- Connections are made in one call, with a timeout that a socket could get as well. -/
structure Settings.Direct (settings : Settings) : Prop where
  dialer_eq : settings.route.dialer = .direct
  settable : Timeout.Settable Sockets.range settings.timeout.effective

namespace Link

/-- The same link in a run whose sockets take these timeouts. -/
def renamed (range : Timeout.Range) (ρ : Renumbering) (link : Link) : Link :=
  { link with
    settings := link.settings.via (.socket range)
    control := link.control.renamed ρ
    data := link.data.map (ConnectionId.renamed ρ) }

/-- A link of the one run, with connections that others stand for. -/
structure Fits (ρ : Renumbering) (link : Link) : Prop where
  settings : link.settings.Direct
  control : link.control.Fits ρ
  data : ∀ c ∈ link.data, c.Fits ρ

variable {link link' : Link}

theorem Fits.extend (h : link.Fits ρ) (longer : ρ <+: ρ') : link.Fits ρ' :=
  ⟨h.settings, h.control.extend longer, fun c hc => (h.data c hc).extend longer⟩

theorem Fits.renamed_extend (h : link.Fits ρ) (longer : ρ <+: ρ') :
    link.renamed Sockets.range ρ' = link.renamed Sockets.range ρ := by
  have data : link.data.map (ConnectionId.renamed ρ') = link.data.map (ConnectionId.renamed ρ) :=
    Option.map_congr fun c hc => (h.data c hc).renamed_extend longer
  simp only [renamed, h.control.renamed_extend longer, data]

instance : Renumbers Link :=
  ⟨renamed Sockets.range, Fits, fun longer h => h.extend longer,
    fun longer h => h.renamed_extend longer⟩

theorem renamed_control (stands : Renamed ρ link link') : Renamed ρ link.control link'.control :=
  ⟨stands.1.control, congrArg control stands.2⟩

/-- The data connection of a link, if it has one, has one that stands for it. -/
theorem renamed_data (stands : Renamed ρ link link') :
    link.data = none ∧ link'.data = none ∨
      ∃ c c', link.data = some c ∧ link'.data = some c' ∧ Renamed ρ c c' := by
  have data : link'.data = link.data.map (ConnectionId.renamed ρ) := congrArg Link.data stands.2
  cases here : link.data with
  | none =>
    rw [here] at data
    exact .inl ⟨rfl, data⟩
  | some c =>
    rw [here] at data
    exact .inr ⟨c, c.renamed ρ, rfl, data, stands.1.data c here, rfl⟩

theorem congr_of_renamed {β : Type} (part : Link → β)
    (kept : ∀ ρ link, part (renamed Sockets.range ρ link) = part link)
    (stands : Renamed ρ link link') : part link' = part link :=
  (congrArg part stands.2).trans (kept ρ link)

theorem update_simulates {f f' : Link → Link}
    (h : ∀ ρ' link link', ρ <+: ρ' → Renamed ρ' link link' → Renamed ρ' (f link) (f' link')) :
    Simulates ρ (update f) (update f') Same :=
  Act.simulates_modify fun ρ₁ _ _ longer twins => ⟨h ρ₁ _ _ longer twins.own, twins.host⟩

/-- A change that leaves settings and connections alone. -/
theorem update_self_simulates {f : Link → Link}
    (fits : ∀ ρ link, Fits ρ link → Fits ρ (f link))
    (kept : ∀ ρ link, f (renamed Sockets.range ρ link) = renamed Sockets.range ρ (f link)) :
    Simulates ρ (update f) (update f) Same :=
  update_simulates fun ρ₁ link _ _ stands =>
    ⟨fits ρ₁ link stands.1, (congrArg f stands.2).trans (kept ρ₁ link)⟩

theorem note_simulates {level : Log.Level} {message message' : String} :
    Simulates ρ (note level message) (note level message') Same :=
  Host.write_simulates.onHeld

theorem requireUsable_simulates : Simulates ρ requireUsable requireUsable Same := by
  refine Act.simulates_get.bind fun ρ₁ held held' _ twins => ?_
  rw [congr_of_renamed outOfStep (fun _ _ => rfl) twins.own]
  cases held.own.outOfStep with
  | none => exact Act.simulates_pure_same _
  | some cause => exact Act.simulates_throw _

theorem requireDirection_simulates (wanted : Direction) (complaint : String) :
    Simulates ρ (requireDirection wanted complaint) (requireDirection wanted complaint) Same := by
  refine Act.simulates_get.bind fun ρ₁ held held' _ twins => ?_
  dsimp only
  rw [congr_of_renamed session (fun _ _ => rfl) twins.own]
  split
  · exact note_simulates.bind_same fun _ _ _ => Act.simulates_throw _
  · exact Act.simulates_pure_same _

theorem fallOutOfStep_simulates {α : Type} (cause : Failure) :
    Simulates ρ (fallOutOfStep cause : Act (Held Link) α) (fallOutOfStep cause) Same := by
  refine Act.simulates_get.bind fun ρ₁ held held' _ _ => ?_
  refine note_simulates.bind_same fun _ _ _ => ?_
  exact Simulates.bind_same
    (update_self_simulates (fun _ _ fits => ⟨fits.settings, fits.control, fits.data⟩)
      fun _ _ => rfl)
    fun _ _ _ => Act.simulates_throw _

theorem say_simulates (command : Command) : Simulates ρ (say command) (say command) Same := by
  refine Act.simulates_get.bind fun ρ₁ held held' _ twins => ?_
  exact (Wire.transmit_simulates (renamed_control twins.own) _).onHost.onHeld

theorem hear_simulates : Simulates ρ hear hear Same := by
  refine Act.simulates_get.bind fun ρ₁ held held' _ twins => ?_
  refine Simulates.tryCatch
    (Wire.receiveReply_simulates (renamed_control twins.own) _).onHost.onHeld fun _ e _ => ?_
  split
  · exact fallOutOfStep_simulates _
  · exact Act.simulates_throw _

theorem announce_simulates : Simulates ρ announce announce Same := by
  refine Act.simulates_get.bind fun ρ₁ held held' _ twins => ?_
  dsimp only
  rw [congr_of_renamed session (fun _ _ => rfl) twins.own,
    congr_of_renamed position (fun _ _ => rfl) twins.own]
  refine (Act.simulates_ofExcept _).bind_same fun _ _ _ => ?_
  refine note_simulates.bind_same fun _ _ _ => ?_
  refine (say_simulates _).bind_same fun _ _ _ => ?_
  refine hear_simulates.bind_same fun _ reply _ => ?_
  split
  · exact Act.simulates_pure_same _
  · exact note_simulates.bind_same fun _ _ _ => fallOutOfStep_simulates _

theorem newConnection_simulates : Simulates ρ newConnection newConnection Renamed := by
  refine Act.simulates_get.bind fun ρ₁ held held' _ twins => ?_
  have settings : held'.own.settings = held.own.settings.via (.socket Sockets.range) :=
    congrArg Link.settings twins.own.2
  have direct := twins.own.1.settings
  dsimp only
  rw [settings, congr_of_renamed address (fun _ _ => rfl) twins.own]
  refine Simulates.onPart (Session.join_simulates direct.dialer_eq _ direct.settable) ?_ ?_
  · exact fun _ _ _ here => ⟨trivial, congr_of_renamed session (fun _ _ => rfl) here⟩
  · rintro ρ₂ link _ session _ ⟨fits, rfl⟩ ⟨-, rfl⟩
    exact ⟨⟨fits.settings, fits.control, fits.data⟩, rfl⟩

theorem dataConnection_simulates : Simulates ρ dataConnection dataConnection Renamed := by
  refine Act.simulates_get.bind fun ρ₁ held held' _ twins => ?_
  rcases renamed_data twins.own with ⟨none, none'⟩ | ⟨c, c', here, here', stands⟩
  · rw [none, none']
    refine announce_simulates.bind_same fun _ _ _ => ?_
    refine newConnection_simulates.bind fun ρ₂ c c' _ stands => ?_
    refine Simulates.bind_same (update_simulates fun ρ₃ link link' longer here => ?_)
      fun ρ₃ _ longer => Act.simulates_pure_renamed (stands.extend longer)
    have stands := stands.extend longer
    refine ⟨⟨here.1.settings, here.1.control, fun k hk => Option.some.inj hk ▸ stands.1⟩, ?_⟩
    rw [here.2, stands.2]
    rfl
  · rw [here, here']
    exact Act.simulates_pure_renamed stands

theorem receive_simulates (limit : Nat) : Simulates ρ (receive limit) (receive limit) Same := by
  refine requireUsable_simulates.bind_same fun _ _ _ => ?_
  refine (requireDirection_simulates _ _).bind_same fun _ _ _ => ?_
  refine dataConnection_simulates.bind fun ρ₁ c c' _ stands => ?_
  refine (Network.receiveInto_simulates stands limit).onHost.onHeld.bind_same fun ρ₂ bytes _ => ?_
  split
  · exact Simulates.bind_same
      (update_self_simulates (fun _ _ fits => ⟨fits.settings, fits.control, fits.data⟩)
        fun _ _ => rfl)
      fun _ _ _ => Act.simulates_pure_same _
  · refine Act.simulates_get.bind fun ρ₃ held held' _ twins => ?_
    rw [congr_of_renamed position (fun _ _ => rfl) twins.own]
    exact Act.simulates_throw _

theorem read_simulates (wanted : Nat) : Simulates ρ (read wanted) (read wanted) Same := by
  unfold read
  split
  · exact requireUsable_simulates.bind_same fun _ _ _ => Act.simulates_pure_same _
  · refine Simulates.tryCatch ((receive_simulates wanted).map fun _ _ _ _ same => ?_)
      fun _ e _ => ?_
    · exact congrArg Subtype.val same
    · split
      · exact Act.simulates_pure_same _
      · exact Act.simulates_throw _

theorem write_simulates (data : Bytes) : Simulates ρ (write data) (write data) Same := by
  refine requireUsable_simulates.bind_same fun _ _ _ => ?_
  refine (requireDirection_simulates _ _).bind_same fun _ _ _ => ?_
  refine dataConnection_simulates.bind fun ρ₁ c c' _ stands => ?_
  refine (Network.send_simulates stands data).onHost.onHeld.bind_same fun ρ₂ count _ => ?_
  exact Simulates.bind_same
    (update_self_simulates (fun _ _ fits => ⟨fits.settings, fits.control, fits.data⟩)
      fun _ _ => rfl)
    fun _ _ _ => Act.simulates_pure_same _

theorem stat_simulates : Simulates ρ stat stat Same := by
  refine requireUsable_simulates.bind_same fun _ _ _ => ?_
  refine note_simulates.bind_same fun _ _ _ => ?_
  refine (say_simulates _).bind_same fun _ _ _ => ?_
  refine note_simulates.bind_same fun _ _ _ => ?_
  refine hear_simulates.bind_same fun _ reply _ => ?_
  exact note_simulates.bind_same fun _ _ _ => Act.simulates_ofExcept _

theorem releaseData_simulates : Simulates ρ releaseData releaseData Same := by
  refine Act.simulates_get.bind fun ρ₁ held held' _ twins => ?_
  rcases renamed_data twins.own with ⟨none, none'⟩ | ⟨c, c', here, here', stands⟩
  · rw [none, none']
    exact Act.simulates_pure_same _
  · rw [here, here']
    refine Simulates.bind_same
      (update_self_simulates (fun _ _ fits => ⟨fits.settings, fits.control, nofun⟩) fun _ _ => rfl)
      fun ρ₂ _ longer => ?_
    refine note_simulates.bind_same fun ρ₃ _ longer' => ?_
    exact (Network.close_simulates (stands.extend (longer.trans longer'))).onHost.onHeld

theorem moveTo_simulates (target : Int) : Simulates ρ (moveTo target) (moveTo target) Same := by
  have move (ρ : Renumbering) (position : Nat) :
      Simulates ρ (do update (fun link => { link with position }); pure position)
        (do update (fun link => { link with position }); pure position) Same :=
    Simulates.bind_same
      (update_self_simulates (fun _ _ fits => ⟨fits.settings, fits.control, fits.data⟩)
        fun _ _ => rfl)
      fun _ _ _ => Act.simulates_pure_same _
  unfold moveTo
  split
  · exact Act.simulates_throw_bind _
  · refine Act.simulates_get.bind fun ρ₁ held held' _ twins => ?_
    rw [congr_of_renamed position (fun _ _ => rfl) twins.own]
    split
    · exact releaseData_simulates.bind_same fun _ _ _ => move _ _
    · exact move _ _

theorem seek_simulates (offset code : Int) :
    Simulates ρ (seek offset code) (seek offset code) Same := by
  have moved (ρ : Renumbering) (target : Int) :
      Simulates ρ (Int.ofNat <$> moveTo target) (Int.ofNat <$> moveTo target) Same :=
    (moveTo_simulates target).map fun _ _ _ _ same => congrArg Int.ofNat same
  refine requireUsable_simulates.bind_same fun _ _ _ => ?_
  refine Act.simulates_get.bind fun ρ₁ held held' _ twins => ?_
  rw [congr_of_renamed position (fun _ _ => rfl) twins.own]
  dsimp only
  split
  · exact note_simulates.bind_same fun _ _ _ => Act.simulates_throw _
  · exact stat_simulates
  · exact note_simulates.bind_same fun _ _ _ => moved _ _
  · exact note_simulates.bind_same fun _ _ _ => moved _ _
  · refine stat_simulates.bind_same fun _ size _ => ?_
    refine note_simulates.bind_same fun _ _ _ => ?_
    split
    · exact Act.simulates_throw_bind _
    · exact moved _ _

omit [Sockets] in
theorem write_close_simulates {message message' : String} (stands : Renamed ρ c c') :
    Simulates ρ (do Host.write .debug .stream message; Network.close c : Act Host Unit)
      (do Host.write .debug .stream message'; Network.close c') Same :=
  Host.write_simulates.bind_same fun _ _ longer =>
    (Network.close_simulates (stands.extend longer)).onHost

theorem release_simulates (stands : Renamed ρ link link') :
    Simulates ρ link.release link'.release Same := by
  unfold release
  rcases renamed_data stands with ⟨none, none'⟩ | ⟨c, c', here, here', data⟩
  · rw [none, none']
    exact write_close_simulates (renamed_control stands)
  · rw [here, here']
    refine Host.write_simulates.bind_same fun ρ₁ _ longer => ?_
    refine Simulates.bind_same ((Network.close_simulates (data.extend longer)).onHost.rescue
      fun _ e _ => Host.write_simulates) fun ρ₂ _ longer' => ?_
    exact write_close_simulates ((renamed_control stands).extend (longer.trans longer'))

end Link

-- ════════════════════════════════════════════════════════════════════════
-- Streams
-- ════════════════════════════════════════════════════════════════════════

namespace ByteStream

/-- The same stream in a run whose sockets take these timeouts. -/
def renamed (range : Timeout.Range) (ρ : Renumbering) : ByteStream → ByteStream
  | unopened settings session => unopened (settings.via (.socket range)) session
  | opened link => opened (link.renamed range ρ)
  | closed settings session address position =>
    closed (settings.via (.socket range)) session address position

/-- A stream of the one run, with connections that others stand for. -/
def Fits (ρ : Renumbering) : ByteStream → Prop
  | unopened settings _ => settings.Direct
  | opened link => link.Fits ρ
  | closed settings .. => settings.Direct

variable {stream stream' : ByteStream}

theorem Fits.extend (h : stream.Fits ρ) (longer : ρ <+: ρ') : stream.Fits ρ' := by
  cases stream with
  | opened link => exact Link.Fits.extend h longer
  | _ => exact h

theorem Fits.renamed_extend (h : stream.Fits ρ) (longer : ρ <+: ρ') :
    stream.renamed Sockets.range ρ' = stream.renamed Sockets.range ρ := by
  cases stream with
  | opened link => exact congrArg opened (Link.Fits.renamed_extend h longer)
  | _ => rfl

instance : Renumbers ByteStream :=
  ⟨renamed Sockets.range, Fits, fun longer h => h.extend longer,
    fun longer h => h.renamed_extend longer⟩

theorem position_of_renamed (stands : Renamed ρ stream stream') :
    stream'.position = stream.position := by
  rw [stands.2]
  cases stream <;> rfl

theorem direction_of_renamed (stands : Renamed ρ stream stream') :
    stream'.direction = stream.direction := by
  rw [stands.2]
  cases stream <;> rfl

theorem establish_simulates {settings : Settings} (direct : settings.Direct) :
    Simulates ρ (establish settings) (establish (settings.via (.socket Sockets.range)))
      Renamed := by
  refine (locate_simulates settings.target).onHeld.bind_same fun ρ₁ address _ => ?_
  refine (Session.join_simulates direct.dialer_eq address direct.settable).bind
    fun ρ₂ c c' _ stands => ?_
  refine Act.simulates_get.bind fun ρ₃ held held' longer twins => ?_
  refine Act.simulates_pure_renamed ?_
  have stands := stands.extend longer
  refine ⟨⟨direct, stands.1, nofun⟩, ?_⟩
  rw [twins.own.2, stands.2]
  rfl

theorem connect_simulates : Simulates ρ connect connect Same := by
  rintro ρ₁ ⟨stream, host⟩ ⟨_, host'⟩ later ⟨⟨fits, rfl⟩, twins⟩
  cases stream with
  | unopened settings session =>
    have before : Twins ρ₁ (⟨session, host⟩ : Held Session) ⟨session, host'⟩ :=
      ⟨⟨trivial, rfl⟩, twins⟩
    rw [show Renumbers.renamed ρ₁ (unopened settings session) =
      unopened (settings.via (.socket Sockets.range)) session from rfl,
      outcome_connect_unopened, outcome_connect_unopened]
    obtain ⟨ρ₂, t, t', longer, after, ⟨link, link', stands, eq, eq'⟩ | ⟨e, eq, eq'⟩⟩ :=
      (establish_simulates fits).ends List.prefix_rfl before
    · rw [eq, eq']
      exact ⟨ρ₂, longer, ⟨⟨stands.1, congrArg opened stands.2⟩, after.host⟩, .ok rfl⟩
    · rw [eq, eq']
      exact ⟨ρ₂, longer, ⟨⟨fits, congrArg (unopened _) after.own.2⟩, after.host⟩, .error e⟩
  | opened => exact ⟨ρ₁, List.prefix_rfl, ⟨⟨fits, rfl⟩, twins⟩, .error _⟩
  | closed => exact ⟨ρ₁, List.prefix_rfl, ⟨⟨fits, rfl⟩, twins⟩, .error _⟩

theorem close_simulates : Simulates ρ close close Same := by
  rintro ρ₁ ⟨stream, host⟩ ⟨_, host'⟩ later ⟨⟨fits, rfl⟩, twins⟩
  cases stream with
  | opened link =>
    have stands : Renamed ρ₁ link (link.renamed Sockets.range ρ₁) := ⟨fits, rfl⟩
    obtain ⟨ρ₂, longer, after, ended⟩ :=
      Link.release_simulates stands ρ₁ host host' List.prefix_rfl twins
    rw [show Renumbers.renamed ρ₁ (opened link) = opened (link.renamed Sockets.range ρ₁) from rfl,
      outcome_close_opened, outcome_close_opened]
    exact ⟨ρ₂, longer, ⟨⟨stands.1.settings, rfl⟩, after⟩, ended⟩
  | unopened => exact ⟨ρ₁, List.prefix_rfl, ⟨⟨fits, rfl⟩, twins⟩, .ok rfl⟩
  | closed => exact ⟨ρ₁, List.prefix_rfl, ⟨⟨fits, rfl⟩, twins⟩, .ok rfl⟩

/-- An operation that only an open stream has. -/
theorem whileOpen_simulates {α β : Type} {act : Act (Held Link) α} {act' : Act (Held Link) β}
    {alike : Renumbering → α → β → Prop} (h : Simulates ρ act act' alike) :
    Simulates ρ (whileOpen act) (whileOpen act') alike := by
  rintro ρ₁ ⟨stream, host⟩ ⟨_, host'⟩ later ⟨⟨fits, rfl⟩, twins⟩
  cases stream with
  | opened link =>
    obtain ⟨ρ₂, longer, after, ended⟩ :=
      h ρ₁ ⟨link, host⟩ ⟨link.renamed Sockets.range ρ₁, host'⟩ later ⟨⟨fits, rfl⟩, twins⟩
    rw [show Renumbers.renamed ρ₁ (opened link) = opened (link.renamed Sockets.range ρ₁) from rfl,
      outcome_whileOpen_opened, outcome_whileOpen_opened]
    exact ⟨ρ₂, longer, ⟨⟨after.own.1, congrArg opened after.own.2⟩, after.host⟩, ended⟩
  | unopened => exact ⟨ρ₁, List.prefix_rfl, ⟨⟨fits, rfl⟩, twins⟩, .error _⟩
  | closed => exact ⟨ρ₁, List.prefix_rfl, ⟨⟨fits, rfl⟩, twins⟩, .error _⟩

theorem memory_of_renamed (stands : Renamed ρ stream stream') :
    stream'.settings.memory = stream.settings.memory := by
  rw [stands.2]
  cases stream <;> rfl

theorem reserve_simulates (size : Nat) : Simulates ρ (reserve size) (reserve size) Same := by
  refine Act.simulates_get.bind fun ρ₁ held held' _ twins => ?_
  rw [memory_of_renamed twins.own]
  exact Act.simulates_ofExcept _

theorem read_simulates (size : Option Int) : Simulates ρ (read size) (read size) Same :=
  (reserve_simulates _).bind_same fun _ _ _ => whileOpen_simulates (Link.read_simulates _)

/-- The number of the control connection, which is another one in the other run. -/
theorem descriptor_simulates : Simulates ρ descriptor descriptor fun ρ n n' =>
    ∃ c c' : ConnectionId, Renamed ρ c c' ∧ n = c.descriptor ∧ n' = c'.descriptor := by
  refine whileOpen_simulates (Act.simulates_get.bind fun ρ₁ held held' _ twins => ?_)
  refine Act.simulates_pure fun ρ₂ longer => ?_
  exact ⟨_, _, (Link.renamed_control twins.own).extend longer, rfl, rfl⟩

end ByteStream

namespace WindowReader

/-- A reader on a stream, and the same reader in the other run. -/
instance : Renumbers WindowReader where
  renamed ρ reader := { reader with stream := reader.stream.renamed Sockets.range ρ }
  Fits ρ reader := reader.stream.Fits ρ
  fits_extend longer fits := ByteStream.Fits.extend fits longer
  renamed_extend {_ _ reader} longer fits :=
    congrArg (WindowReader.mk · reader.tally) (ByteStream.Fits.renamed_extend fits longer)

theorem onOwnStream_simulates {α : Type} {act act' : Act (Held ByteStream) α}
    (h : Simulates ρ act act' Same) :
    Simulates ρ (onOwnStream act) (onOwnStream act') Same := by
  refine h.onPart (fun _ _ _ stands => ⟨stands.1, congrArg stream stands.2⟩) ?_
  rintro ρ₁ reader _ stream _ ⟨-, rfl⟩ ⟨fits, rfl⟩
  exact ⟨fits, rfl⟩

theorem count_simulates (f : Tally → Tally) : Simulates ρ (count f) (count f) Same := by
  refine Act.simulates_modify ?_
  rintro ρ₁ ⟨reader, host⟩ ⟨_, host'⟩ _ ⟨⟨fits, rfl⟩, twins⟩
  exact ⟨⟨fits, rfl⟩, twins⟩

theorem gather_simulates (start missing : Nat) (got : Bytes) :
    Simulates ρ (gather start missing got) (gather start missing got) Same := by
  induction missing using Nat.strongRecOn generalizing ρ got with
  | ind missing ih =>
  rw [gather]
  split
  · exact Act.simulates_pure_same _
  · refine Simulates.bind_same (Simulates.tryCatch
      (ByteStream.whileOpen_simulates (Link.receive_simulates missing)) fun _ e _ => ?_)
      fun ρ₁ chunk _ => ?_
    · split
      · exact Act.simulates_throw _
      · exact Act.simulates_throw _
    · have some := List.length_pos_iff.2 chunk.property
      exact ih _ (by omega) _

theorem fetch_simulates (start length : Int) :
    Simulates ρ (fetch start length) (fetch start length) Same := by
  refine (count_simulates _).bind_same fun _ _ _ => ?_
  dsimp only
  split
  · exact Act.simulates_throw_bind _
  · split
    · exact Act.simulates_throw_bind _
    · refine Simulates.bind_same (onOwnStream_simulates ?_) fun _ window _ => ?_
      · refine Simulates.bind_same ((ByteStream.whileOpen_simulates
          (Link.seek_simulates start _)).map fun _ _ _ _ _ => rfl) fun _ _ _ => ?_
        exact (ByteStream.reserve_simulates _).bind_same fun _ _ _ => gather_simulates _ _ _
      · refine Simulates.bind_same (count_simulates _) fun _ _ _ => ?_
        exact Act.simulates_pure_same _

end WindowReader

end SessionStream
