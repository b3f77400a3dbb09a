import SessionStream.Proofs.Streams

/-!
# What a server holds

A server that takes what is written stores the payload of every data connection from the offset that
was announced for it. The caller sees none of this: it sees what each write said was written, and
where the stream was before the write. Both views lead to the same bytes.

## Main definitions

- `store` — bytes stored at an offset
- `serverImage` — what the data connections of a control connection leave behind

## Main results

- `Link.Moves.image` — what a stream moves is stored where the stream was
- `serverImage_of_untouched` — calls elsewhere leave the image as it is

## Design notes

A write that goes on where the one before it ended lands on the same connection, so one piece of
payload of the server is many writes of the caller. `store_store` is what makes both the same.
-/

namespace SessionStream

variable {c k control : ConnectionId} {es trace : List Event} {ps : List Placed}

/-- The image with these bytes from the offset on. A gap before them is filled with zeros, and no
bytes change nothing. -/
def store (offset : Nat) (bytes image : Bytes) : Bytes :=
  if bytes = [] then image
  else (image.rightpad offset 0).take offset ++ bytes ++ image.drop (offset + bytes.length)

/-- The image that is left when pieces are stored one after the other. -/
def storeAll (image : Bytes) (ps : List Placed) : Bytes :=
  ps.foldl (fun image p => store p.1 p.2 image) image

theorem storeAll_append (image : Bytes) (ps qs : List Placed) :
    storeAll image (ps ++ qs) = storeAll (storeAll image ps) qs :=
  List.foldl_append

theorem store_nil (offset : Nat) (image : Bytes) : store offset [] image = image :=
  if_pos rfl

/-- Bytes that are stored behind others are stored with them. -/
theorem store_store (offset : Nat) (first second image : Bytes) :
    store (offset + first.length) second (store offset first image) =
      store offset (first ++ second) image := by
  by_cases hfirst : first = []
  · rw [hfirst, store_nil, List.length_nil, Nat.add_zero, List.nil_append]
  by_cases hsecond : second = []
  · rw [hsecond, store_nil, List.append_nil]
  have padded : ((image.rightpad offset 0).take offset).length = offset := by
    rw [List.length_take, List.length_rightpad]
    omega
  have front : ((image.rightpad offset 0).take offset ++ first).length = offset + first.length := by
    rw [List.length_append, padded]
  have both : first ++ second ≠ [] := fun h => hfirst (List.append_eq_nil_iff.1 h).1
  have long : offset + first.length ≤ (store offset first image).length := by
    unfold store
    rw [if_neg hfirst, List.length_append, front]
    exact Nat.le_add_right _ _
  have unpadded : (store offset first image).rightpad (offset + first.length) 0 =
      store offset first image := by
    rw [List.rightpad, Nat.sub_eq_zero_of_le long, List.replicate_zero, List.append_nil]
  rw [store, if_neg hsecond, unpadded, store, if_neg hfirst, store, if_neg both,
    List.take_left' front, ← List.drop_drop, List.drop_left' front, List.drop_drop,
    List.length_append]
  simp only [List.append_assoc, Nat.add_assoc]

/-- Empty pieces store nothing. -/
theorem storeAll_of_empty {image : Bytes} (h : ∀ p ∈ ps, p.2 = []) : storeAll image ps = image := by
  induction ps with
  | nil => rfl
  | cons p ps ih =>
    have first : store p.1 p.2 image = image := by
      rw [h p (List.mem_cons_self ..), store_nil]
    rw [storeAll, List.foldl_cons, first]
    exact ih fun q hq => h q (List.mem_cons_of_mem _ hq)

/-- What a connection brought to the server, if it was made for a write announced on `k`. -/
def stored (k : ConnectionId) (trace : List Event) (c : ConnectionId) : List Placed :=
  match transferOn k c trace with
  | some (.write, offset) => [(offset, payload c trace)]
  | _ => []

/-- The image of the server: the payload of each connection that was made for a write announced on
`k`, stored from the offset of that write on, in the order in which the connections were made. -/
def serverImage (k : ConnectionId) (trace : List Event) : Bytes :=
  storeAll [] ((opened trace).flatMap (stored k trace))

theorem stored_of_transferOn_eq_none (h : transferOn k c trace = none) : stored k trace c = [] := by
  unfold stored
  rw [h]

/-- A connection that is on record brings the same until it accepts more. -/
theorem stored_append (made : c ∈ opened trace)
    (h : transferOn k c trace ≠ none → accepted c es = []) :
    stored k (trace ++ es) c = stored k trace c := by
  unfold stored
  rw [transferOn_append made]
  by_cases announced : transferOn k c trace = none
  · rw [announced]
  · rw [payload, accepted_append, h announced, List.append_nil, payload]

theorem stored_of_transferOn {offset : Nat} (made : c ∈ opened trace)
    (h : transferOn k c trace = some (.write, offset)) (es : List Event) :
    stored k (trace ++ es) c = [(offset, payload c (trace ++ es))] := by
  unfold stored
  rw [transferOn_append made, h]

/-- While nothing but the newest connection for `k` is called on, the image is a fixed one with what
that connection brings stored last. -/
theorem serverImage_eq (nodup : (opened trace).Nodup)
    (newest : ∃ earlier later, opened trace = earlier ++ c :: later ∧
      ∀ c' ∈ later, transferOn k c' trace = none) :
    ∃ image, ∀ es, opened es = [] → (∀ c', c' ≠ c → Untouched c' es) →
      serverImage k (trace ++ es) = storeAll image (stored k (trace ++ es) c) := by
  obtain ⟨earlier, later, hopened, hlater⟩ := newest
  rw [hopened, List.nodup_append, List.nodup_cons] at nodup
  refine ⟨storeAll [] (earlier.flatMap (stored k trace)), fun es none others => ?_⟩
  have same : ∀ c' ∈ opened trace, c' ≠ c → stored k (trace ++ es) c' = stored k trace c' :=
    fun c' made other => stored_append made fun _ => (others c' other).accepted_eq_nil
  rw [hopened] at same
  have first : earlier.flatMap (stored k (trace ++ es)) = earlier.flatMap (stored k trace) := by
    rw [List.flatMap_def, List.flatMap_def]
    refine congrArg _ (List.map_congr_left fun c' hc' => ?_)
    exact same c' (List.mem_append_left _ hc') (nodup.2.2 c' hc' c (List.mem_cons_self ..))
  have last : later.flatMap (stored k (trace ++ es)) = [] := by
    refine List.flatMap_eq_nil_iff.2 fun c' hc' => ?_
    have other : c' ≠ c := fun heq => nodup.2.1.1 (heq ▸ hc')
    rw [same c' (List.mem_append_right _ (List.mem_cons_of_mem _ hc')) other]
    exact stored_of_transferOn_eq_none (hlater c' hc')
  unfold serverImage
  rw [opened_append, none, List.append_nil, hopened, List.flatMap_append, List.flatMap_cons, first,
    last, List.append_nil, storeAll_append]

/-- **Frame**: the image stays as it is while the connections that bring to it accept nothing, and
new ones bring nothing. -/
theorem serverImage_append
    (old : ∀ c ∈ opened trace, transferOn k c trace ≠ none → accepted c es = [])
    (new : ∀ c ∈ opened es, transferOn k c (trace ++ es) = none ∨ payload c (trace ++ es) = []) :
    serverImage k (trace ++ es) = serverImage k trace := by
  have same : (opened trace).flatMap (stored k (trace ++ es)) =
      (opened trace).flatMap (stored k trace) := by
    rw [List.flatMap_def, List.flatMap_def]
    exact congrArg _ (List.map_congr_left fun c hc => stored_append hc (old c hc))
  unfold serverImage
  rw [opened_append, List.flatMap_append, storeAll_append, same]
  refine storeAll_of_empty fun p hp => ?_
  obtain ⟨c, hc, hp⟩ := List.mem_flatMap.1 hp
  unfold stored at hp
  split at hp
  · next announced =>
    rcases new c hc with unannounced | empty
    · rw [unannounced] at announced
      cases announced
    · rw [List.mem_singleton.1 hp]
      exact empty
  · cases hp

/-- **Frame**: calls on other connections than `k` and those that bring to the image leave it as it
is. -/
theorem serverImage_of_untouched (nodup : (opened (trace ++ es)).Nodup)
    (settled : admission? k trace = none) (untouched : Untouched k es)
    (old : ∀ c ∈ opened trace, transferOn k c trace ≠ none → Untouched c es) :
    serverImage k (trace ++ es) = serverImage k trace :=
  serverImage_append (fun c hc announced => (old c hc announced).accepted_eq_nil) fun _ hc =>
    .inl (transferOn_of_untouched (not_mem_opened_of_nodup nodup hc) untouched settled)

/-- Nothing has been brought for a connection that has not been called on. -/
theorem serverImage_eq_nil (h : Untouched k trace) : serverImage k trace = [] := by
  have same : serverImage k ([] ++ trace) = serverImage k [] :=
    serverImage_append nofun fun c _ => .inl (h.transferOn_eq_none c)
  exact same

-- ════════════════════════════════════════════════════════════════════════
-- Calls that bring nothing
-- ════════════════════════════════════════════════════════════════════════

/-- Nothing but the control connection and new connections accepts anything of these calls, and the
new ones no payload. -/
structure WithoutPayload (control : ConnectionId) (es : List Event) : Prop where
  old : ∀ c, c ≠ control → c ∉ opened es → accepted c es = []
  new : ∀ c ∈ opened es, c ≠ control → payload c es = []

theorem WithoutPayload.of_mute (h : Mute es) (control : ConnectionId) :
    WithoutPayload control es where
  old c _ _ := h.accepted_eq_nil c
  new c _ _ := by rw [payload, h.accepted_eq_nil, behindLine_of_not_mem List.not_mem_nil]

theorem WithoutPayload.nil (control : ConnectionId) : WithoutPayload control [] :=
  .of_mute (fun _ h => absurd h List.not_mem_nil) control

/-- An exchange on the control connection brings nothing. -/
theorem Wire.Exchanged.withoutPayload {line : Bytes} {r : Except Failure Bytes}
    (h : Exchanged control line es r) : WithoutPayload control es where
  old _ hc _ := (untouched_of_target h.target? hc).accepted_eq_nil
  new c hmem := by
    rw [h.opened_eq_nil] at hmem
    cases hmem

/-- Joining brings nothing: the new connection accepts at most the line that binds it. -/
theorem Session.Joining.payload_eq_nil {route : Route} {address : Address} {timeout : Int}
    {session after : Session} {r : Except Failure ConnectionId}
    (h : Joining route address timeout session es r after) (hc : c ∈ opened es) :
    payload c es = [] := by
  obtain ⟨unmade, -⟩ | ⟨c', made, bound⟩ := h.made
  · exact absurd hc (Untouched.not_mem_opened fun e he => by rw [unmade.target e he]; exact nofun)
  · rw [made.opened_eq, List.mem_singleton] at hc
    subst hc
    unfold payload
    cases bound with
    | unbound unended => exact behindLine_of_not_mem unended
    | @bound command _ _ line _ =>
      rw [line, ← List.append_nil command.line, behindLine_line]

theorem Session.Joining.withoutPayload {route : Route} {address : Address} {timeout : Int}
    {session after : Session} {r : Except Failure ConnectionId}
    (h : Joining route address timeout session es r after) (control : ConnectionId) :
    WithoutPayload control es where
  old _ _ hc := (h.selfContained.1.untouched hc).accepted_eq_nil
  new _ hc _ := h.payload_eq_nil hc

theorem WithoutPayload.append {fs : List Event} (h : WithoutPayload control es)
    (none : opened es = []) (h' : WithoutPayload control fs) :
    WithoutPayload control (es ++ fs) := by
  have before : ∀ c, c ≠ control → accepted c es = [] :=
    fun c hc => h.old c hc (by rw [none]; exact List.not_mem_nil)
  refine ⟨fun c hc hmem => ?_, fun c hmem hc => ?_⟩
  · rw [opened_append, none, List.nil_append] at hmem
    rw [accepted_append, before c hc, h'.old c hc hmem, List.append_nil]
  · rw [opened_append, none, List.nil_append] at hmem
    have empty := h'.new c hmem hc
    rwa [payload, accepted_append, before c hc, List.nil_append]

namespace Link

variable {link after : Link}

/-- Calls of an open stream that bring nothing leave the image as it is. -/
theorem Sound.image_append (sound : link.Sound trace) (orderly : Orderly trace)
    (nodup : (opened (trace ++ es)).Nodup) (h : WithoutPayload link.control es) :
    serverImage link.control (trace ++ es) = serverImage link.control trace := by
  refine serverImage_append (fun c hc announced => h.old c ?_ fun new => ?_) fun c hc => .inr ?_
  · rintro rfl
    exact announced (sound.unannounced _)
  · exact not_mem_opened_of_nodup nodup new hc
  · have new := not_mem_opened_of_nodup nodup hc
    have other : c ≠ link.control := fun same => new (same ▸ sound.mem_opened)
    have empty := h.new c hc other
    rwa [payload, accepted_append, (orderly.untouched new).accepted_eq_nil, List.nil_append]

theorem Stating.withoutPayload {r : Except Failure Int} (h : Stating link es r after) :
    WithoutPayload link.control es := by
  cases h with
  | unusable => exact .nil _
  | exchanged _ exchange => exact exchange.withoutPayload

theorem Connecting.withoutPayload {r : Except Failure ConnectionId}
    (h : Connecting link es r after) : WithoutPayload link.control es := by
  cases h with
  | kept => exact .nil _
  | unwritable => exact .nil _
  | unheard _ exchange => exact exchange.withoutPayload
  | rejected _ exchange => exact exchange.withoutPayload
  | unjoined _ exchange _ join =>
    exact exchange.withoutPayload.append exchange.opened_eq_nil (join.withoutPayload _)
  | joined _ exchange _ join =>
    exact exchange.withoutPayload.append exchange.opened_eq_nil (join.withoutPayload _)

theorem Moving.withoutPayload {target : Int} {r : Except Failure Nat}
    (h : Moving target link es r after) : WithoutPayload link.control es := by
  have closed : ∀ (c : ConnectionId) (result : Option Unit),
      WithoutPayload link.control [.close c result] :=
    fun c result => .of_mute (fun e he => List.mem_singleton.1 he ▸ ⟨rfl, rfl⟩) _
  cases h with
  | negative => exact .nil _
  | stayed => exact .nil _
  | moved => exact .nil _
  | dropped => exact closed _ _
  | unclosed => exact closed _ _

/-- What one send brings is stored behind what the connection brought before, which is where the
stream was. -/
theorem Sound.image_send (sound : link.Sound trace) (nodup : (opened trace).Nodup)
    (writes : link.session.direction = .write) (has : link.data = some c) (data : Bytes)
    (result : Option Nat) :
    serverImage link.control (trace ++ [.send c data result]) =
      store link.position (Event.accepted c (.send c data result))
        (serverImage link.control trace) := by
  obtain ⟨offset, carries⟩ := sound.carries c has
  have transfer := carries.transfer
  have oneWay := carries.oneWay
  rw [writes] at transfer oneWay
  have hreceived : received c trace = [] := oneWay
  have hposition := carries.position_eq
  rw [hreceived, List.length_nil, Nat.add_zero] at hposition
  obtain ⟨image, hbefore⟩ := serverImage_eq nodup carries.newest
  have before := hbefore [] rfl fun _ _ => .nil _
  have behind := hbefore [.send c data result] rfl fun c' other =>
    untouched_of_target (fun e he => List.mem_singleton.1 he ▸ rfl) other
  have haccepted : accepted c [.send c data result] =
      Event.accepted c (.send c data result) := List.flatMap_singleton ..
  rw [stored_of_transferOn (carries.mem_opened) transfer] at before behind
  rw [List.append_nil] at before
  rw [carries.payload_append, haccepted] at behind
  rw [before, behind, hposition]
  exact (store_store offset _ _ _).symm

/-- **Step lemma**: what a stream moves is stored where the stream was. -/
theorem Move.image (h : Move link es ps after) (orderly : Orderly trace)
    (sound : link.Sound trace) (nodup : (opened (trace ++ es)).Nodup)
    (writes : link.session.direction = .write) :
    serverImage link.control (trace ++ es) = storeAll (serverImage link.control trace) ps := by
  cases h with
  | stating stat => exact sound.image_append orderly nodup stat.withoutPayload
  | connecting _ connect => exact sound.image_append orderly nodup connect.withoutPayload
  | receiving reads =>
    rw [writes] at reads
    cases reads
  | @sending c data result _ has _ =>
    rw [sound.image_send (nodup_opened_left nodup) writes has]
    cases result with
    | none => exact store_nil _ _
    | some count =>
      simp only [Event.accepted, if_true]
      rfl
  | moving move => exact sound.image_append orderly nodup move.withoutPayload

/-- **Run lemma**: so is all that it moves one after the other. -/
theorem Moves.image (h : Moves link es ps after) (orderly : Orderly trace)
    (sound : link.Sound trace) (nodup : (opened (trace ++ es)).Nodup)
    (writes : link.session.direction = .write) :
    serverImage link.control (trace ++ es) = storeAll (serverImage link.control trace) ps := by
  induction h generalizing trace with
  | refl => rw [List.append_nil]; rfl
  | @step link mid after es fs ps qs move _ ih =>
    rw [← List.append_assoc] at nodup ⊢
    have first := nodup_opened_left nodup
    obtain ⟨orderly', sound'⟩ := move.sound orderly sound first
    obtain ⟨hcontrol, hdirection⟩ := move.keeps
    have later := ih orderly' sound' nodup (hdirection.trans writes)
    rw [hcontrol] at later
    rw [later, move.image orderly sound first writes, storeAll_append]

end Link

namespace ByteStream

variable {stream after : ByteStream}

/-- All that an open stream moves is stored where the stream was. -/
theorem Evolves.image {link : Link} (h : Evolves (.opened link) es ps after)
    (orderly : Orderly trace) (sound : link.Sound trace)
    (nodup : (SessionStream.opened (trace ++ es)).Nodup)
    (writes : link.session.direction = .write) :
    serverImage link.control (trace ++ es) = storeAll (serverImage link.control trace) ps := by
  cases h with
  | still => rw [List.append_nil]; rfl
  | moved moves => exact moves.image orderly sound nodup writes
  | released release => exact sound.image_append orderly nodup (.of_mute release.mute.1 _)

/-- Nothing has been brought for a control connection that was made just now. -/
theorem serverImage_of_joining {settings : Settings} {session session' : Session}
    {address : Address} {timeout : Int}
    (join : Session.Joining settings.route address timeout session es (.ok k) session')
    (orderly : Orderly trace) (nodup : (SessionStream.opened (trace ++ es)).Nodup) :
    serverImage k (trace ++ es) = [] := by
  obtain ⟨-, e, he⟩ | ⟨c, made, bound⟩ := join.made
  · cases he
  cases bound
  have new := not_mem_opened_of_nodup nodup (made.opened_eq ▸ List.mem_singleton.2 rfl)
  have fresh := orderly.untouched new
  have unannounced := (Link.sound_of_joining join orderly nodup).unannounced
  rw [serverImage_append, serverImage_eq_nil fresh]
  · intro c _ announced
    exact absurd (fresh.transferOn_eq_none c) announced
  · intro c hc
    rw [made.opened_eq, List.mem_singleton] at hc
    exact .inl (hc ▸ unannounced k)

end ByteStream

end SessionStream
