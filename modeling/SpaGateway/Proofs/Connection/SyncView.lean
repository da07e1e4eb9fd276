import Mathlib.Tactic
import SpaGateway.Proofs.Connection.MemoryView
import SpaGateway.Proofs.Connection.Run

/-!
# What a reaction does to the synchronization

Whether a connection is authorized, whether a download is under way or when the next one is due, and
what subscribers are told hang together: each moves only with the others.  A `SyncView` keeps the
three, and the parts of a turn have one lemma each on their view, most of them that it stays as it
was.

`Connection.syncStep_react` reads off that every reaction is one of the few steps of `SyncStep`.
The list says what the input must have been and what had to hold before, so that whatever is to be
known of phases, downloads and events in a run is a matter of going through it.
-/

namespace SpaGateway

/-- Whether an event tells of the memory image. -/
def FeedEvent.isNews : FeedEvent → Bool
  | changed _ | outOfBounds _ _ => true
  | _ => false

/-- The events among some effects. -/
def Effect.events (effects : List Effect) : List FeedEvent := effects.filterMap fed?

namespace Effect

lemma events_append (first second : List Effect) :
    events (first ++ second) = events first ++ events second := List.filterMap_append

@[simp] lemma events_nil : events [] = [] := rfl

@[simp] lemma events_feed_cons (event : FeedEvent) (effects : List Effect) :
    events (.feed event :: effects) = event :: events effects := rfl

lemma IsQueueWork.fed?_eq {effect : Effect} (h : effect.IsQueueWork) : effect.fed? = none := by
  cases effect with
  | feed => exact h.elim
  | send | answer => rfl

lemma events_of_isQueueWork {effects : List Effect} (h : ∀ x ∈ effects, x.IsQueueWork) :
    events effects = [] :=
  List.filterMap_eq_nil_iff.2 fun x hx => (h x hx).fed?_eq

lemma mem_events {effects : List Effect} {event : FeedEvent} :
    event ∈ events effects ↔ .feed event ∈ effects := by
  rw [events, List.mem_filterMap]
  constructor
  · rintro ⟨effect, hmem, hfed⟩
    cases effect with
    | feed =>
      obtain rfl := Option.some.inj hfed
      exact hmem
    | send | answer => cases hfed
  · exact fun hmem => ⟨_, hmem, rfl⟩

lemma events_of_isAnswer {effects : List Effect} (h : ∀ x ∈ effects, x.IsAnswer) :
    events effects = [] :=
  List.filterMap_eq_nil_iff.2 fun x hx => by
    cases x with
    | answer => rfl
    | send | feed => exact (h _ hx).elim

lemma events_map_feed (fed : List FeedEvent) : events (fed.map .feed) = fed := by
  rw [events, List.filterMap_map]
  exact List.filterMap_some

end Effect

/-- What a turn means for the synchronization with the spa. -/
structure SyncView where
  phase : SessionPhase
  download : Option Download
  nextFull : Option Nat
  /-- Time between full downloads. -/
  interval : Nat
  /-- What was fed to the subscribers. -/
  events : List FeedEvent

namespace SyncView

/-- More is fed. -/
def feed (v : SyncView) (more : List FeedEvent) : SyncView := { v with events := v.events ++ more }

/-- A download is requested, from the start. -/
def request (v : SyncView) (now : Nat) : SyncView :=
  { v with download := some ⟨0, 0, now + Connection.stallTimeout⟩, nextFull := none }

/-- The session is back at its hello, and nothing is under way. -/
def restart (v : SyncView) : SyncView :=
  { v with phase := .awaitingHello, download := none, nextFull := none }

/-- The download ends, and the next one is due a while later. -/
def finish (v : SyncView) (now : Nat) : SyncView :=
  { v with download := none, nextFull := some (now + v.interval) }

end SyncView

/-- A connection's part of a view. -/
def Connection.syncView (c : Connection) (events : List FeedEvent) : SyncView :=
  ⟨c.session.phase, c.download, c.nextFullDownload, c.fullStateInterval, events⟩

namespace Turn

/-- What a turn means for the synchronization with the spa. -/
def syncView (t : Turn) : SyncView := t.connection.syncView (Effect.events t.effects)

variable (t : Turn) (m : Moment)

/-! ## Parts that do not concern the synchronization -/

lemma syncView_update {f : Connection → Connection}
    (h : (f t.connection).syncView [] = t.connection.syncView []) :
    (t.update f).syncView = t.syncView := by
  simp only [Connection.syncView, SyncView.mk.injEq, and_true] at h
  simp [syncView, Connection.syncView, h]

lemma syncView_perform {effect : Effect} (h : effect.fed? = none) :
    (t.perform effect).syncView = t.syncView := by
  simp [syncView, Effect.events, h]

lemma syncView_send (purpose : Purpose) (package : Package) :
    (t.send m purpose package).syncView = t.syncView := t.syncView_perform rfl

lemma syncView_sendContent (purpose : Purpose) (payload : Octets) :
    (t.sendContent m purpose payload).syncView = t.syncView := by
  unfold sendContent
  split
  · exact t.syncView_send m _ _
  · rfl

@[simp] lemma syncView_drawSeq : t.drawSeq.2.syncView = t.syncView := t.syncView_update rfl

@[simp] lemma syncView_publish : t.publish.syncView = t.syncView := t.syncView_update rfl

lemma QueueWork.syncView_eq {t t' : Turn} (h : QueueWork t t') : t'.syncView = t.syncView := by
  obtain ⟨⟨queue, translator, nextSend, hc⟩, es, hes, hwork⟩ := h
  rw [syncView, hc, hes, Effect.events_append, Effect.events_of_isQueueWork hwork, List.append_nil]
  rfl

@[simp] lemma syncView_failQueue (fault : DeliveryFault) :
    (t.failQueue fault).syncView = t.syncView :=
  ((QueueWork.refl t).failQueue fault).syncView_eq

/-! ## Parts that do -/

@[simp] lemma syncView_feed (event : FeedEvent) :
    (t.feed event).syncView = t.syncView.feed [event] := by
  rw [syncView, effects_feed, Effect.events_append]
  rfl

lemma syncView_applyUpdate (address : UInt16) (data : Octets) :
    ∃ news, (∀ x ∈ news, x.isNews = true) ∧
      (t.applyUpdate address data).syncView = t.syncView.feed news := by
  unfold applyUpdate
  split
  · rename_i image changes _
    refine ⟨changes.map .changed, by simp [FeedEvent.isNews], ?_⟩
    rw [syncView, connection_foldl_changed, effects_foldl_changed, Effect.events_append,
      show changes.map (fun change => Effect.feed (.changed change)) =
        (changes.map FeedEvent.changed).map .feed by simp, Effect.events_map_feed]
    rfl
  · exact ⟨[_], by simp [FeedEvent.isNews], t.syncView_feed _⟩

lemma syncView_applyPush (changes : List StatusChange) :
    ∃ news, (∀ x ∈ news, x.isNews = true) ∧
      (t.applyPush changes).syncView = t.syncView.feed news := by
  induction changes generalizing t with
  | nil => exact ⟨[], by simp, by simp [applyPush, SyncView.feed]⟩
  | cons change changes ih =>
    obtain ⟨news, hnews, hview⟩ := t.syncView_applyUpdate change.position change.data
    obtain ⟨more, hmore, hview'⟩ := ih (t.applyUpdate change.position change.data)
    refine ⟨news ++ more, List.forall_mem_append.2 ⟨hnews, hmore⟩, ?_⟩
    rw [applyPush, List.foldl_cons, ← applyPush, hview', hview, SyncView.feed, SyncView.feed,
      SyncView.feed, List.append_assoc]

/-- An authorized connection that requests the download remembers it, and forgets the next one. -/
lemma syncView_requestDownload (h : t.connection.session.isAuthorized = true) :
    (t.requestDownload m).syncView = t.syncView.request m.now := by
  rw [requestDownload, if_pos h]
  exact syncView_sendContent _ m _ _

/-- The chunk that comes next takes the download further, or ends it. -/
lemma syncView_takeChunk {d : Download} (hdownload : t.connection.download = some d)
    (next : UInt8) (data : Octets) :
    ∃ news, (∀ x ∈ news, x.isNews = true) ∧
      (t.takeChunk m d.expected next data).syncView =
        if t.connection.image.size ≤ d.offset + data.length then
          (t.syncView.finish m.now).feed (news ++
            if m.now + t.connection.fullStateInterval < clockEnd then
              [.downloadComplete] else [])
        else
          { t.syncView.feed news with
            download := some ⟨next, d.offset + data.length, m.now + Connection.stallTimeout⟩ } := by
  rw [takeChunk, hdownload]
  dsimp only
  rw [if_neg (by simp)]
  set further : Download := ⟨next, d.offset + data.length, m.now + Connection.stallTimeout⟩
  set advanced : Turn := t.update ({ · with download := some further }) with hadvanced
  obtain ⟨news, hnews, hview⟩ : ∃ news, (∀ x ∈ news, x.isNews = true) ∧
      (if d.offset < 65536 then advanced.applyUpdate d.offset.toUInt16 data
        else advanced).syncView = { t.syncView.feed news with download := some further } := by
    split
    · exact advanced.syncView_applyUpdate _ _
    · exact ⟨[], by simp, by simp [SyncView.feed, hadvanced, syncView, Connection.syncView]⟩
  refine ⟨news, hnews, ?_⟩
  generalize (if d.offset < 65536 then advanced.applyUpdate d.offset.toUInt16 data
    else advanced) = written at hview ⊢
  have hinterval : written.connection.fullStateInterval = t.connection.fullStateInterval :=
    congrArg SyncView.interval hview
  have hphase : written.connection.session.phase = t.connection.session.phase :=
    congrArg SyncView.phase hview
  have hevents : Effect.events written.effects = Effect.events t.effects ++ news :=
    congrArg SyncView.events hview
  rw [hinterval]
  split
  · split <;>
      simp [syncView, Connection.syncView, SyncView.feed, SyncView.finish, hphase, hevents,
        hinterval, Effect.events_append]
  · exact hview

/-- An expiry gives up the download and the next one. -/
lemma syncView_expired (phase : SessionPhase) :
    (t.onSessionEvent m (.expired phase)).syncView =
      { t.syncView.feed [.expired] with download := none, nextFull := none } := by
  rw [onSessionEvent, syncView_feed, syncView_failQueue]
  rfl

lemma syncView_unreachable (attempts : Nat) :
    (t.onSessionEvent m (.unreachable attempts)).syncView =
      t.syncView.feed [.unreachable attempts] := t.syncView_feed _

/-! ## Downloads that are due -/

end Turn

/-- Whether the download has to be requested: it is stalled, or the next one is due. -/
def SyncView.IsDue (v : SyncView) (now : Nat) : Prop :=
  (∃ d ∈ v.download, d.deadline ≤ now) ∨ v.download = none ∧ ∃ due ∈ v.nextFull, due ≤ now

namespace Turn

variable (t : Turn) (m : Moment)

/-- A download is requested exactly if it is due and the session is authorized. -/
lemma syncView_renewDownload :
    ¬ (t.syncView.phase = .authorized ∧ t.syncView.IsDue m.now) ∧
        (Connection.renewDownload (Connection.retryDownload t m) m).syncView = t.syncView ∨
      (t.syncView.phase = .authorized ∧ t.syncView.IsDue m.now) ∧
        (Connection.renewDownload (Connection.retryDownload t m) m).syncView =
          t.syncView.request m.now := by
  cases hauthorized : t.connection.session.isAuthorized with
  | false =>
    have hphase : t.connection.session.phase ≠ .authorized := by
      simpa [Session.isAuthorized] using hauthorized
    have hretry : Connection.retryDownload t m = t := by
      rw [Connection.retryDownload, requestDownload_of_not_authorized t m hauthorized, ite_self]
    rw [hretry, Connection.renewDownload, requestDownload_of_not_authorized t m hauthorized,
      ite_self]
    exact .inl ⟨fun hdue => hphase hdue.1, rfl⟩
  | true =>
    have hphase : t.connection.session.phase = .authorized := by
      simpa [Session.isAuthorized] using hauthorized
    unfold Connection.retryDownload
    split
    · rename_i hstalled
      -- the download is under way again, so the next one has to wait
      have hdownload : (t.requestDownload m).connection.download.isNone = false := by
        simp [requestDownload, hauthorized]
      rw [Connection.renewDownload, hdownload, Bool.and_false, if_neg Bool.false_ne_true]
      have hstalled' : ∃ d ∈ t.connection.download, d.deadline ≤ m.now := by
        simpa [Option.any_eq_true] using hstalled
      exact .inr ⟨⟨hphase, .inl hstalled'⟩, t.syncView_requestDownload m hauthorized⟩
    · rename_i hgoing
      have hnotStalled : ¬ ∃ d ∈ t.connection.download, d.deadline ≤ m.now := by
        simpa [Option.any_eq_true] using hgoing
      have hfull : (t.connection.nextFullDownload.any (· ≤ m.now) &&
          t.connection.download.isNone) = true ↔ t.connection.download = none ∧
            ∃ due ∈ t.connection.nextFullDownload, due ≤ m.now := by
        simp [Option.any_eq_true, and_comm]
      unfold Connection.renewDownload
      split
      · rename_i hdue
        exact .inr ⟨⟨hphase, .inr (hfull.1 hdue)⟩, t.syncView_requestDownload m hauthorized⟩
      · rename_i hlater
        exact .inl ⟨fun hdue => hdue.2.elim hnotStalled (mt hfull.2 hlater), rfl⟩

end Turn

/-! ## Reactions -/

/-- What one reaction may do to the synchronization. -/
inductive SyncStep (c : Connection) (m : Moment) : Input → SyncView → Prop
  /-- The image changes at most. -/
  | rest {input : Input} {news : List FeedEvent} (chunk?_eq : c.chunk? input = none)
    (isNews : ∀ x ∈ news, x.isNews = true) : SyncStep c m input (c.syncView news)
  /-- The spa reports its versions. -/
  | version {input : Input} (v : FirmwareVersion) (chunk?_eq : c.chunk? input = none)
    (phase_eq : c.session.phase = .authorized) : SyncStep c m input (c.syncView [.version v])
  /-- The spa answers the hello, and the first download is requested. -/
  | authorize (payload : Octets) (name : String) (phase_eq : c.session.phase = .awaitingHello) :
    SyncStep c m (.package (.hello payload))
      { (c.syncView [.authorized name]).request m.now with phase := .authorized }
  /-- The chunk that is waited for comes, and more are to come. -/
  | chunk {source destination : Option Octets} {payload data : Octets} {d : Download} {next : UInt8}
    {news : List FeedEvent} (accepts_eq : c.session.accepts destination = true)
    (download_eq : c.download = some d)
    (parse_eq : Payload.parse? payload = some (.statusChunk d.expected next data))
    (isOpen : d.offset + data.length < c.image.size) (isNews : ∀ x ∈ news, x.isNews = true) :
    SyncStep c m (.package (.authorized source destination (.data payload)))
      { c.syncView news with
        download := some ⟨next, d.offset + data.length, m.now + Connection.stallTimeout⟩ }
  /-- The last chunk comes.  That the download is complete is told unless the clock ends before the
  next one. -/
  | lastChunk {source destination : Option Octets} {payload data : Octets} {d : Download}
    {next : UInt8} {news : List FeedEvent} (accepts_eq : c.session.accepts destination = true)
    (download_eq : c.download = some d)
    (parse_eq : Payload.parse? payload = some (.statusChunk d.expected next data))
    (isDone : c.image.size ≤ d.offset + data.length) (isNews : ∀ x ∈ news, x.isNews = true) :
    SyncStep c m (.package (.authorized source destination (.data payload)))
      (((c.syncView news).finish m.now).feed
        (if m.now + c.fullStateInterval < clockEnd then [.downloadComplete] else []))
  /-- The spa does not answer the hello in time, perhaps once too often. -/
  | timeOut {report : List FeedEvent} (phase_eq : c.session.phase = .awaitingHello)
    (report_eq : report = [] ∨ ∃ attempts, report = [.unreachable attempts]) :
    SyncStep c m .timer (c.syncView (.expired :: report)).restart
  /-- The spa is silent for too long. -/
  | fallSilent (phase_eq : c.session.phase = .authorized) :
    SyncStep c m .timer (c.syncView [.expired]).restart
  /-- A download is requested because it is due. -/
  | request (phase_eq : c.session.phase = .authorized)
    (isDue : (c.syncView []).IsDue m.now) :
    SyncStep c m .timer ((c.syncView []).request m.now)
  /-- The connection ends. -/
  | close : SyncStep c m .close
      { c.syncView [.closed] with phase := .closed, download := none }

/-- The time between full downloads never changes. -/
lemma SyncStep.interval_eq {c : Connection} {m : Moment} {input : Input} {v : SyncView}
    (h : SyncStep c m input v) : v.interval = c.fullStateInterval := by
  cases h <;> rfl

namespace Connection

variable {c : Connection} (m : Moment)

lemma syncStep_idle {input : Input} (h : c.chunk? input = none) :
    SyncStep c m input (c.syncView []) := .rest h (by simp)

/-- What data for the session do. -/
lemma syncStep_onData {source destination : Option Octets} {payload : Octets}
    (haccepts : c.session.accepts destination = true) {t : Turn}
    (ht : t.syncView = c.syncView []) (himage : t.connection.image = c.image) :
    SyncStep c m (.package (.authorized source destination (.data payload)))
      (t.onData m payload).syncView := by
  have hphase := (Session.accepts_eq_true_iff.1 haccepts).1
  have hfeed (events : List FeedEvent) : t.syncView.feed events = c.syncView events := by
    rw [ht]
    rfl
  have hdownload : t.connection.download = c.download := congrArg SyncView.download ht
  have hinterval : t.connection.fullStateInterval = c.fullStateInterval :=
    congrArg SyncView.interval ht
  have hchunk : c.chunk? (.package (.authorized source destination (.data payload))) =
      c.awaitedChunk? payload := if_pos haccepts
  have hnone (parsed : Payload) (hparse : Payload.parse? payload = some parsed)
      (hother : ∀ seq next data, parsed ≠ .statusChunk seq next data) :
      c.chunk? (.package (.authorized source destination (.data payload))) = none := by
    rw [hchunk, awaitedChunk?, hparse]
    split
    · rename_i hparsed _
      exact (hother _ _ _ (Option.some.inj hparsed)).elim
    · rfl
  unfold Turn.onData
  cases hparse : Payload.parse? payload with
  | none =>
    rw [ht]
    exact syncStep_idle m (by rw [hchunk, awaitedChunk?, hparse])
  | some parsed =>
    cases parsed with
    | statusPush changes =>
      obtain ⟨news, hnews, hview⟩ := t.syncView_applyPush changes
      dsimp only
      rw [Turn.syncView_sendContent, Turn.syncView_drawSeq, hview, hfeed]
      exact .rest (hnone _ hparse (by simp)) hnews
    | statusChunk seq next data =>
      dsimp only
      by_cases hseq : ∃ d, c.download = some d ∧ seq = d.expected
      · obtain ⟨d, hd, rfl⟩ := hseq
        obtain ⟨news, hnews, hview⟩ := t.syncView_takeChunk m (hdownload.trans hd) next data
        rw [hview, himage, hinterval, ht]
        split
        · rename_i hdone
          exact .lastChunk haccepts hd hparse hdone hnews
        · rename_i hdone
          exact .chunk haccepts hd hparse (not_le.1 hdone) hnews
      · have hother : ∀ d ∈ t.connection.download, seq ≠ d.expected := by
          rw [hdownload]
          exact fun d hd heq => hseq ⟨d, hd, heq⟩
        rw [t.takeChunk_of_ne m hother, ht]
        refine syncStep_idle m ?_
        rw [hchunk, awaitedChunk?, hparse]
        cases hd : c.download with
        | none => rfl
        | some d => exact if_neg fun heq => hseq ⟨d, hd, heq⟩
    | version v =>
      dsimp only
      rw [Turn.syncView_feed, hfeed]
      exact .version v (hnone _ hparse (by simp)) hphase
    | versionQuery | statusRequest | statusAck | pack | setWatercare =>
      dsimp only
      rw [ht]
      exact syncStep_idle m (hnone _ hparse (by simp))

lemma chunk?_of_not_accepts {destination : Option Octets}
    (h : c.session.accepts destination = false) (source : Option Octets) (content : Content) :
    c.chunk? (.package (.authorized source destination content)) = none := by
  cases content with
  | data => exact if_neg (by simp [h])
  | ping | pong => rfl

/-- Data for others are no chunk that is waited for. -/
lemma chunk?_of_foreignData? {package : Package} {payload : Octets}
    (h : c.foreignData? package = some payload) : c.chunk? (.package package) = none := by
  unfold foreignData? at h
  split at h
  · split at h
    · cases h
    · rename_i hother
      exact chunk?_of_not_accepts (by simp [Session.accepts, Session.isOther, hother]) _ _
  · cases h

/-- A package is for somebody else, or the session handles it. -/
lemma syncStep_onPackage (package : Package) :
    SyncStep c m (.package package) (c.onPackage m package).syncView := by
  unfold onPackage
  split
  · rename_i payload hforeign
    have hchunk := chunk?_of_foreignData? hforeign
    split
    · obtain ⟨news, hnews, hview⟩ := Turn.syncView_applyPush { connection := c } _
      rw [hview]
      exact .rest hchunk hnews
    · exact syncStep_idle m hchunk
  · have hmove : c.session.Move m.now (.handle package) (c.session.handle package m.now).1
        (c.session.handle package m.now).2 := Session.move_perform (.handle package)
    rw [← Prod.eta (c.session.handle package m.now)]
    generalize (c.session.handle package m.now).1 = s', (c.session.handle package m.now).2 = outputs
      at hmove ⊢
    rw [Turn.applySession, Turn.syncView_publish]
    cases hmove with
    | ignore hignores =>
      refine syncStep_idle m ?_
      cases package with
      | hello => rfl
      | authorized source destination content => exact chunk?_of_not_accepts hignores source content
    | @welcome peer name hphase hpeer =>
      simp only [List.foldl_cons, List.foldl_nil, Turn.carryOut, Turn.onSessionEvent,
        Turn.syncView_send]
      rw [Turn.syncView_requestDownload _ m rfl, Turn.syncView_feed]
      exact .authorize _ name.toTextLossy hphase
    | reject => exact syncStep_idle m rfl
    | @accept source destination content haccepts =>
      have hphase := (Session.accepts_eq_true_iff.1 haccepts).1
      set t : Turn := Turn.update { connection := c } ({ · with
        session := { c.session with lastActivity := m.now } }) with ht
      cases content with
      | ping =>
        have hpong := t.syncView_send m .session
          (.authorized (some c.session.key) c.session.peer .pong)
        exact hpong ▸ syncStep_idle m rfl
      | pong => exact syncStep_idle m rfl
      | data payload =>
        have hview : t.syncView = c.syncView [] := rfl
        exact syncStep_onData m haccepts hview rfl

/-- After an expiry the session waits for a hello again, perhaps with a report in between. -/
lemma syncView_expire {s : Session} (hs : s.phase = .awaitingHello) (phase : SessionPhase)
    (package : Package) {outputs : List SessionOutput} {report : List FeedEvent}
    (hreport : outputs = [] ∧ report = [] ∨
      ∃ attempts, outputs = [.event (.unreachable attempts)] ∧ report = [.unreachable attempts]) :
    (Turn.applySession { connection := c } m
      (s, .event (.expired phase) :: outputs ++ [.transmit package])).syncView =
        (c.syncView (.expired :: report)).restart := by
  rw [Turn.applySession, Turn.syncView_publish]
  rcases hreport with ⟨rfl, rfl⟩ | ⟨attempts, rfl, rfl⟩ <;>
    simp only [List.cons_append, List.nil_append, List.foldl_cons, List.foldl_nil, Turn.carryOut,
      Turn.syncView_send, Turn.syncView_expired, Turn.syncView_unreachable] <;>
    simp [Turn.syncView, syncView, SyncView.feed, SyncView.restart, hs]

/-- Letting time pass in the session expires it, or does nothing to the synchronization. -/
lemma syncStep_poll :
    let t := Turn.applySession { connection := c } m (c.session.poll m.freshKey m.now)
    t.syncView = c.syncView [] ∨
      SyncStep c m .timer t.syncView ∧ t.syncView.phase ≠ .authorized := by
  have hmove : c.session.Move m.now (.poll m.freshKey) (c.session.poll m.freshKey m.now).1
      (c.session.poll m.freshKey m.now).2 := Session.move_poll m.freshKey
  rw [← Prod.eta (c.session.poll m.freshKey m.now)]
  generalize (c.session.poll m.freshKey m.now).1 = s', (c.session.poll m.freshKey m.now).2 = outputs
    at hmove ⊢
  intro t
  cases hmove with
  | ignore => exact .inl rfl
  | ping => exact .inl (Turn.syncView_send _ m _ _)
  | timeOut hphase =>
    have hreport : ∃ report, (c.session.failedAgain.unreachableReport = [] ∧ report = [] ∨
        ∃ attempts, c.session.failedAgain.unreachableReport = [.event (.unreachable attempts)] ∧
          report = [FeedEvent.unreachable attempts]) := by
      unfold Session.unreachableReport
      split <;> simp
    obtain ⟨report, hreport⟩ := hreport
    have hreport' : report = [] ∨ ∃ attempts, report = [FeedEvent.unreachable attempts] := by
      rcases hreport with ⟨-, hnone⟩ | ⟨attempts, -, hsome⟩
      · exact .inl hnone
      · exact .inr ⟨attempts, hsome⟩
    have hview : t.syncView = (c.syncView (.expired :: report)).restart :=
      syncView_expire m rfl _ _ hreport
    rw [hview]
    exact .inr ⟨.timeOut hphase hreport', by simp [SyncView.restart]⟩
  | fallSilent hphase =>
    have hview : t.syncView = (c.syncView [.expired]).restart :=
      syncView_expire (c := c) m
        (s := c.session.introduced m.now (c.session.nextKey m.freshKey)) rfl .authorized
        (.hello (c.session.nextKey m.freshKey)) (.inl ⟨rfl, rfl⟩)
    rw [hview]
    exact .inr ⟨.fallSilent hphase, by simp [SyncView.restart]⟩

/-- Time may expire the session, or a download is due, or nothing. -/
lemma syncStep_onTimer : SyncStep c m .timer (c.onTimer m).syncView := by
  rw [onTimer, (Turn.queueWork_flushQueue _ m).syncView_eq]
  have hpolled := syncStep_poll (c := c) m
  set t := Turn.applySession { connection := c } m (c.session.poll m.freshKey m.now)
  rcases t.syncView_renewDownload m with ⟨-, hrenew⟩ | ⟨⟨hphase, hdue⟩, hrenew⟩ <;> rw [hrenew] <;>
    rcases hpolled with hpolled | ⟨hstep, hphase'⟩
  · rw [hpolled]
    exact syncStep_idle m rfl
  · exact hstep
  · rw [hpolled] at hphase hdue ⊢
    exact .request hphase hdue
  · exact absurd hphase hphase'

/-- **What a reaction does to the synchronization.** -/
theorem syncStep_react (input : Input) : SyncStep c m input (c.react m input).syncView := by
  cases input with
  | package package => exact syncStep_onPackage m package
  | request request =>
    have hwork := (Turn.queueWork_enqueue { connection := c } request).trans
      (Turn.queueWork_flushQueue _ m)
    rw [react, onRequest, hwork.syncView_eq]
    exact syncStep_idle m rfl
  | timer => exact syncStep_onTimer m
  | close =>
    rw [react, close, Turn.syncView_feed, Turn.syncView_update _ rfl, Turn.syncView_failQueue]
    exact .close

end Connection

/-! ## Runs -/

namespace Host

namespace Entry

variable (e : Entry)

/-- The events that are fed in a step. -/
def events : List FeedEvent := Effect.events e.effects

/-- Beyond the turn of the connection, a step does nothing to the synchronization. -/
lemma syncView_after : e.after.connection.syncView e.events = e.turn.syncView := by
  obtain ⟨⟨queue, translator, hc⟩, answers, heffects, hall⟩ := e.spec
  rw [hc, events, heffects, Effect.events_append, Effect.events_of_isAnswer hall, List.append_nil]
  rfl

/-- A step that the connection does not react to does nothing to the synchronization. -/
lemma syncView_after_of_input?_eq_none (hinput : e.input? = none) :
    e.after.connection.syncView e.events = e.before.connection.syncView [] := by
  rw [syncView_after, turn, hinput]
  rfl

/-- **A step that the connection reacts to is one of the steps of the synchronization.** -/
theorem syncStep {input : Input} (hinput : e.input? = some input) :
    SyncStep e.before.connection e.happening.moment input
      (e.after.connection.syncView e.events) := by
  rw [syncView_after, turn, hinput]
  exact Connection.syncStep_react _ input

end Entry

lemma interval_happen (h : Host) (happening : Happening) :
    (h.happen happening).connection.fullStateInterval = h.connection.fullStateInterval := by
  set e : Entry := ⟨h, happening⟩
  cases hinput : e.input? with
  | none => exact congrArg SyncView.interval (e.syncView_after_of_input?_eq_none hinput)
  | some input => exact (e.syncStep hinput).interval_eq

lemma interval_run (h : Host) (happenings : List Happening) :
    (h.run happenings).connection.fullStateInterval = h.connection.fullStateInterval := by
  induction happenings generalizing h with
  | nil => rfl
  | cons happening happenings ih => exact (ih _).trans (h.interval_happen happening)

/-- A run starts with a hello under way, and nothing told. -/
lemma startAt_eq_ok_and_syncView {config : GatewayConfig} {size : UInt16}
    (hsize : config.memorySize = some size) (key : Octets) (m : Moment) :
    ∃ h, startAt config key m = .ok h ∧ h.connection.image = .empty size.toNat ∧
      h.connection.published = .awaitingHello ∧
      h.connection.syncView (Effect.events h.log) = ⟨.awaitingHello, none, none,
        config.fullStateInterval * GatewayConfig.second, []⟩ := by
  refine ⟨_, startAt_eq hsize key m, ?_⟩
  obtain ⟨⟨queue, translator, hc⟩, answers, hlog, hall⟩ := aside_adopt
    { connection := created config size key m.now, keys := fun _ => key }
    ((created config size key m.now).start m)
  rw [hlog, Effect.events_append, Effect.events_of_isAnswer hall, hc]
  exact ⟨rfl, rfl, rfl⟩

end Host

end SpaGateway
