import Mathlib.Tactic
import SpaGateway.Proofs.Connection.Delivery
import SpaGateway.Proofs.Connection.Mirror
import SpaGateway.Proofs.Connection.SyncView

/-!
# What holds between two steps

A running connection is in order between any two steps: while its session is authorized, a download
is under way or the next one is due some time, so that the synchronization never comes to a halt;
otherwise nothing is under way and no request waits.  Subscribers see the phase of the session.

The parts of `Connection.IsOrderly` come from different sides.  The synchronization keeps
`SyncView.IsScheduled` step by step, the books say that every request that waits has something left
to send, and the image says where a download can stand.  Together they rule out what a connection
provides for but never meets: a chunk that cannot be addressed, a request without payload at the
front of the queue, and a queue to be worked off without an authorized session.
-/

namespace SpaGateway

/-- A connection that is in order. -/
structure Connection.IsOrderly (c : Connection) : Prop where
  /-- While authorized, either a download is under way or the next one has its time. -/
  scheduled : c.session.isAuthorized = true → c.download.isSome = !c.nextFullDownload.isSome
  /-- Otherwise neither is the case, and no request waits. -/
  idle : c.session.isAuthorized = false →
    c.download = none ∧ c.nextFullDownload = none ∧ c.queue = []
  /-- What waits has something left to send. -/
  isOpen : ∀ r ∈ c.queue, r.command.isEmpty = false
  /-- A download stands at the start or inside the image. -/
  inside : ∀ d ∈ c.download, d.offset = 0 ∨ d.offset < c.image.size
  /-- Subscribers see the phase of the session. -/
  published_eq : c.published = c.session.phase

/-! ## The schedule of downloads -/

/-- A download is under way or has its time exactly while the session is authorized. -/
structure SyncView.IsScheduled (v : SyncView) : Prop where
  authorized : v.phase = .authorized → v.download.isSome = !v.nextFull.isSome
  idle : v.phase ≠ .authorized → v.download = none ∧ v.nextFull = none

/-- Every step but the last keeps the schedule. -/
lemma SyncStep.isScheduled {c : Connection} {m : Moment} {input : Input} {v : SyncView}
    (h : SyncStep c m input v) (hc : (c.syncView []).IsScheduled) (hinput : input ≠ .close) :
    v.IsScheduled := by
  obtain ⟨hauthorized, hidle⟩ := hc
  cases h with
  | rest | version => exact ⟨hauthorized, hidle⟩
  | authorize => exact ⟨fun _ => rfl, fun hphase => (hphase rfl).elim⟩
  | chunk haccepts hdownload =>
    have hphase := (Session.accepts_eq_true_iff.1 haccepts).1
    refine ⟨fun _ => ?_, fun hphase' => (hphase' hphase).elim⟩
    have hbefore := hauthorized hphase
    simp only [Connection.syncView, hdownload] at hbefore ⊢
    exact hbefore
  | lastChunk haccepts =>
    have hphase := (Session.accepts_eq_true_iff.1 haccepts).1
    exact ⟨fun _ => rfl, fun hphase' => (hphase' hphase).elim⟩
  | timeOut | fallSilent => exact ⟨by simp [SyncView.restart], fun _ => ⟨rfl, rfl⟩⟩
  | request hphase => exact ⟨fun _ => rfl, fun hphase' => (hphase' hphase).elim⟩
  | close => exact (hinput rfl).elim

/-- Whatever a connection reacts to but its end, it stays on schedule. -/
lemma Connection.isScheduled_react {c : Connection} (hc : (c.syncView []).IsScheduled) (m : Moment)
    {input : Input} (hinput : input ≠ .close) :
    ((c.react m input).connection.syncView []).IsScheduled := by
  obtain ⟨hauthorized, hidle⟩ := (syncStep_react m input).isScheduled hc hinput
  exact ⟨hauthorized, hidle⟩

/-! ## What subscribers see -/

namespace Turn

variable (t : Turn) (m : Moment)

lemma published_requestDownload :
    (t.requestDownload m).connection.published = t.connection.published := by
  unfold requestDownload
  split <;> simp

lemma published_renewDownload :
    (Connection.renewDownload (Connection.retryDownload t m) m).connection.published =
      t.connection.published := by
  unfold Connection.renewDownload Connection.retryDownload
  repeat' split
  all_goals simp only [published_requestDownload]

lemma published_applySession (step : Session × List SessionOutput) :
    (t.applySession m step).connection.published =
      (t.applySession m step).connection.session.phase := by
  rw [applySession, connection_publish]

end Turn

namespace Connection

variable {c : Connection}

/-- After every reaction subscribers see the phase of the session. -/
lemma published_react (h : c.published = c.session.phase) (m : Moment) (input : Input) :
    (c.react m input).connection.published = (c.react m input).connection.session.phase := by
  cases input with
  | package package =>
    rw [react, onPackage]
    split
    · split
      · rename_i changes _
        obtain ⟨image, himage⟩ := Turn.connection_applyPush { connection := c } changes
        rw [himage]
        exact h
      · exact h
    · exact Turn.published_applySession _ m _
  | request request =>
    obtain ⟨⟨queue, translator, nextSend, hc⟩, -⟩ :=
      (Turn.queueWork_enqueue { connection := c } request).trans (Turn.queueWork_flushQueue _ m)
    rw [react, onRequest, hc]
    exact h
  | timer =>
    rw [react, onTimer]
    set polled := Turn.applySession { connection := c } m (c.session.poll m.freshKey m.now)
    obtain ⟨⟨queue, translator, nextSend, hc⟩, -⟩ :=
      Turn.queueWork_flushQueue (renewDownload (retryDownload polled m) m) m
    rw [hc]
    dsimp only
    rw [Turn.published_renewDownload, (renewDownload_spec polled m).2]
    exact Turn.published_applySession _ m _
  | close => simp [react, close, Session.close]

end Connection

/-! ## Working off the queue -/

/-- Whether a turn can serve the request at the front of its queue: the session is authorized, a
payload is left, and the queue is not failed. -/
def Turn.CanServe (t : Turn) (m : Moment) : Prop :=
  ∀ front rest, t.connection.queue = front :: rest →
    t.connection.session.isAuthorized = true ∧
      (t.connection.translator.nextPayload front.command).1.isSome = true ∧
      ∃ moved, t.flushFront m front rest = .moved moved

namespace Turn

variable {m : Moment} {rules : Translator} {received : List Request} {before : List Effect}
  {t : Turn}

/-- A turn whose ledger is kept can serve what waits. -/
lemma Serves.canServe (h : Serves rules received before t) (hidle : t.connection.IsIdle) :
    t.CanServe m := by
  intro front rest hqueue
  have hauthorized : t.connection.session.isAuthorized = true := by
    by_contra hsession
    cases hqueue.symm.trans (hidle (by simpa using hsession))
  have hopen : front.command.isEmpty = false :=
    h.ledger.isEmpty_eq_false (hqueue ▸ List.mem_cons_self)
  obtain ⟨payload, left, translator, hnext⟩ :=
    t.connection.translator.exists_nextPayload hopen
  have hphase : t.connection.session.phase = .authorized := by
    simpa [Session.isAuthorized] using hauthorized
  obtain ⟨package, hframe⟩ :
      ∃ package, t.connection.session.frame? (.data payload) = some package :=
    ⟨_, if_pos hphase⟩
  refine ⟨hauthorized, by rw [hnext]; rfl, ?_⟩
  unfold Turn.flushFront
  rw [hnext]
  simp only [connection_update, hframe]
  split <;> exact ⟨_, rfl⟩

end Turn

/-! ## Runs -/

namespace Host

/-- While it runs, a connection is on schedule, and subscribers see the phase of its session. -/
def IsOnSchedule (h : Host) : Prop :=
  h.isRunning = true → (h.connection.syncView []).IsScheduled ∧
    h.connection.published = h.connection.session.phase

lemma Entry.isOnSchedule_after {e : Entry} (h : e.before.IsOnSchedule) : e.after.IsOnSchedule :=
  e.keeps_of_isRunning
    (P := fun c => (c.syncView []).IsScheduled ∧ c.published = c.session.phase)
    (fun _ _ hc => ⟨⟨hc.1.authorized, hc.1.idle⟩, hc.2⟩)
    (fun _ m input hinput hc =>
      ⟨Connection.isScheduled_react hc.1 m hinput, Connection.published_react hc.2 m input⟩) h

lemma isOnSchedule_run {h : Host} (hh : h.IsOnSchedule) (happenings : List Happening) :
    (h.run happenings).IsOnSchedule := by
  induction happenings generalizing h with
  | nil => exact hh
  | cons happening happenings ih => exact ih (Entry.isOnSchedule_after (e := ⟨h, happening⟩) hh)

/-- A run starts on schedule. -/
lemma isOnSchedule_of_syncView {h : Host} {events told : List FeedEvent} {interval : Nat}
    (hpublished : h.connection.published = .awaitingHello)
    (hview : h.connection.syncView events = ⟨.awaitingHello, none, none, interval, told⟩) :
    h.IsOnSchedule := by
  have hphase : h.connection.session.phase = .awaitingHello := congrArg SyncView.phase hview
  have hdownload : h.connection.download = none := congrArg SyncView.download hview
  have hnext : h.connection.nextFullDownload = none := congrArg SyncView.nextFull hview
  refine fun _ => ⟨⟨fun hauthorized => ?_, fun _ => ⟨hdownload, hnext⟩⟩,
    hpublished.trans hphase.symm⟩
  cases hphase.symm.trans hauthorized

namespace Books

variable {rules : Translator} {submitted : List Command} {received : List Request}
  {notes : List Effect} {others : List Nat} {h : Host}

/-- What the books say about the queue, and about the point where it is worked off. -/
lemma canServe (hbooks : Books rules submitted received notes others h) {e : Entry}
    (he : e.before = h) {input : Input} (hinput : e.input? = some input) {t : Turn}
    (ht : h.connection.beforeFlush? e.happening.moment input = some t) (rounds : Nat) :
    (Turn.flushRounds e.happening.moment rounds t).CanServe e.happening.moment := by
  have hledger := hbooks.ledger
  rw [← hbooks.rules_eq] at hledger
  have hrequest : ∀ r ∈ input.request?, r.command.isEmpty = false := by
    intro r hr
    have hreceived : e.received? = some r := by
      rw [Entry.received?, hinput]
      exact hr
    obtain ⟨-, place, -, hplace⟩ := Entry.received?_eq_some_iff.1 hreceived
    rw [he] at hplace
    exact (hbooks.isRequestOf r
      (List.mem_append_right _ (List.mem_of_getElem? hplace))).isEmpty_eq_false
  obtain ⟨hserves, hidle⟩ := Connection.serves_beforeFlush? hledger hbooks.isIdle hrequest ht
  exact (hserves.flushRounds rounds).canServe (hidle.flushRounds _ rounds)

end Books

/-- **A running connection is in order between any two steps.**  Whatever happened, and whichever
sends failed, as long as the connection runs it is `IsOrderly`.  So every chunk that counts belongs
where the image can be addressed, and whenever the queue is worked off, before each round, the
request at its front can be served. -/
theorem isOrderly_of_running (config : GatewayConfig) (size : UInt16) (key : Octets) (m : Moment) :
    ∃ h, startAt { config with memorySize := some size } key m = .ok h ∧
      ∀ happenings : List Happening,
        ((h.run happenings).isRunning = true →
          (h.run happenings).connection.IsOrderly ∧
            (h.run happenings).connection.image.size = size.toNat) ∧
        ∀ e ∈ h.history happenings,
          (∀ u ∈ e.chunk?, u.position < 65536) ∧
          ∀ input ∈ e.input?, ∀ t ∈ e.before.connection.beforeFlush? e.happening.moment input,
            ∀ rounds,
              (Turn.flushRounds e.happening.moment rounds t).CanServe e.happening.moment := by
  have hsize : ({ config with memorySize := some size } : GatewayConfig).memorySize = some size :=
    rfl
  obtain ⟨h, notes, hstart, hbegin⟩ := exists_books_startAt config size key m
  obtain ⟨h', hstart', himage, hpublished, hview⟩ := startAt_eq_ok_and_syncView hsize key m
  obtain rfl := Except.ok.inj (hstart.symm.trans hstart')
  have hdownload : h.connection.download = none := congrArg SyncView.download hview
  have hh : (h.connection.view []).IsAddressable := isAddressable_of_empty himage hdownload
  refine ⟨h, hstart, fun happenings => ⟨fun hrunning => ?_, fun e he => ?_⟩⟩
  · obtain ⟨notes', others, hbooks⟩ := hbegin.run happenings
    obtain ⟨⟨hauthorized, hidle⟩, hpublished'⟩ :=
      isOnSchedule_run (isOnSchedule_of_syncView hpublished hview) happenings hrunning
    have hinside := (isAddressable_run hh happenings).progress_le
    refine ⟨⟨fun hsession => ?_, fun hsession => ?_, fun r hr => ?_, fun d hd => ?_, hpublished'⟩,
      ?_⟩
    · exact hauthorized (by simpa [Session.isAuthorized, Connection.syncView] using hsession)
    · obtain ⟨hnone, hnever⟩ :=
        hidle (by simpa [Session.isAuthorized, Connection.syncView] using hsession)
      exact ⟨hnone, hnever, hbooks.isIdle hsession⟩
    · exact hbooks.ledger.isEmpty_eq_false hr
    · exact hinside (d.expected, d.offset)
        (Connection.progress_view_eq_some_iff.2 ⟨d, hd, rfl, rfl⟩)
    · rw [(image_run_and_replay happenings hh).1, MemoryImage.size_foldl_absorb, himage,
        MemoryImage.size_empty]
  · obtain ⟨earlier, later, hsplit⟩ := List.append_of_mem he
    obtain ⟨past, -, hbefore⟩ := exists_of_history_eq hsplit
    obtain ⟨notes', others, hbooks⟩ := hbegin.run past
    refine ⟨fun u hu => ?_, fun input hinput t ht rounds => ?_⟩
    · refine Entry.position_lt_of_chunk? ?_ hu
      rw [hbefore]
      exact isAddressable_run hh past
    · rw [hbefore] at ht
      exact hbooks.canServe hbefore hinput ht rounds

end Host

end SpaGateway
