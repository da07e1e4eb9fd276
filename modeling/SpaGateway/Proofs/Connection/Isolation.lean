import Mathlib.Tactic
import SpaGateway.Proofs.Connection.Delivery
import SpaGateway.Proofs.Connection.SyncView

/-!
# Sends that fail

A send that fails is noted, and the command whose payload was sent fails with it.  That is all: what
the session does, what the image holds, how a download goes on and what is fed to subscribers does
not hang on the link.

Two runs that differ in the fate of their sends are compared part by part.  Turns agree
(`Turn.Agrees`) if their connections are alike but for the queue, its pacing and the translator, and
if they have fed the same.  Some parts of a turn make no difference at all, among them all that is
done with the queue, and the others keep turns in agreement.  So a reaction does
(`Connection.agrees_react`), a step does (`Host.Entry.isLike_after`), and a run does
(`Host.sameCourse_of_isLike`).
-/

namespace SpaGateway

/-- Moments that differ in the fate of sends at most. -/
structure Moment.IsLike (m m' : Moment) : Prop where
  now_eq : m'.now = m.now
  freshKey_eq : m'.freshKey = m.freshKey

/-- Connections that are the same but for the queue, its pacing and the translator. -/
def Connection.IsLike (c c' : Connection) : Prop :=
  ∃ queue translator nextSend, c' = { c with queue, translator, nextSend }

/-- Turns that have come to like connections and have fed the same. -/
structure Turn.Agrees (t t' : Turn) : Prop where
  connection : t.connection.IsLike t'.connection
  events_eq : Effect.events t'.effects = Effect.events t.effects

namespace Connection.IsLike

variable {c c' c'' : Connection}

lemma refl (c : Connection) : c.IsLike c := ⟨_, _, _, rfl⟩

lemma symm (h : c.IsLike c') : c'.IsLike c := by
  obtain ⟨queue, translator, nextSend, rfl⟩ := h
  exact ⟨c.queue, c.translator, c.nextSend, rfl⟩

lemma trans (h : c.IsLike c') (h' : c'.IsLike c'') : c.IsLike c'' := by
  obtain ⟨queue, translator, nextSend, rfl⟩ := h
  obtain ⟨queue', translator', nextSend', rfl⟩ := h'
  exact ⟨queue', translator', nextSend', rfl⟩

lemma session_eq (h : c.IsLike c') : c'.session = c.session := by
  obtain ⟨_, _, _, rfl⟩ := h
  rfl

lemma image_eq (h : c.IsLike c') : c'.image = c.image := by
  obtain ⟨_, _, _, rfl⟩ := h
  rfl

lemma download_eq (h : c.IsLike c') : c'.download = c.download := by
  obtain ⟨_, _, _, rfl⟩ := h
  rfl

lemma nextFullDownload_eq (h : c.IsLike c') : c'.nextFullDownload = c.nextFullDownload := by
  obtain ⟨_, _, _, rfl⟩ := h
  rfl

lemma fullStateInterval_eq (h : c.IsLike c') : c'.fullStateInterval = c.fullStateInterval := by
  obtain ⟨_, _, _, rfl⟩ := h
  rfl

end Connection.IsLike

namespace Turn

variable {t t' t'' s s' : Turn} {m m' : Moment}

namespace Agrees

lemma refl (t : Turn) : t.Agrees t := ⟨.refl _, rfl⟩

lemma symm (h : t.Agrees t') : t'.Agrees t := ⟨h.connection.symm, h.events_eq.symm⟩

lemma trans (h : t.Agrees t') (h' : t'.Agrees t'') : t.Agrees t'' :=
  ⟨h.connection.trans h'.connection, h'.events_eq.trans h.events_eq⟩

/-- What makes no difference to either turn keeps them in agreement. -/
lemma along (h : t.Agrees t') (left : t.Agrees s) (right : t'.Agrees s') : s.Agrees s' :=
  (left.symm.trans h).trans right

lemma ite {p : Prop} [Decidable p] (h : t.Agrees t') (helse : s.Agrees s') :
    (if p then t else s).Agrees (if p then t' else s') := by
  split
  · exact h
  · exact helse

end Agrees

/-! ## Parts that make no difference -/

lemma agrees_send (t : Turn) (m : Moment) (purpose : Purpose) (package : Package) :
    t.Agrees (t.send m purpose package) :=
  ⟨.refl _, by simp [Effect.events, Effect.fed?]⟩

lemma agrees_sendContent (t : Turn) (m : Moment) (purpose : Purpose) (payload : Octets) :
    t.Agrees (t.sendContent m purpose payload) := by
  unfold sendContent
  split
  · exact t.agrees_send m purpose _
  · exact .refl t

lemma agrees_drawSeq (t : Turn) : t.Agrees t.drawSeq.2 := ⟨⟨_, _, _, rfl⟩, rfl⟩

lemma QueueWork.agrees (h : QueueWork t t') : t.Agrees t' := by
  obtain ⟨hconnection, effects, heffects, hwork⟩ := h
  refine ⟨hconnection, ?_⟩
  rw [heffects, Effect.events_append, Effect.events_of_isQueueWork hwork, List.append_nil]

/-! ## Parts that keep turns in agreement -/

namespace Agrees

/-- A change that neither reads nor writes what may differ. -/
lemma update (h : t.Agrees t') {f : Connection → Connection}
    (hf : ∀ c queue translator nextSend,
      f { c with queue, translator, nextSend } = { f c with queue, translator, nextSend }) :
    (t.update f).Agrees (t'.update f) := by
  obtain ⟨⟨queue, translator, nextSend, hc⟩, hevents⟩ := h
  exact ⟨⟨queue, translator, nextSend, by rw [connection_update, hc, hf]; rfl⟩, hevents⟩

lemma feed (h : t.Agrees t') (event : FeedEvent) : (t.feed event).Agrees (t'.feed event) := by
  refine ⟨h.connection, ?_⟩
  rw [effects_feed, effects_feed, Effect.events_append, Effect.events_append, h.events_eq]

lemma failQueue (h : t.Agrees t') (fault : DeliveryFault) :
    (t.failQueue fault).Agrees (t'.failQueue fault) :=
  h.along ((QueueWork.refl t).failQueue fault).agrees ((QueueWork.refl t').failQueue fault).agrees

lemma applyUpdate (h : t.Agrees t') (address : UInt16) (data : Octets) :
    (t.applyUpdate address data).Agrees (t'.applyUpdate address data) := by
  unfold Turn.applyUpdate
  rw [h.connection.image_eq]
  cases t.connection.image.apply address data with
  | error e => exact h.feed _
  | ok result =>
    obtain ⟨image, changes⟩ := result
    have hwritten : (t.update ({ · with image })).Agrees (t'.update ({ · with image })) :=
      h.update fun _ _ _ _ => rfl
    refine ⟨?_, ?_⟩
    · simpa only [connection_foldl_changed] using hwritten.connection
    · simp only [effects_foldl_changed, Effect.events_append, hwritten.events_eq]

lemma applyPush (h : t.Agrees t') (changes : List StatusChange) :
    (t.applyPush changes).Agrees (t'.applyPush changes) := by
  induction changes generalizing t t' with
  | nil => exact h
  | cons change changes ih => exact ih (h.applyUpdate change.position change.data)

lemma requestDownload (h : t.Agrees t') (hm : m.IsLike m') :
    (t.requestDownload m).Agrees (t'.requestDownload m') := by
  unfold Turn.requestDownload
  rw [h.connection.session_eq]
  split
  · dsimp only
    rw [hm.now_eq]
    have hdrawn := h.along t.agrees_drawSeq t'.agrees_drawSeq
    have hrequested := hdrawn.update (f := ({ · with
      download := some ⟨0, 0, m.now + Connection.stallTimeout⟩, nextFullDownload := none }))
      fun _ _ _ _ => rfl
    exact hrequested.along (agrees_sendContent _ m _ _) (agrees_sendContent _ m' _ _)
  · exact h

lemma takeChunk (h : t.Agrees t') (hm : m.IsLike m') (seq next : UInt8) (data : Octets) :
    (t.takeChunk m seq next data).Agrees (t'.takeChunk m' seq next data) := by
  unfold Turn.takeChunk
  rw [h.connection.download_eq, h.connection.image_eq, hm.now_eq]
  split
  · exact h
  · rename_i d hd
    dsimp only
    split
    · exact h
    · set advanced : Connection → Connection := ({ · with
        download := some ⟨next, d.offset + data.length, m.now + Connection.stallTimeout⟩ })
      have hadvanced : (t.update advanced).Agrees (t'.update advanced) :=
        h.update fun _ _ _ _ => rfl
      -- the chunk is placed before the download is ended
      have hplaced := (hadvanced.applyUpdate d.offset.toUInt16 data).ite (p := d.offset < 65536)
        hadvanced
      have hended (due : Nat) := hplaced.update
        (f := ({ · with download := none, nextFullDownload := some due })) fun _ _ _ _ => rfl
      rw [hplaced.connection.fullStateInterval_eq]
      exact .ite (.ite ((hended _).feed _) (hended _)) hplaced

lemma onData (h : t.Agrees t') (hm : m.IsLike m') (payload : Octets) :
    (t.onData m payload).Agrees (t'.onData m' payload) := by
  unfold Turn.onData
  split
  · rename_i changes _
    have hdrawn := (h.applyPush changes).along (agrees_drawSeq _) (agrees_drawSeq _)
    exact hdrawn.along (agrees_sendContent _ m _ _) (agrees_sendContent _ m' _ _)
  · exact h.takeChunk hm _ _ _
  · exact h.feed _
  · exact h

lemma onSessionEvent (h : t.Agrees t') (hm : m.IsLike m') (event : SessionEvent) :
    (t.onSessionEvent m event).Agrees (t'.onSessionEvent m' event) := by
  cases event with
  | authorized peer name => exact (h.feed _).requestDownload hm
  | data source payload => exact h.onData hm payload
  | malformedHandshake payload => exact h
  | expired phase => exact ((h.update fun _ _ _ _ => rfl).failQueue _).feed _
  | unreachable attempts => exact h.feed _

lemma carryOut (h : t.Agrees t') (hm : m.IsLike m') (output : SessionOutput) :
    (t.carryOut m output).Agrees (t'.carryOut m' output) := by
  cases output with
  | transmit package => exact h.along (t.agrees_send m _ _) (t'.agrees_send m' _ _)
  | event event => exact h.onSessionEvent hm event

lemma foldl_carryOut (h : t.Agrees t') (hm : m.IsLike m') (outputs : List SessionOutput) :
    (outputs.foldl (fun t output => t.carryOut m output) t).Agrees
      (outputs.foldl (fun t output => t.carryOut m' output) t') := by
  induction outputs generalizing t t' with
  | nil => exact h
  | cons output outputs ih => exact ih (h.carryOut hm output)

lemma applySession (h : t.Agrees t') (hm : m.IsLike m') (step : Session × List SessionOutput) :
    (t.applySession m step).Agrees (t'.applySession m' step) := by
  have hmoved := h.update (f := ({ · with session := step.1 })) fun _ _ _ _ => rfl
  unfold Turn.applySession
  exact Agrees.update (hmoved.foldl_carryOut hm step.2) fun _ _ _ _ => rfl

lemma flushQueue (h : t.Agrees t') (m m' : Moment) :
    (t.flushQueue m).Agrees (t'.flushQueue m') :=
  h.along (t.queueWork_flushQueue m).agrees (t'.queueWork_flushQueue m').agrees

end Agrees

end Turn

namespace Connection

open Turn

variable {c c' : Connection} {t t' : Turn} {m m' : Moment}

lemma IsLike.agrees (h : c.IsLike c') : Turn.Agrees { connection := c } { connection := c' } :=
  ⟨h, rfl⟩

lemma agrees_retryDownload (h : t.Agrees t') (hm : m.IsLike m') :
    (retryDownload t m).Agrees (retryDownload t' m') := by
  unfold retryDownload
  rw [h.connection.download_eq, hm.now_eq]
  exact (h.requestDownload hm).ite h

lemma agrees_renewDownload (h : t.Agrees t') (hm : m.IsLike m') :
    (renewDownload t m).Agrees (renewDownload t' m') := by
  unfold renewDownload
  rw [h.connection.nextFullDownload_eq, h.connection.download_eq, hm.now_eq]
  exact (h.requestDownload hm).ite h

lemma agrees_onPackage (h : c.IsLike c') (hm : m.IsLike m') (package : Package) :
    (c.onPackage m package).Agrees (c'.onPackage m' package) := by
  have hforeign : c'.foreignData? package = c.foreignData? package := by
    unfold foreignData?
    rw [h.session_eq]
  unfold onPackage
  rw [hforeign, h.session_eq, hm.now_eq]
  split
  · split
    · exact h.agrees.applyPush _
    · exact h.agrees
  · exact h.agrees.applySession hm _

lemma agrees_onTimer (h : c.IsLike c') (hm : m.IsLike m') :
    (c.onTimer m).Agrees (c'.onTimer m') := by
  unfold onTimer
  rw [h.session_eq, hm.now_eq, hm.freshKey_eq]
  have hpolled := h.agrees.applySession hm (c.session.poll m.freshKey m.now)
  exact (agrees_renewDownload (agrees_retryDownload hpolled hm) hm).flushQueue m m'

lemma agrees_close (h : c.IsLike c') : c.close.Agrees c'.close := by
  unfold close
  rw [h.session_eq]
  have hended := h.agrees.update (f := ({ · with session := c.session.close, download := none }))
    fun _ _ _ _ => rfl
  exact ((hended.failQueue _).update fun _ _ _ _ => rfl).feed _

/-- Taking a request makes no difference, whatever the request. -/
lemma agrees_onRequest (c : Connection) (m : Moment) (request : Request) :
    Turn.Agrees { connection := c } (c.onRequest m request) :=
  ((queueWork_enqueue _ request).trans (queueWork_flushQueue _ m)).agrees

/-- **What a reaction makes of like connections**: like ones, whatever becomes of its sends. -/
theorem agrees_react (h : c.IsLike c') (hm : m.IsLike m') (input : Input) :
    (c.react m input).Agrees (c'.react m' input) := by
  cases input with
  | package package => exact agrees_onPackage h hm package
  | request request =>
    exact h.agrees.along (agrees_onRequest c m request) (agrees_onRequest c' m' request)
  | timer => exact agrees_onTimer h hm
  | close => exact agrees_close h

end Connection

/-! ## Runs -/

namespace Host

/-- Happenings that differ in the fate of sends at most. -/
structure Happening.IsLike (x x' : Happening) : Prop where
  occasion_eq : x'.occasion = x.occasion
  moment : x.moment.IsLike x'.moment

/-- Whether the connection is running whenever something happens. -/
def Processes (h : Host) (happenings : List Happening) : Prop :=
  ∀ e ∈ h.history happenings, e.before.isRunning = true

lemma Processes.take {h : Host} {happenings : List Happening} (hprocesses : h.Processes happenings)
    (n : Nat) : h.Processes (happenings.take n) := by
  intro e he
  refine hprocesses e ?_
  rw [← List.take_append_drop n happenings, history_append]
  exact List.mem_append_left _ he

/-- Hosts whose connections are alike, and that have fed the same. -/
structure IsLike (h h' : Host) : Prop where
  connection : h.connection.IsLike h'.connection
  events_eq : Effect.events h'.log = Effect.events h.log

variable {h h' h'' k k' : Host} {t t' : Turn}

namespace IsLike

lemma symm (hhosts : h.IsLike h') : h'.IsLike h :=
  ⟨hhosts.connection.symm, hhosts.events_eq.symm⟩

lemma trans (first : h.IsLike h') (second : h'.IsLike h'') : h.IsLike h'' :=
  ⟨first.connection.trans second.connection, second.events_eq.trans first.events_eq⟩

lemma record (hhosts : h.IsLike h') (ht : t.Agrees t') : (h.record t).IsLike (h'.record t') := by
  refine ⟨ht.connection, ?_⟩
  simp only [Host.record, Effect.events_append, hhosts.events_eq, ht.events_eq]

end IsLike

lemma Aside.isLike (haside : Aside h h') : h.IsLike h' := by
  obtain ⟨⟨queue, translator, hc⟩, answers, hlog, hall⟩ := haside
  refine ⟨⟨queue, translator, _, hc⟩, ?_⟩
  rw [hlog, Effect.events_append, Effect.events_of_isAnswer hall, List.append_nil]

/-- Hosts stay alike by what they do beyond their turns. -/
lemma IsLike.along (hhosts : h.IsLike h') (left : Aside h k) (right : Aside h' k') :
    k.IsLike k' :=
  (left.isLike.symm.trans hhosts).trans right.isLike

namespace Entry

variable {e e' : Entry}

/-- A step that submits a command or takes a request makes no difference. -/
lemma agrees_turn_of_request (h : (∃ command, e.happening.occasion = .submit command) ∨
    ∃ place, e.happening.occasion = .take place) :
    Turn.Agrees { connection := e.before.connection } e.turn := by
  unfold turn
  split
  · exact .refl _
  · rename_i input hinput
    have hoccasion := occasion_of_input? hinput
    cases input with
    | request request => exact Connection.agrees_onRequest _ _ request
    | package | timer | close => simp [hoccasion] at h

/-- Like hosts to which the same happens have turns that agree. -/
lemma agrees_turn (hbefore : e.before.IsLike e'.before) (hlike : e.happening.IsLike e'.happening)
    (hrunning : e.before.isRunning = true) (hrunning' : e'.before.isRunning = true) :
    e.turn.Agrees e'.turn := by
  have hidle := hbefore.connection.agrees
  have hreact (hinput : e'.input? = e.input?) : e.turn.Agrees e'.turn := by
    unfold turn
    rw [hinput]
    split
    · exact hidle
    · exact Connection.agrees_react hbefore.connection hlike.moment _
  cases hoccasion : e.happening.occasion with
  | submit | take =>
    -- the two may take different requests, but no request makes a difference
    exact hidle.along (agrees_turn_of_request (by simp [hoccasion]))
      (agrees_turn_of_request (by simp [hlike.occasion_eq, hoccasion]))
  | arrive | timer | stop =>
    exact hreact (by simp [input?, hrunning, hrunning', hlike.occasion_eq, hoccasion])

/-- **Like hosts to which the same happens are alike afterwards.** -/
theorem isLike_after (hbefore : e.before.IsLike e'.before)
    (hlike : e.happening.IsLike e'.happening) (hrunning : e.before.isRunning = true)
    (hrunning' : e'.before.isRunning = true) : e.after.IsLike e'.after := by
  have hturn := agrees_turn hbefore hlike hrunning hrunning'
  exact (hbefore.record hturn).along e.aside_happen e'.aside_happen

end Entry

lemma isLike_run (hhosts : h.IsLike h') {happenings happenings' : List Happening}
    (hlike : List.Forall₂ Happening.IsLike happenings happenings')
    (hprocesses : h.Processes happenings) (hprocesses' : h'.Processes happenings') :
    (h.run happenings).IsLike (h'.run happenings') := by
  induction hlike generalizing h h' with
  | nil => exact hhosts
  | @cons happening happening' happenings happenings' hfirst _ ih =>
    obtain ⟨hrunning, hrest⟩ := List.forall_mem_cons.1 hprocesses
    obtain ⟨hrunning', hrest'⟩ := List.forall_mem_cons.1 hprocesses'
    have hafter : (h.happen happening).IsLike (h'.happen happening') :=
      @Entry.isLike_after ⟨h, happening⟩ ⟨h', happening'⟩ hhosts hfirst hrunning hrunning'
    exact ih hafter hrest hrest'

/-- Connections of one configuration start alike, whatever becomes of their hello. -/
lemma isLike_startAt {config : GatewayConfig} {key : Octets} {m m' : Moment} (hm : m.IsLike m')
    (hstart : startAt config key m = .ok h) (hstart' : startAt config key m' = .ok h') :
    h.IsLike h' ∧ ∃ size, config.memorySize = some size := by
  cases hsize : config.memorySize with
  | none => simp [startAt, Connection.create, hsize] at hstart
  | some size =>
    refine ⟨?_, size, rfl⟩
    rw [startAt_eq hsize] at hstart hstart'
    rw [hm.now_eq] at hstart'
    obtain rfl := Except.ok.inj hstart
    obtain rfl := Except.ok.inj hstart'
    set c := created config size key m.now
    have hfirst : (c.start m).Agrees (c.start m') := by
      rw [Connection.start, Connection.start, hm.now_eq]
      exact (Turn.Agrees.refl _).applySession hm _
    have hbefore : IsLike { connection := c, keys := fun _ => key }
        { connection := c, keys := fun _ => key } := ⟨.refl c, rfl⟩
    exact (hbefore.record hfirst).along (aside_adopt _ _) (aside_adopt _ _)

/-- The rules that commands are translated by stay the same. -/
lemma rules_run {config : GatewayConfig} {size : UInt16} {key : Octets} {m : Moment}
    (hstart : startAt { config with memorySize := some size } key m = .ok h)
    (happenings : List Happening) : (h.run happenings).connection.translator.rules =
      { settings := config.commands, memorySize := size.toNat } := by
  obtain ⟨h', notes, hstart', hbegin⟩ := exists_books_startAt config size key m
  obtain rfl := Except.ok.inj (hstart.symm.trans hstart')
  obtain ⟨notes', others, hbooks⟩ := hbegin.run happenings
  exact hbooks.rules_eq

/-- Hosts whose connections differ in the queue, its pacing and the sequence counter at most, and
that have fed the same. -/
structure SameCourse (h h' : Host) : Prop where
  connection_eq : ∃ queue nextSend seq, h'.connection =
    { h.connection with queue, nextSend, translator := { h.connection.translator with seq } }
  events_eq : Effect.events h'.log = Effect.events h.log

/-- **What becomes of sends makes no difference.**  Take two runs of a connection, in which the same
things happen at the same times, and the same keys are drawn; each send may succeed in the one and
fail in the other.  After so many steps, session, image, download and the time for the next one are
the same in both, and so are the events that were fed, in their order.  Only the queue, its pacing
and the sequence counter may differ, beside what was sent and answered. -/
theorem sameCourse_of_isLike {config : GatewayConfig} {key : Octets} {m m' : Moment}
    (hm : m.IsLike m') (hstart : startAt config key m = .ok h)
    (hstart' : startAt config key m' = .ok h') {happenings happenings' : List Happening}
    (hlike : List.Forall₂ Happening.IsLike happenings happenings')
    (hprocesses : h.Processes happenings) (hprocesses' : h'.Processes happenings') (n : Nat) :
    SameCourse (h.run (happenings.take n)) (h'.run (happenings'.take n)) := by
  obtain ⟨hhosts, size, hsize⟩ := isLike_startAt hm hstart hstart'
  obtain ⟨⟨queue, translator, nextSend, hc⟩, hevents⟩ := isLike_run hhosts
    (List.forall₂_take n hlike) (hprocesses.take n) (hprocesses'.take n)
  have hconfig : config = { config with memorySize := some size } := by rw [← hsize]
  rw [hconfig] at hstart hstart'
  have hrules : translator.rules = (h.run (happenings.take n)).connection.translator.rules := by
    rw [rules_run hstart, ← rules_run hstart' (happenings'.take n), hc]
  obtain ⟨seq, rfl⟩ := Translator.exists_seq_of_rules_eq hrules
  exact ⟨⟨queue, nextSend, seq, hc⟩, hevents⟩

/-- A connection for four octets of memory, over a link that does this with what is sent. -/
def begun (fault? : Nat → Option GatewayFault) : Host :=
  let c := created { memorySize := some 4 } 4 [] 0
  Host.adopt { connection := c, keys := fun _ => [] } (c.start { now := 0, fault? })

/-- A spa answers the hello, and a command is submitted and taken. -/
def commanded (fault? : Nat → Option GatewayFault) : List Happening :=
  [⟨.arrive (.hello (Octets.ofChars ['i', 'd', '|', 's', 'p', 'a'])), { now := 0, fault? }⟩,
    ⟨.submit (.modeWrite 3), { now := 0, fault? }⟩, ⟨.take 0, { now := 0, fault? }⟩,
    ⟨.timer, { now := 5000, fault? }⟩]

/-- The link takes all that is sent in the one run and nothing in the other. -/
theorem sameCourse_of_closed_link :
    let works : Nat → Option GatewayFault := fun _ => none
    let fails : Nat → Option GatewayFault := fun _ => some .channelClosed
    startAt { memorySize := some 4 } [] { now := 0, fault? := works } = .ok (begun works) ∧
      startAt { memorySize := some 4 } [] { now := 0, fault? := fails } = .ok (begun fails) ∧
      SameCourse ((begun works).run (commanded works)) ((begun fails).run (commanded fails)) ∧
      (((begun works).run (commanded works)).log.filterMap Effect.sent?).length = 6 ∧
      ((begun fails).run (commanded fails)).log.filterMap Effect.sent? = [] := by
  intro works fails
  have hstart (fault? : Nat → Option GatewayFault) :
      startAt { memorySize := some 4 } [] { now := 0, fault? } = .ok (begun fault?) := rfl
  have hlike : List.Forall₂ Happening.IsLike (commanded works) (commanded fails) := by
    repeat' constructor
  have hprocesses : (begun works).Processes (commanded works) := by
    unfold Processes
    decide +kernel
  have hprocesses' : (begun fails).Processes (commanded fails) := by
    unfold Processes
    decide +kernel
  refine ⟨hstart works, hstart fails, ?_, ?_, ?_⟩
  · have hall (fault? : Nat → Option GatewayFault) :
        (commanded fault?).take 4 = commanded fault? := rfl
    have hm : Moment.IsLike { now := 0, fault? := works } { now := 0, fault? := fails } :=
      ⟨rfl, rfl⟩
    have hcourse :=
      sameCourse_of_isLike hm (hstart works) (hstart fails) hlike hprocesses hprocesses' 4
    rwa [hall, hall] at hcourse
  · decide +kernel
  · decide +kernel

end Host

end SpaGateway
