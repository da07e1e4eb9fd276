import Mathlib.Computability.Language
import Mathlib.Tactic
import Mathlib.Order.CompletePartialOrder
import SpaGateway.Proofs.Connection.SyncView

/-!
# The life of a connection as its feed tells it

Apart from the news of the image, a feed follows a grammar: handshakes that fail, sessions in which
the spa reports its versions and downloads come to an end, each of them up to an expiry, and in the
end the close.  The grammar is a regular language, `Lifecycle.words`.  How far a connection has come
in it can be told from the phase of its session (`Lifecycle.upTo`), and each step of the
synchronization takes it further by the events that it feeds (`SyncStep.mem_upTo`).

A connection that has to wait beyond the clock's end breaks off, and then the close is not told.
`Host.follows_grammar` says that this is the only way in which it can be missing.
-/

namespace SpaGateway

open Computability

/-! ## The grammar -/

/-- What events tell of the connection itself: all but the news of the image. -/
def FeedEvent.lifecycle (events : List FeedEvent) : List FeedEvent :=
  events.filter fun event => !event.isNews

namespace FeedEvent

lemma lifecycle_append (first second : List FeedEvent) :
    lifecycle (first ++ second) = lifecycle first ++ lifecycle second := List.filter_append ..

lemma lifecycle_of_isNews {news : List FeedEvent} (h : ∀ x ∈ news, x.isNews = true) :
    lifecycle news = [] :=
  List.filter_eq_nil_iff.2 fun x hx => by simp [h x hx]

end FeedEvent

namespace Lifecycle

/-- The handshake is complete. -/
def authorized : Language FeedEvent := {word | ∃ name, word = [.authorized name]}

/-- The spa reports its versions, or a download is complete. -/
def report : Language FeedEvent :=
  {word | (∃ version, word = [.version version]) ∨ word = [.downloadComplete]}

/-- The session expires. -/
def expired : Language FeedEvent := {[.expired]}

/-- A handshake fails, perhaps once too often. -/
def failure : Language FeedEvent :=
  {word | word = [.expired] ∨ ∃ attempts, word = [.expired, .unreachable attempts]}

/-- The connection ends. -/
def closed : Language FeedEvent := {[.closed]}

/-- A session so far. -/
def session : Language FeedEvent := authorized * report∗

/-- Sessions that have expired, with failed handshakes before, between and after them. -/
def apart : Language FeedEvent := (failure∗ * session * expired)∗ * failure∗

/-- The whole life of a connection. -/
def words : Language FeedEvent := apart * (1 + session) * closed

/-- What a connection can have told when its session is in a phase. -/
def upTo : SessionPhase → Language FeedEvent
  | .authorized => apart * session
  | _ => apart

lemma nil_mem_apart : [] ∈ apart :=
  Language.append_mem_mul (Language.nil_mem_kstar _) (Language.nil_mem_kstar _)

lemma apart_mul_failure_le : apart * failure ≤ apart := by
  rw [apart, mul_assoc]
  exact mul_le_mul_right kstar_mul_le_kstar _

lemma session_mul_report_le : session * report ≤ session := by
  rw [session, mul_assoc]
  exact mul_le_mul_right kstar_mul_le_kstar _

/-- An expiry sets a session apart. -/
lemma apart_mul_session_mul_expired_le : apart * session * expired ≤ apart := by
  set round := failure∗ * session * expired with hround
  calc apart * session * expired
      = round∗ * round := by rw [apart, ← hround, hround]; simp only [mul_assoc]
    _ ≤ round∗ := kstar_mul_le_kstar
    _ = round∗ * 1 := (mul_one _).symm
    _ ≤ apart := mul_le_mul_right one_le_kstar _

lemma singleton_mem_session (name : String) : [FeedEvent.authorized name] ∈ session := by
  have hfirst : [FeedEvent.authorized name] ∈ authorized := ⟨name, rfl⟩
  exact Language.append_mem_mul hfirst (Language.nil_mem_kstar report)

variable {past : List FeedEvent} {phase : SessionPhase}

/-- A connection can close at any time. -/
lemma append_closed_mem_words (h : past ∈ upTo phase) : past ++ [.closed] ∈ words := by
  refine Language.append_mem_mul ?_ rfl
  have hends : upTo phase ≤ apart * (1 + session) := by
    rw [mul_add, mul_one]
    cases phase with
    | authorized => exact le_sup_right
    | unauthenticated | awaitingHello | expired | closed => exact le_sup_left
  exact hends h

end Lifecycle

open FeedEvent Lifecycle

/-- **Each step but the last takes the connection further in the grammar.** -/
theorem SyncStep.mem_upTo {c : Connection} {m : Moment} {input : Input} {v : SyncView}
    (h : SyncStep c m input v) (hinput : input ≠ .close) {past : List FeedEvent}
    (hpast : past ∈ upTo c.session.phase) : past ++ lifecycle v.events ∈ upTo v.phase := by
  have hsame {news : List FeedEvent} (hnews : ∀ x ∈ news, x.isNews = true) :
      past ++ lifecycle news ∈ upTo c.session.phase := by
    rwa [lifecycle_of_isNews hnews, List.append_nil]
  have hreport {word : List FeedEvent} (hphase : c.session.phase = .authorized)
      (hword : word ∈ report) : past ++ word ∈ upTo c.session.phase := by
    rw [hphase] at hpast ⊢
    have hmore : past ++ word ∈ apart * session * report := Language.append_mem_mul hpast hword
    rw [mul_assoc] at hmore
    exact mul_le_mul_right session_mul_report_le _ hmore
  cases h with
  | rest _ hnews => exact hsame hnews
  | version v _ hphase => exact hreport hphase (.inl ⟨v, rfl⟩)
  | authorize payload name hphase =>
    rw [hphase] at hpast
    exact Language.append_mem_mul hpast (singleton_mem_session name)
  | chunk _ _ _ _ hnews => exact hsame hnews
  | @lastChunk _ _ _ _ _ _ news haccepts _ _ _ hnews =>
    have hphase := (Session.accepts_eq_true_iff.1 haccepts).1
    rw [SyncView.feed, lifecycle_append]
    change past ++ (lifecycle news ++ _) ∈ upTo c.session.phase
    rw [lifecycle_of_isNews hnews, List.nil_append]
    split
    · exact hreport hphase (.inr rfl)
    · exact hsame (by simp)
  | timeOut hphase hreport =>
    rw [hphase] at hpast
    refine apart_mul_failure_le (Language.append_mem_mul hpast ?_)
    rcases hreport with rfl | ⟨attempts, rfl⟩
    · exact .inl rfl
    · exact .inr ⟨attempts, rfl⟩
  | fallSilent hphase =>
    rw [hphase] at hpast
    exact apart_mul_session_mul_expired_le (Language.append_mem_mul hpast rfl)
  | request => exact hsame (List.forall_mem_nil _)
  | close => exact (hinput rfl).elim

/-- Only the last step closes the session, and tells it. -/
lemma SyncStep.not_closed {c : Connection} {m : Moment} {input : Input} {v : SyncView}
    (h : SyncStep c m input v) (hinput : input ≠ .close) (hphase : c.session.phase ≠ .closed) :
    v.phase ≠ .closed ∧ .closed ∉ v.events := by
  have hnews {news : List FeedEvent} (hnews : ∀ x ∈ news, x.isNews = true) : .closed ∉ news :=
    fun hclosed => by cases hnews _ hclosed
  cases h with
  | rest _ hisNews => exact ⟨hphase, hnews hisNews⟩
  | version | request => exact ⟨hphase, by simp [Connection.syncView, SyncView.request]⟩
  | authorize => simp [Connection.syncView, SyncView.request]
  | chunk _ _ _ _ hisNews => exact ⟨hphase, hnews hisNews⟩
  | lastChunk _ _ _ _ hisNews =>
    refine ⟨hphase, fun hclosed => ?_⟩
    rcases List.mem_append.1 hclosed with hclosed | hclosed
    · exact hnews hisNews hclosed
    · split at hclosed <;> simp at hclosed
  | timeOut _ hreport =>
    rcases hreport with rfl | ⟨attempts, rfl⟩ <;> simp [Connection.syncView, SyncView.restart]
  | fallSilent => simp [Connection.syncView, SyncView.restart]
  | close => exact (hinput rfl).elim

/-! ## Where a run has come to -/

/-- The effects as they tell of the connection itself. -/
def Effect.lifecycle (effects : List Effect) : List FeedEvent :=
  FeedEvent.lifecycle (events effects)

namespace Host

/-- What was fed is the beginning of a life, as far as the session has come. -/
structure IsAlive (h : Host) : Prop where
  phase_ne : h.connection.session.phase ≠ .closed
  mem_upTo : Effect.lifecycle h.log ∈ upTo h.connection.session.phase
  notMem : .closed ∉ Effect.events h.log

/-- The connection has ended and told so last of all. -/
structure HasClosed (h : Host) : Prop where
  isRunning_eq : h.isRunning = false
  mem_words : Effect.lifecycle h.log ∈ words
  log_eq : ∃ earlier later, h.log = earlier ++ .feed .closed :: later ∧
    .closed ∉ Effect.events earlier ∧ ∀ x ∈ later, x.IsAnswer

/-- No wait of the connection in a run lies beyond the clock's end. -/
def KeepsTime (h : Host) (happenings : List Happening) : Prop :=
  h.isRunning = true ∧ ∀ e ∈ h.history happenings,
    e.before.isRunning = true → e.turn.connection.outlastsClock = false

lemma keepsTime_concat_iff {h : Host} {happenings : List Happening} {happening : Happening} :
    KeepsTime h (happenings ++ [happening]) ↔ KeepsTime h happenings ∧
      let e : Entry := ⟨h.run happenings, happening⟩
      e.before.isRunning = true → e.turn.connection.outlastsClock = false := by
  rw [KeepsTime, history_concat, List.forall_mem_append, List.forall_mem_singleton, KeepsTime,
    and_assoc]

/-- A connection runs or has closed, and time was kept, or it has broken off, and it was not. -/
inductive Stage (h : Host) (kept : Prop) : Prop
  | running (isRunning_eq : h.isRunning = true) (isAlive : h.IsAlive)
    (outlasts_eq : h.connection.outlastsClock = false) (keeps : kept)
  | closed (hasClosed : h.HasClosed) (keeps : kept)
  | brokenOff (isRunning_eq : h.isRunning = false) (isAlive : h.IsAlive) (breaks : ¬ kept)

/-- A connection that closes waits for no more than before. -/
lemma outlastsClock_close {c : Connection} (h : c.outlastsClock = false) :
    c.close.connection.outlastsClock = false := by
  simp only [Connection.outlastsClock, List.any_eq_false] at h ⊢
  intro deadline hdeadline
  refine h deadline ?_
  have hnext : deadline ∈ c.nextFullDownload := by
    simpa [Connection.deadlines, Connection.close, Session.close, Session.deadlines]
      using hdeadline
  simp [Connection.deadlines, Option.mem_def.1 hnext]

namespace Entry

variable {e : Entry}

/-- A step that does not close the connection leaves it alive. -/
lemma isAlive_after (h : e.before.IsAlive) (hclose : e.input? ≠ some .close) :
    e.after.IsAlive := by
  obtain ⟨hphase, hmem, hnone⟩ := h
  have hlifecycle : Effect.lifecycle e.after.log =
      Effect.lifecycle e.before.log ++ FeedEvent.lifecycle e.events := by
    rw [Effect.lifecycle, e.log_after, Effect.events_append, lifecycle_append]
    rfl
  have hevents : Effect.events e.after.log = Effect.events e.before.log ++ e.events := by
    rw [e.log_after, Effect.events_append]
    rfl
  cases hinput : e.input? with
  | none =>
    have hview := e.syncView_after_of_input?_eq_none hinput
    have hphase' : e.after.connection.session.phase = e.before.connection.session.phase :=
      congrArg SyncView.phase hview
    have hnothing : e.events = [] := congrArg SyncView.events hview
    rw [hnothing, List.append_nil] at hevents
    rw [hnothing] at hlifecycle
    exact ⟨hphase' ▸ hphase, by rw [hlifecycle, hphase']; simpa [FeedEvent.lifecycle] using hmem,
      hevents ▸ hnone⟩
  | some input =>
    have hstep := e.syncStep hinput
    have hother : input ≠ .close := fun heq => hclose (by rw [hinput, heq])
    obtain ⟨hphase', hnone'⟩ := hstep.not_closed hother hphase
    refine ⟨hphase', hlifecycle ▸ hstep.mem_upTo hother hmem, ?_⟩
    rw [hevents, List.mem_append, not_or]
    exact ⟨hnone, hnone'⟩

/-- The close ends the life of a connection. -/
lemma hasClosed_after (h : e.before.IsAlive) (hclose : e.input? = some .close) :
    e.after.HasClosed := by
  obtain ⟨-, answers, heffects, hall⟩ := e.spec
  set refusals : List Effect := e.before.connection.queue.map fun r =>
    .answer r.ticket (some (.undelivered .shuttingDown)) with hrefusals
  have hnothing : Effect.events refusals = [] :=
    Effect.events_of_isAnswer (by simp [hrefusals, Effect.IsAnswer])
  have hlog : e.after.log = (e.before.log ++ refusals) ++ .feed .closed :: answers := by
    rw [e.log_after, heffects, turn, hclose]
    simp [Connection.react, Connection.close, hrefusals]
  have hevents : Effect.events e.after.log = Effect.events e.before.log ++ [.closed] := by
    rw [hlog, Effect.events_append, Effect.events_append, hnothing, List.append_nil,
      Effect.events_feed_cons, Effect.events_of_isAnswer hall]
  refine ⟨?_, ?_, _, _, hlog, ?_, hall⟩
  · by_contra hrunning
    have hstop := (e.isRunning_after_iff.1 (by simpa using hrunning)).2.1
    exact hstop (occasion_of_input? hclose)
  · rw [Effect.lifecycle, hevents, lifecycle_append]
    exact append_closed_mem_words h.mem_upTo
  · rw [Effect.events_append, hnothing, List.append_nil]
    exact h.notMem

/-- After its end, a connection only refuses requests. -/
lemma hasClosed_after_of_hasClosed (h : e.before.HasClosed) : e.after.HasClosed := by
  obtain ⟨hstopped, hmem, earlier, later, hlog, hfirst, hlater⟩ := h
  have hanswers := e.isAnswer_of_mem_effects (input?_of_stopped hstopped)
  refine ⟨e.isRunning_after_of_stopped hstopped, ?_, earlier, later ++ e.effects, ?_, hfirst, ?_⟩
  · rw [Effect.lifecycle, e.log_after, Effect.events_append, Effect.events_of_isAnswer hanswers,
      List.append_nil]
    exact hmem
  · rw [e.log_after, hlog, List.append_assoc, List.cons_append]
  · exact List.forall_mem_append.2 ⟨hlater, hanswers⟩

/-- A connection that is not closed runs on, or breaks off. -/
lemma stage_after_of_running (hrunning : e.before.isRunning = true) (halive : e.before.IsAlive)
    (houtlasts : e.before.connection.outlastsClock = false) {kept : Prop} (hkept : kept)
    (hclose : e.input? ≠ some .close) :
    Stage e.after (kept ∧
      (e.before.isRunning = true → e.turn.connection.outlastsClock = false)) := by
  have halive' : e.after.IsAlive := isAlive_after halive hclose
  cases hturn : e.turn.connection.outlastsClock with
  | false =>
    have hstop : e.happening.occasion ≠ .stop := fun hoccasion => hclose (by
      rw [input?, if_pos hrunning, hoccasion])
    have hafter := e.isRunning_after_iff.2 ⟨hrunning, hstop, fun _ => hturn⟩
    obtain ⟨translator, hc⟩ := e.connection_after_of_isRunning hafter
    exact .running hafter halive' (by rw [hc]; exact hturn) ⟨hkept, fun _ => rfl⟩
  | true =>
    have hreacts : e.input?.isSome := by
      by_contra hnone
      rw [turn, Option.not_isSome_iff_eq_none.1 hnone] at hturn
      cases houtlasts.symm.trans hturn
    refine .brokenOff ?_ halive' fun hkept' => ?_
    · by_contra hafter
      have hlasts := (e.isRunning_after_iff.1 (by simpa using hafter)).2.2 hreacts
      cases hturn.symm.trans hlasts
    · cases hkept'.2 hrunning

/-- **Every step leads from stage to stage.** -/
theorem stage_after {kept : Prop} (hstage : Stage e.before kept) :
    Stage e.after (kept ∧
      (e.before.isRunning = true → e.turn.connection.outlastsClock = false)) := by
  cases hstage with
  | closed hclosed hkept =>
    refine .closed (hasClosed_after_of_hasClosed hclosed) ⟨hkept, fun hrunning => ?_⟩
    cases hclosed.isRunning_eq.symm.trans hrunning
  | brokenOff hstopped halive hbreaks =>
    have hclose : e.input? ≠ some .close := by simp [input?_of_stopped hstopped]
    exact .brokenOff (e.isRunning_after_of_stopped hstopped) (isAlive_after halive hclose)
      fun hkept => hbreaks hkept.1
  | running hrunning halive houtlasts hkept =>
    by_cases hclose : e.input? = some .close
    · refine .closed (hasClosed_after halive hclose) ⟨hkept, fun _ => ?_⟩
      rw [turn, hclose]
      exact outlastsClock_close houtlasts
    · exact stage_after_of_running hrunning halive houtlasts hkept hclose

end Entry

lemma stage_run {h : Host} (hstart : Stage h (KeepsTime h [])) (happenings : List Happening) :
    Stage (h.run happenings) (KeepsTime h happenings) := by
  induction happenings using List.reverseRecOn with
  | nil => exact hstart
  | append_singleton happenings happening ih =>
    rw [run_append, keepsTime_concat_iff]
    exact Entry.stage_after (e := ⟨h.run happenings, happening⟩) ih

/-- A run starts at the beginning of the grammar, or breaks off there. -/
lemma exists_stage_startAt (config : GatewayConfig) (size : UInt16) (key : Octets) (m : Moment) :
    ∃ h, startAt { config with memorySize := some size } key m = .ok h ∧
      Stage h (KeepsTime h []) := by
  have hsize : ({ config with memorySize := some size } : GatewayConfig).memorySize = some size :=
    rfl
  obtain ⟨h, hstart, -, -, hview⟩ := startAt_eq_ok_and_syncView hsize key m
  have hphase : h.connection.session.phase = .awaitingHello := congrArg SyncView.phase hview
  have hevents : Effect.events h.log = [] := congrArg SyncView.events hview
  have halive : h.IsAlive := by
    refine ⟨by simp [hphase], ?_, by simp [hevents]⟩
    rw [Effect.lifecycle, hevents, hphase]
    exact nil_mem_apart
  refine ⟨h, hstart, ?_⟩
  cases hrunning : h.isRunning with
  | true =>
    rw [startAt_eq hsize] at hstart
    obtain rfl := Except.ok.inj hstart
    exact .running hrunning halive (outlastsClock_adopt hrunning) ⟨hrunning, by simp [history]⟩
  | false =>
    exact .brokenOff hrunning halive fun hkept => by cases hrunning.symm.trans hkept.1

/-- Only refusals follow the close. -/
lemma HasClosed.isAnswer_of_log_eq {h : Host} (hclosed : h.HasClosed) {earlier later : List Effect}
    (hlog : h.log = earlier ++ .feed .closed :: later) : ∀ x ∈ later, x.IsAnswer := by
  obtain ⟨-, -, earlier', later', hlog', hfirst, hall⟩ := hclosed
  rw [hlog'] at hlog
  -- a second close would stand before the first one, or among the refusals
  rcases List.append_eq_append_iff.1 hlog with ⟨between, rfl, hrest⟩ | ⟨between, rfl, hrest⟩
  · cases between with
    | nil =>
      obtain ⟨-, rfl⟩ := List.cons.inj hrest
      exact hall
    | cons x between =>
      obtain ⟨-, hlater⟩ := List.cons.inj hrest
      exact (hall (.feed .closed) (hlater ▸ List.mem_append_right _ List.mem_cons_self)).elim
  · cases between with
    | nil =>
      obtain ⟨-, rfl⟩ := List.cons.inj hrest
      exact hall
    | cons x between =>
      obtain ⟨rfl, -⟩ := List.cons.inj hrest
      exact (hfirst (Effect.mem_events.2 (List.mem_append_right _ List.mem_cons_self))).elim

/-- The close is told once. -/
lemma HasClosed.count_eq {h : Host} (hclosed : h.HasClosed) :
    (Effect.events h.log).count .closed = 1 := by
  obtain ⟨-, -, earlier, later, hlog, hfirst, hall⟩ := hclosed
  rw [hlog, Effect.events_append, Effect.events_feed_cons, Effect.events_of_isAnswer hall,
    List.count_append, List.count_eq_zero.2 hfirst]
  rfl

/-- **The feed follows the grammar.**  In every run, what the feed tells of the connection is the
beginning of a word, and after the close nothing is fed or sent.  While the connection runs the
close is not told.  When it has ended, its life is a whole word and the close is told once, exactly
if none of its waits lay beyond the clock's end. -/
theorem follows_grammar (config : GatewayConfig) (size : UInt16) (key : Octets) (m : Moment) :
    ∃ h, startAt { config with memorySize := some size } key m = .ok h ∧
      ∀ happenings : List Happening,
        let final := h.run happenings
        (∃ rest, Effect.lifecycle final.log ++ rest ∈ words) ∧
          (∀ earlier later, final.log = earlier ++ .feed .closed :: later →
            ∀ x ∈ later, x.IsAnswer) ∧
          (final.isRunning = true → .closed ∉ Effect.events final.log) ∧
          (final.isRunning = false →
            (Effect.lifecycle final.log ∈ words ∧
                (Effect.events final.log).count .closed = 1 ↔
              KeepsTime h happenings)) := by
  obtain ⟨h, hstart, hbegin⟩ := exists_stage_startAt config size key m
  refine ⟨h, hstart, fun happenings => ?_⟩
  have hunclosed {final : Host} (halive : final.IsAlive) (earlier later : List Effect)
      (hlog : final.log = earlier ++ .feed .closed :: later) : ∀ x ∈ later, x.IsAnswer :=
    (halive.notMem (Effect.mem_events.2 (by simp [hlog]))).elim
  cases stage_run hbegin happenings with
  | running hrunning halive _ hkept =>
    refine ⟨⟨_, append_closed_mem_words halive.mem_upTo⟩, hunclosed halive,
      fun _ => halive.notMem, fun hended => ?_⟩
    cases hrunning.symm.trans hended
  | closed hclosed hkept =>
    refine ⟨⟨[], by simpa using hclosed.mem_words⟩, fun _ _ => hclosed.isAnswer_of_log_eq,
      fun hrunning => ?_, fun _ => ⟨fun _ => hkept, fun _ => ⟨hclosed.mem_words, hclosed.count_eq⟩⟩⟩
    cases hclosed.isRunning_eq.symm.trans hrunning
  | brokenOff hended halive hbreaks =>
    refine ⟨⟨_, append_closed_mem_words halive.mem_upTo⟩, hunclosed halive,
      fun _ => halive.notMem, fun _ => ⟨fun htold => ?_, fun hkept => (hbreaks hkept).elim⟩⟩
    have hnever := htold.2
    rw [List.count_eq_zero.2 halive.notMem] at hnever
    cases hnever

/-- A connection whose handshake may last beyond the clock's end has ended, and never tells. -/
theorem not_closed_of_endless_handshake :
    ∃ h, startAt { handshakeTimeout := 18446744073709551615, memorySize := some 4 } []
        { now := 0 } = .ok h ∧
      (h.run [⟨.stop, { now := 0 }⟩]).isRunning = false ∧
      (Effect.events (h.run [⟨.stop, { now := 0 }⟩]).log).count .closed = 0 := by
  refine ⟨_, rfl, ?_, ?_⟩
  · decide +kernel
  · decide +kernel

end Host

end SpaGateway
