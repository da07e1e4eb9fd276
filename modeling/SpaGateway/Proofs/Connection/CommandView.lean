import Mathlib.Tactic
import SpaGateway.Proofs.Connection.Ledger
import SpaGateway.Proofs.Connection.MemoryView

/-!
# What a reaction does for the requests

What a turn does for the requests is said on a `CommandView`, which keeps the queue, what the
translator goes by, and the effects on requests.  Most parts of a turn leave that view alone.  The
others are moves of the ledger: an expiry and the end of the connection fail the queue, a request
joins it, and `Turn.Serves.flushQueue` follows the payloads as they leave it.

`Connection.serves_react` puts this together for every reaction.  It also keeps what the moves rely
on: without an authorized session the queue is empty, so a request that arrives then is answered at
once.
-/

namespace SpaGateway

/-- What a turn means for the requests. -/
structure CommandView where
  queue : List Request
  /-- What the translator goes by. -/
  rules : Translator
  /-- The effects on requests. -/
  notes : List Effect

lemma Effect.notes_map_answer (requests : List Request) (fault : Option CommandFault) :
    notes (requests.map fun r => .answer r.ticket fault) =
      requests.map fun r => .answer r.ticket fault :=
  List.filter_eq_self.2 (by simp [ticket?])

lemma Session.eq_of_frame? {s : Session} {content : Content} {package : Package}
    (h : s.frame? content = some package) :
    package = .authorized (some s.key) s.peer content := by
  unfold frame? at h
  split at h
  · exact (Option.some.inj h).symm
  · cases h

/-- Whether an output of the session tells of its expiry. -/
def SessionOutput.isExpiry : SessionOutput → Bool
  | event (.expired _) => true
  | _ => false

namespace Turn

/-- What a turn means for the requests. -/
def commandView (t : Turn) : CommandView :=
  ⟨t.connection.queue, t.connection.translator.rules, Effect.notes t.effects⟩

variable (t : Turn) (m : Moment)

/-! ## Parts that do not concern the requests -/

lemma commandView_update {f : Connection → Connection}
    (hqueue : (f t.connection).queue = t.connection.queue)
    (hrules : (f t.connection).translator.rules = t.connection.translator.rules) :
    (t.update f).commandView = t.commandView := by
  simp [commandView, hqueue, hrules]

lemma commandView_perform {effect : Effect} (h : effect.ticket? = none) :
    (t.perform effect).commandView = t.commandView := by
  simp [commandView, Effect.notes, h]

lemma commandView_send {purpose : Purpose} (h : ∀ ticket, purpose ≠ .command ticket)
    (package : Package) : (t.send m purpose package).commandView = t.commandView := by
  have hnone : (Effect.send purpose package (m.fault? t.sends)).ticket? = none := by
    cases purpose with
    | command ticket => exact (h ticket rfl).elim
    | session | download | acknowledgement => rfl
  exact t.commandView_perform hnone

lemma commandView_sendContent {purpose : Purpose} (h : ∀ ticket, purpose ≠ .command ticket)
    (payload : Octets) : (t.sendContent m purpose payload).commandView = t.commandView := by
  unfold sendContent
  split
  · exact t.commandView_send m h _
  · rfl

lemma commandView_applyUpdate (address : UInt16) (data : Octets) :
    (t.applyUpdate address data).commandView = t.commandView := by
  unfold applyUpdate
  split
  · rename_i changes _
    have hnotes : Effect.notes (changes.map fun change => .feed (.changed change)) = [] :=
      List.filter_eq_nil_iff.2 (by simp [Effect.ticket?])
    simp [commandView, connection_foldl_changed, effects_foldl_changed, hnotes]
  · exact t.commandView_perform rfl

lemma commandView_applyPush (changes : List StatusChange) :
    (t.applyPush changes).commandView = t.commandView := by
  induction changes generalizing t with
  | nil => rfl
  | cons change changes ih =>
    rw [applyPush, List.foldl_cons, ← applyPush, ih, commandView_applyUpdate]

lemma commandView_requestDownload : (t.requestDownload m).commandView = t.commandView := by
  unfold requestDownload
  split
  · dsimp only
    rw [commandView_sendContent _ m (by simp), commandView_update _ rfl rfl]
    exact t.commandView_update rfl rfl
  · rfl

lemma commandView_takeChunk (seq next : UInt8) (data : Octets) :
    (t.takeChunk m seq next data).commandView = t.commandView := by
  unfold takeChunk
  split
  · rfl
  · rename_i download hdownload
    split
    · rfl
    · -- the chunk may be written, and then the download may end
      dsimp only
      set advanced : Turn := t.update ({ · with
        download := some ⟨next, download.offset + data.length, m.now + Connection.stallTimeout⟩ })
        with hadvanced
      have hview : advanced.commandView = t.commandView := t.commandView_update rfl rfl
      have hwritten : (if download.offset < 65536 then
          advanced.applyUpdate download.offset.toUInt16 data else advanced).commandView =
            t.commandView := by
        split
        · rw [commandView_applyUpdate, hview]
        · exact hview
      generalize (if download.offset < 65536 then
        advanced.applyUpdate download.offset.toUInt16 data else advanced) = written at hwritten ⊢
      split
      · split
        · rw [feed, commandView_perform _ rfl, commandView_update _ rfl rfl, hwritten]
        · rw [commandView_update _ rfl rfl, hwritten]
      · exact hwritten

lemma commandView_onData (payload : Octets) : (t.onData m payload).commandView = t.commandView := by
  unfold onData
  split
  · dsimp only
    rw [commandView_sendContent _ m (by simp)]
    exact (commandView_update _ rfl rfl).trans (t.commandView_applyPush _)
  · exact t.commandView_takeChunk m _ _ _
  · exact t.commandView_perform rfl
  · rfl

lemma commandView_carryOut {output : SessionOutput} (h : output.isExpiry = false) :
    (t.carryOut m output).commandView = t.commandView := by
  cases output with
  | transmit package => exact t.commandView_send m (by simp) package
  | event event =>
    cases event with
    | authorized peer name =>
      exact (commandView_requestDownload _ m).trans (t.commandView_perform rfl)
    | data source payload => exact t.commandView_onData m payload
    | malformedHandshake => rfl
    | unreachable => exact t.commandView_perform rfl
    | expired => cases h

lemma commandView_foldl_carryOut {outputs : List SessionOutput}
    (h : ∀ o ∈ outputs, o.isExpiry = false) :
    (outputs.foldl (fun t output => t.carryOut m output) t).commandView = t.commandView := by
  induction outputs generalizing t with
  | nil => rfl
  | cons output outputs ih =>
    rw [List.forall_mem_cons] at h
    rw [List.foldl_cons, ih _ h.2, commandView_carryOut _ _ h.1]

lemma commandView_applySession {step : Session × List SessionOutput}
    (h : ∀ o ∈ step.2, o.isExpiry = false) :
    (t.applySession m step).commandView = t.commandView := by
  have hpublish : (t.applySession m step).commandView =
      (step.2.foldl (fun t output => t.carryOut m output)
        (t.update ({ · with session := step.1 }))).commandView := commandView_update _ rfl rfl
  rw [hpublish, commandView_foldl_carryOut _ m h]
  exact t.commandView_update rfl rfl

lemma commandView_retryDownload : (Connection.retryDownload t m).commandView = t.commandView := by
  unfold Connection.retryDownload
  split
  · exact t.commandView_requestDownload m
  · rfl

lemma commandView_renewDownload : (Connection.renewDownload t m).commandView = t.commandView := by
  unfold Connection.renewDownload
  split
  · exact t.commandView_requestDownload m
  · rfl

/-! ## Parts that do -/

@[simp] lemma sends_update (f : Connection → Connection) : (t.update f).sends = t.sends := rfl

/-- What the payload at the front of the queue leads to: the queue is failed as a whole, or the link
refuses the payload and the request is failed, or it is delivered, and the next one has to wait. -/
lemma flushFront_spec {front : Request} (rest : List Request) {payload : Octets}
    {left : TranslatedCommand} {translator : Translator}
    (hnext : t.connection.translator.nextPayload front.command = (some payload, left, translator)) :
    let t' := (t.flushFront m front rest).turn
    t'.connection.translator = translator ∧
      ((t'.connection.queue = [] ∧ t'.effects = t.effects ++ ((front :: rest).map fun r =>
          .answer r.ticket (some (.undelivered .notAuthorized))) ∧
          t'.connection.nextSend = t.connection.nextSend) ∨
        (∃ package fault, t'.connection.queue = rest ∧ t'.effects = t.effects ++
          [.send (.command front.ticket) package (some fault),
            .answer front.ticket (some (.undelivered (.link fault)))] ∧
          t'.connection.nextSend = t.connection.nextSend) ∨
        ∃ source destination,
          t'.connection.queue =
            (if left.isEmpty then rest else { front with command := left } :: rest) ∧
          t'.effects = t.effects ++ (.delivery front.ticket source destination payload ::
            if left.isEmpty then [.answer front.ticket none] else []) ∧
          t'.connection.nextSend = m.now + left.spacing) := by
  unfold flushFront
  rw [hnext]
  dsimp only
  cases hframe : t.connection.session.frame? (.data payload) with
  | none =>
    simp only [connection_update, hframe, Flushed.turn]
    exact ⟨by simp, .inl ⟨by simp, by simp, by simp⟩⟩
  | some package =>
    simp only [connection_update, hframe, sends_update]
    cases hfault : m.fault? t.sends with
    | some fault =>
      exact ⟨by simp [Flushed.turn], .inr (.inl ⟨package, fault, by simp [Flushed.turn],
        by simp [Flushed.turn, hfault], by simp [Flushed.turn]⟩)⟩
    | none =>
      obtain rfl := Session.eq_of_frame? hframe
      set s := t.connection.session
      refine ⟨?_, .inr (.inr ⟨some s.key, s.peer, ?_, ?_, ?_⟩)⟩ <;>
        cases hdone : left.isEmpty <;> simp [Flushed.turn, hfault, Effect.delivery, s]

/-- The turn goes on with the ledger that was kept before it. -/
structure Serves (rules : Translator) (received : List Request) (before : List Effect) (t : Turn) :
    Prop where
  rules_eq : t.connection.translator.rules = rules
  ledger : Ledger rules received (before ++ Effect.notes t.effects) t.connection.queue

namespace Serves

variable {rules : Translator} {received : List Request} {before : List Effect} {t t' : Turn}
  {m : Moment}

lemma of_commandView (h : Serves rules received before t) (hview : t'.commandView = t.commandView) :
    Serves rules received before t' := by
  obtain ⟨hqueue, hrules, hnotes⟩ := CommandView.mk.inj hview
  exact ⟨by rw [hrules, h.rules_eq], by rw [hqueue, hnotes]; exact h.ledger⟩

lemma failQueue (h : Serves rules received before t) (reason : DeliveryFault) :
    Serves rules received before (t.failQueue reason) := by
  refine ⟨by simpa using h.rules_eq, ?_⟩
  rw [effects_failQueue, Effect.notes_append, Effect.notes_map_answer, ← List.append_assoc,
    connection_failQueue]
  exact h.ledger.fail reason

/-- A request joins the queue. -/
lemma enqueue (h : Serves rules received before t)
    (hauthorized : t.connection.session.isAuthorized = true) {r : Request}
    (hr : r.command.isEmpty = false) : Serves rules (received ++ [r]) before (t.enqueue r) := by
  rw [Turn.enqueue, if_pos hauthorized]
  exact ⟨h.rules_eq, h.ledger.receive hr⟩

/-- The payload at the front of the queue moves the ledger on. -/
lemma flushFront (h : Serves rules received before t) {front : Request} {rest : List Request}
    (hqueue : t.connection.queue = front :: rest) :
    Serves rules received before (t.flushFront m front rest).turn := by
  obtain ⟨hrules, hledger⟩ := h
  rw [hqueue] at hledger
  obtain ⟨payload, left, translator, hnext⟩ :=
    t.connection.translator.exists_nextPayload (hledger.isEmpty_eq_false List.mem_cons_self)
  have htranslator : translator.rules = rules := by
    have hkeep := t.connection.translator.rules_nextPayload front.command
    rw [hnext] at hkeep
    exact hkeep.trans hrules
  obtain ⟨htaken, hfailed | ⟨attempt, fault, hrefused⟩ | hdelivered⟩ :=
    t.flushFront_spec m rest hnext
  · obtain ⟨hqueue, heffects, -⟩ := hfailed
    refine ⟨by rw [htaken, htranslator], ?_⟩
    rw [heffects, hqueue, Effect.notes_append, Effect.notes_map_answer, ← List.append_assoc]
    exact hledger.fail .notAuthorized
  · obtain ⟨hqueue, heffects, -⟩ := hrefused
    refine ⟨by rw [htaken, htranslator], ?_⟩
    rw [heffects, hqueue, Effect.notes_append, ← List.append_assoc]
    exact hledger.abandon (.link fault) [_] (.inr ⟨attempt, fault, rfl⟩)
  · obtain ⟨source, destination, hqueue, heffects, -⟩ := hdelivered
    refine ⟨by rw [htaken, htranslator], ?_⟩
    have hmoved := hledger.deliver hrules hnext source destination
    rw [heffects, hqueue, Effect.notes_append, ← List.append_assoc]
    cases hdone : left.isEmpty with
    | true =>
      rw [hdone] at hmoved
      exact hmoved
    | false =>
      rw [hdone] at hmoved
      exact hmoved

lemma flushRounds (rounds : Nat) (h : Serves rules received before t) :
    Serves rules received before (Turn.flushRounds m rounds t) := by
  induction rounds generalizing t with
  | zero => exact h
  | succ rounds ih =>
    unfold Turn.flushRounds
    split
    · split
      · exact h
      · rename_i front rest hqueue
        have hfront := h.flushFront (m := m) hqueue
        split
        · rename_i t' hmoved
          rw [hmoved] at hfront
          exact ih hfront
        · rename_i t' hfailed
          rwa [hfailed] at hfront
    · exact h

/-- **Working off the queue moves the ledger on.** -/
lemma flushQueue (h : Serves rules received before t) :
    Serves rules received before (t.flushQueue m) := h.flushRounds _

end Serves

end Turn

/-! ## Sessions -/

lemma SessionOutput.IsQuiet.isExpiry_eq {output : SessionOutput} (h : output.IsQuiet) :
    output.isExpiry = false := by
  cases output with
  | transmit => rfl
  | event event =>
    cases event with
    | expired => exact h.elim
    | authorized | data | malformedHandshake | unreachable => rfl

namespace Session

variable (s : Session)

/-- A package neither expires a session nor ends its authorization. -/
lemma handle_spec (package : Package) (now : Nat) :
    (∀ o ∈ (s.handle package now).2, o.isExpiry = false) ∧
      (s.isAuthorized = true → (s.handle package now).1.isAuthorized = true) := by
  have hmove : s.Move now (.handle package) (s.handle package now).1 (s.handle package now).2 :=
    move_perform (.handle package)
  generalize (s.handle package now).1 = s', (s.handle package now).2 = outputs at hmove ⊢
  cases hmove with
  | ignore => exact ⟨by simp, id⟩
  | welcome => exact ⟨by simp [SessionOutput.isExpiry], fun _ => rfl⟩
  | reject => exact ⟨by simp [SessionOutput.isExpiry], id⟩
  | @accept _ _ content => exact ⟨by cases content <;> simp [answer, SessionOutput.isExpiry], id⟩

/-- Time leaves a session authorized as it was, or expires it. -/
lemma poll_spec (fresh : Octets) (now : Nat) :
    ((∀ o ∈ (s.poll fresh now).2, o.isExpiry = false) ∧
        (s.poll fresh now).1.isAuthorized = s.isAuthorized) ∨
      ∃ phase outputs, (s.poll fresh now).2 = .event (.expired phase) :: outputs ∧
        ∀ o ∈ outputs, o.isExpiry = false := by
  rcases s.poll_outputs fresh now with ⟨hquiet, hsession⟩ | ⟨phase, outputs, hexpired, hquiet⟩
  · exact .inl ⟨fun o ho => (hquiet o ho).isExpiry_eq, hsession⟩
  · exact .inr ⟨phase, outputs, hexpired, fun o ho => (hquiet o ho).isExpiry_eq⟩

end Session

/-! ## Reactions -/

/-- The request that an input brings. -/
def Input.request? : Input → Option Request
  | request r => some r
  | package _ | timer | close => none

/-- Without an authorized session, no request waits. -/
def Connection.IsIdle (c : Connection) : Prop := c.session.isAuthorized = false → c.queue = []

namespace Turn

variable (m : Moment) {rules : Translator} {received : List Request} {before : List Effect}

lemma flushRounds_of_queue_eq_nil (rounds : Nat) {t : Turn} (h : t.connection.queue = []) :
    flushRounds m rounds t = t := by
  cases rounds with
  | zero => rfl
  | succ rounds => rw [flushRounds, h, ite_self]

lemma flushQueue_of_queue_eq_nil {t : Turn} (h : t.connection.queue = []) : t.flushQueue m = t :=
  flushRounds_of_queue_eq_nil m _ h

/-- Of an expiry and what comes with it only the queue is concerned, which is failed. -/
lemma commandView_of_expired (t : Turn) (s : Session) (phase : SessionPhase)
    {outputs : List SessionOutput} (houtputs : ∀ o ∈ outputs, o.isExpiry = false) :
    (t.applySession m (s, .event (.expired phase) :: outputs)).commandView =
      (t.failQueue .sessionExpired).commandView := by
  set failed := ((t.update ({ · with session := s })).update
    ({ · with download := none, nextFullDownload := none })).failQueue .sessionExpired with hfailed
  have hpublish : (t.applySession m (s, .event (.expired phase) :: outputs)).commandView =
      (outputs.foldl (fun t output => t.carryOut m output) (failed.feed .expired)).commandView :=
    commandView_update _ rfl rfl
  rw [hpublish, commandView_foldl_carryOut _ m houtputs, feed, commandView_perform _ rfl, hfailed]
  simp [commandView]

/-- An expiry fails the queue, and the outputs after it leave the queue empty. -/
lemma serves_of_expired {t : Turn} (h : Serves rules received before t) (s : Session)
    (phase : SessionPhase) {outputs : List SessionOutput}
    (houtputs : ∀ o ∈ outputs, o.isExpiry = false) :
    Serves rules received before (t.applySession m (s, .event (.expired phase) :: outputs)) ∧
      (t.applySession m (s, .event (.expired phase) :: outputs)).connection.queue = [] := by
  have hview := commandView_of_expired m t s phase houtputs
  refine ⟨(h.failQueue .sessionExpired).of_commandView hview, ?_⟩
  have hqueue : (t.failQueue .sessionExpired).connection.queue = [] := by
    rw [connection_failQueue]
  exact (congrArg CommandView.queue hview).trans hqueue

end Turn

namespace Connection

variable {c : Connection} {received : List Request} {before : List Effect}

lemma serves_begin (h : Ledger c.translator.rules received before c.queue) :
    Turn.Serves c.translator.rules received before { connection := c } :=
  ⟨rfl, by simpa [Effect.notes] using h⟩

lemma enqueue_of_not_authorized (hsession : c.session.isAuthorized = false) (r : Request) :
    Turn.enqueue { connection := c } r = { connection := c, effects :=
      [.answer r.ticket (some (.undelivered (.sessionIs c.session.phase)))] } := by
  rw [Turn.enqueue, hsession]
  rfl

/-- A request that arrives without an authorized session is answered at once. -/
lemma onRequest_of_not_authorized (hidle : c.IsIdle) (hsession : c.session.isAuthorized = false)
    (m : Moment) (r : Request) :
    c.onRequest m r = { connection := c, effects :=
      [.answer r.ticket (some (.undelivered (.sessionIs c.session.phase)))] } := by
  rw [onRequest, enqueue_of_not_authorized hsession]
  exact Turn.flushQueue_of_queue_eq_nil m (hidle hsession)

lemma commandView_onPackage (m : Moment) (package : Package) :
    (c.onPackage m package).commandView = Turn.commandView { connection := c } := by
  unfold onPackage
  split
  · split
    · exact Turn.commandView_applyPush _ _
    · rfl
  · exact Turn.commandView_applySession _ m (c.session.handle_spec package m.now).1

/-- What keeps the requests and the authorization keeps the queue idle. -/
lemma IsIdle.of_commandView {t t' : Turn} (hidle : t.connection.IsIdle)
    (hview : t'.commandView = t.commandView) (hsession : t.connection.session.isAuthorized = true →
      t'.connection.session.isAuthorized = true) : t'.connection.IsIdle := by
  intro hafter
  have hqueue : t'.connection.queue = t.connection.queue := congrArg CommandView.queue hview
  rw [hqueue]
  refine hidle ?_
  by_contra hbefore
  have hkept := hsession (by simpa using hbefore)
  rw [hafter] at hkept
  cases hkept

lemma IsIdle.flushRounds {t : Turn} (hidle : t.connection.IsIdle) (m : Moment) (rounds : Nat) :
    (Turn.flushRounds m rounds t).connection.IsIdle := by
  intro hafter
  obtain ⟨⟨queue, translator, nextSend, hc⟩, -⟩ := Turn.queueWork_flushRounds m rounds t
  have hqueue : t.connection.queue = [] := hidle (by simpa [hc] using hafter)
  rwa [Turn.flushRounds_of_queue_eq_nil m rounds hqueue]

/-- The downloads that are due concern neither the session nor the requests. -/
lemma renewDownload_spec (t : Turn) (m : Moment) :
    (renewDownload (retryDownload t m) m).commandView = t.commandView ∧
      (renewDownload (retryDownload t m) m).connection.session = t.connection.session := by
  constructor
  · rw [Turn.commandView_renewDownload, Turn.commandView_retryDownload]
  · unfold renewDownload retryDownload
    repeat' split
    all_goals simp

lemma IsIdle.onPackage (hidle : c.IsIdle) (m : Moment) (package : Package) :
    (c.onPackage m package).connection.IsIdle := by
  have hsession : c.session.isAuthorized = true →
      (c.onPackage m package).connection.session.isAuthorized = true := by
    unfold Connection.onPackage
    split
    · split <;> simp
    · rw [Turn.session_applySession]
      exact (c.session.handle_spec package m.now).2
  exact of_commandView (t := { connection := c }) hidle (commandView_onPackage m package) hsession

/-- The turn whose queue is worked off at the end of a reaction, if one is. -/
def beforeFlush? (c : Connection) (m : Moment) : Input → Option Turn
  | .request r => some (Turn.enqueue { connection := c } r)
  | .timer =>
    let t := Turn.applySession { connection := c } m (c.session.poll m.freshKey m.now)
    some (renewDownload (retryDownload t m) m)
  | .package _ | .close => none

lemma react_of_beforeFlush? {m : Moment} {input : Input} {t : Turn}
    (h : c.beforeFlush? m input = some t) : c.react m input = t.flushQueue m := by
  cases input with
  | request | timer =>
    obtain rfl := Option.some.inj h
    rfl
  | package | close => cases h

/-- Up to the point where the queue is worked off, a reaction moves the ledger on. -/
lemma serves_beforeFlush? (hledger : Ledger c.translator.rules received before c.queue)
    (hidle : c.IsIdle) {m : Moment} {input : Input}
    (hrequest : ∀ r ∈ input.request?, r.command.isEmpty = false) {t : Turn}
    (ht : c.beforeFlush? m input = some t) :
    Turn.Serves c.translator.rules (received ++ input.request?.toList) before t ∧
      t.connection.IsIdle := by
  have hbegin := serves_begin hledger
  cases input with
  | package | close => cases ht
  | request r =>
    obtain rfl := Option.some.inj ht
    rw [Input.request?, Option.toList_some]
    cases hsession : c.session.isAuthorized with
    | false =>
      rw [enqueue_of_not_authorized hsession]
      rw [hidle hsession] at hledger
      have hanswered := (hledger.receive (hrequest r rfl)).abandon
        (.sessionIs c.session.phase) [] (.inl rfl)
      refine ⟨⟨rfl, ?_⟩, fun _ => hidle hsession⟩
      rw [hidle hsession]
      exact hanswered
    | true =>
      refine ⟨hbegin.enqueue hsession (hrequest r rfl), fun hafter => ?_⟩
      obtain ⟨⟨queue, translator, nextSend, hc⟩, -⟩ :=
        Turn.queueWork_enqueue { connection := c } r
      rw [hc] at hafter
      cases hsession.symm.trans hafter
  | timer =>
    obtain rfl := Option.some.inj ht
    rw [Input.request?, Option.toList_none, List.append_nil]
    set t := Turn.applySession { connection := c } m (c.session.poll m.freshKey m.now) with ht
    have hpolled : Turn.Serves c.translator.rules received before t ∧ t.connection.IsIdle := by
      rcases c.session.poll_spec m.freshKey m.now with
        ⟨hquiet, hsession⟩ | ⟨phase, outputs, hexpired, hquiet⟩
      · have hview := Turn.commandView_applySession { connection := c } m hquiet
        refine ⟨hbegin.of_commandView hview, ?_⟩
        refine IsIdle.of_commandView (t := { connection := c }) hidle hview ?_
        rw [Turn.session_applySession, hsession]
        exact id
      · rw [ht, ← Prod.eta (c.session.poll m.freshKey m.now), hexpired]
        obtain ⟨hserves, hqueue⟩ := Turn.serves_of_expired m hbegin
          (c.session.poll m.freshKey m.now).1 phase hquiet
        exact ⟨hserves, fun _ => hqueue⟩
    obtain ⟨hview, hsession⟩ := renewDownload_spec t m
    exact ⟨hpolled.1.of_commandView hview,
      hpolled.2.of_commandView hview (by rw [hsession]; exact id)⟩

/-- **What a reaction does for the requests**: the ledger goes on, with the request that arrives. -/
theorem serves_react (hledger : Ledger c.translator.rules received before c.queue)
    (hidle : c.IsIdle) (m : Moment) (input : Input)
    (hrequest : ∀ r ∈ input.request?, r.command.isEmpty = false) :
    Turn.Serves c.translator.rules (received ++ input.request?.toList) before (c.react m input) ∧
      (c.react m input).connection.IsIdle := by
  have hbegin := serves_begin hledger
  cases hflush : c.beforeFlush? m input with
  | some t =>
    obtain ⟨hserves, hidle'⟩ := serves_beforeFlush? hledger hidle hrequest hflush
    rw [react_of_beforeFlush? hflush]
    exact ⟨hserves.flushQueue, hidle'.flushRounds m _⟩
  | none =>
    cases input with
    | request | timer => cases hflush
    | package package =>
      rw [Input.request?, Option.toList_none, List.append_nil, react]
      exact ⟨hbegin.of_commandView (commandView_onPackage m package),
        hidle.onPackage m package⟩
    | close =>
      rw [Input.request?, Option.toList_none, List.append_nil, react, close]
      have hclosed : Turn.Serves c.translator.rules received before
          { connection := { c with session := c.session.close, download := none } } :=
        ⟨hbegin.rules_eq, hbegin.ledger⟩
      have hfailed := hclosed.failQueue .shuttingDown
      refine ⟨hfailed.of_commandView ?_, fun _ => ?_⟩
      · exact (Turn.commandView_perform _ rfl).trans (Turn.commandView_update _ rfl rfl)
      · simp

end Connection

end SpaGateway
