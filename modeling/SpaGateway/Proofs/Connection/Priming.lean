import Mathlib.Tactic
import SpaGateway.Proofs.Command.Conveyance
import SpaGateway.Proofs.Connection.Delivery
import SpaGateway.Proofs.Connection.Replies

/-!
# What a session begins with

Once a spa has answered the hello, it is asked for its versions and for all of its memory.  The
session wants only the first to be sent, right after it has told of the handshake.  But the
connection requests the memory as soon as it is told, so the request goes out before the query that
is to prime the session (`Connection.effects_onPackage_of_welcome`).

The queries are told from everything else by what the spa reads.  `Connection.queries_react` says
that a reaction hands just those to the link that the session owes, which is one for each handshake,
and none on behalf of a command.  `Host.primed_iff` says of every run how a session begins: the
query is handed over once, behind the request, so it is the first package to be sent exactly if the
link refuses the request and takes the query.
-/

namespace SpaGateway

/-! ## Version queries -/

/-- Whether this asks for the versions. -/
def Payload.isVersionQuery : Payload → Bool
  | versionQuery _ => true
  | _ => false

/-- Whether the spa reads a package as a version query. -/
def Package.asksVersion : Package → Bool
  | authorized _ _ (.data payload) => (Payload.parse? payload).any Payload.isVersionQuery
  | _ => false

/-- Nothing else is taken for a version query, even if it does not fit its layout. -/
@[simp] lemma Package.asksVersion_compose (source destination : Option Octets) (d : Payload) :
    (authorized source destination (.data d.compose)).asksVersion = d.isVersionQuery := by
  refine Payload.any_parse?_compose fun hfits => ?_
  cases d with
  | versionQuery => exact (hfits trivial).elim
  | version | statusRequest | statusChunk | statusPush | statusAck | pack | setWatercare => rfl

/-- The query that a session owes for a call, which is one if the call completes the handshake. -/
def Session.query? (s : Session) (call : SessionCall) : Option Package :=
  (s.welcome? call).map fun greeting =>
    .authorized (some s.key) (some greeting.1) (.data (Payload.versionQuery s.seq).compose)

/-- The version queries among the packages that a session wants to be sent. -/
def SessionOutput.queries (outputs : List SessionOutput) : List Package :=
  (outputs.filterMap package?).filter Package.asksVersion

lemma SessionOutput.queries_transmit_cons (package : Package) (outputs : List SessionOutput) :
    queries (.transmit package :: outputs) =
      [package].filter Package.asksVersion ++ queries outputs :=
  List.filter_append [package] (outputs.filterMap package?)

/-- **A session asks for the versions once in each handshake.** -/
lemma Session.Move.queries_eq {s s' : Session} {now : Nat} {call : SessionCall}
    {outputs : List SessionOutput} (h : s.Move now call s' outputs) :
    SessionOutput.queries outputs = (s.query? call).toList := by
  cases h with
  | welcome hphase hpeer =>
    rw [query?, welcome?_eq_some_iff.2 ⟨hphase, hpeer, rfl⟩]
    simp [SessionOutput.queries, SessionOutput.package?, List.filterMap_cons,
      Payload.isVersionQuery]
  | ignore hignores =>
    rw [query?, welcome?_eq_none_of_ignores hignores]
    rfl
  | reject hphase hpayload =>
    rw [query?, welcome?_hello_eq_none hpayload]
    rfl
  | @accept source destination content haccepts => cases content <;> rfl
  | timeOut =>
    unfold unreachableReport
    split <;> rfl
  | start | fallSilent | ping | close => rfl

namespace Effect

/-- The version queries that are handed to the link, in order. -/
def queries (effects : List Effect) : List Package :=
  ((attempts effects).map Prod.snd).filter Package.asksVersion

/-- The first package that the link takes. -/
def firstSent? (effects : List Effect) : Option Package := effects.findSome? sent?

variable {effects effects' : List Effect}

@[simp] lemma queries_append :
    queries (effects ++ effects') = queries effects ++ queries effects' := by
  simp [queries]

lemma queries_of_isAnswer (h : ∀ x ∈ effects, x.IsAnswer) : queries effects = [] := by
  rw [queries, attempts_of_isAnswer h]
  rfl

/-- Where no query is handed over, none is the first to be taken. -/
lemma asksVersion_firstSent? (h : queries effects = []) :
    (firstSent? effects).any Package.asksVersion = false := by
  rw [Option.any_eq_false_iff_get]
  intro hsome
  obtain ⟨x, hx, hsent⟩ := List.exists_of_findSome?_eq_some (Option.some_get hsome).symm
  cases x with
  | send purpose package fault =>
    have hpackage : package ∈ (attempts effects).map Prod.snd :=
      List.mem_map.2 ⟨(purpose, package), List.mem_filterMap.2 ⟨_, hx, rfl⟩, rfl⟩
    have hnone := List.filter_eq_nil_iff.1 h package hpackage
    cases fault with
    | none =>
      rw [← Option.some.inj hsent]
      simpa using hnone
    | some => cases hsent
  | feed | answer => cases hsent

end Effect

/-! ## Turns -/

namespace Turn

variable (t : Turn) (m : Moment)

/-- The version queries that a turn hands to the link, in order. -/
def queries (t : Turn) : List Package := Effect.queries t.effects

variable {t} in
lemma queries_of_attempts_eq {t' : Turn} {more : List (Purpose × Package)}
    (h : t'.attempts = t.attempts ++ more) :
    t'.queries = t.queries ++ (more.map Prod.snd).filter Package.asksVersion := by
  rw [attempts, attempts] at h
  rw [queries, queries, Effect.queries, h, List.map_append, List.filter_append]
  rfl

variable {t} in
lemma queries_of_attempts_eq_self {t' : Turn} (h : t'.attempts = t.attempts) :
    t'.queries = t.queries := by
  simpa using queries_of_attempts_eq (h.trans (List.append_nil _).symm)

lemma queries_send (purpose : Purpose) (package : Package) :
    (t.send m purpose package).queries = t.queries ++ [package].filter Package.asksVersion :=
  queries_of_attempts_eq (t.attempts_send m purpose package)

lemma queries_sendContent (purpose : Purpose) {d : Payload} (h : d.isVersionQuery = false) :
    (t.sendContent m purpose d.compose).queries = t.queries := by
  unfold sendContent
  split
  · rename_i package hframe
    obtain rfl := Session.eq_of_frame? hframe
    rw [queries_send]
    simp [h]
  · rfl

lemma queries_requestDownload : (t.requestDownload m).queries = t.queries := by
  unfold requestDownload
  split
  · dsimp only
    exact queries_sendContent _ m _ rfl
  · rfl

lemma queries_onData (payload : Octets) : (t.onData m payload).queries = t.queries := by
  rw [onData]
  split
  · rename_i changes _
    dsimp only
    rw [queries_sendContent _ m _ rfl]
    exact queries_of_attempts_eq_self (t.attempts_applyPush changes)
  · exact queries_of_attempts_eq_self (t.attempts_takeChunk m _ _ _)
  · exact queries_of_attempts_eq_self (t.attempts_feed _)
  · rfl

/-- Whatever a session tells, the connection asks for no versions of its own accord. -/
lemma queries_onSessionEvent (event : SessionEvent) :
    (t.onSessionEvent m event).queries = t.queries := by
  cases event with
  | authorized peer name =>
    rw [onSessionEvent, queries_requestDownload]
    exact queries_of_attempts_eq_self (t.attempts_feed _)
  | data source payload => exact t.queries_onData m payload
  | malformedHandshake => rfl
  | expired | unreachable => exact queries_of_attempts_eq_self (by simp [onSessionEvent])

lemma queries_foldl_carryOut (outputs : List SessionOutput) :
    (outputs.foldl (fun t output => t.carryOut m output) t).queries =
      t.queries ++ SessionOutput.queries outputs := by
  induction outputs generalizing t with
  | nil => exact (List.append_nil _).symm
  | cons output outputs ih =>
    rw [List.foldl_cons, ih]
    cases output with
    | transmit package =>
      rw [carryOut, queries_send, List.append_assoc, SessionOutput.queries_transmit_cons]
    | event event =>
      rw [carryOut, queries_onSessionEvent]
      rfl

/-- So a turn of the session hands over what the session wants. -/
lemma queries_applySession (step : Session × List SessionOutput) :
    (t.applySession m step).queries = t.queries ++ SessionOutput.queries step.2 :=
  (t.update ({ · with session := step.1 })).queries_foldl_carryOut m step.2

lemma queries_renewDownload :
    (Connection.renewDownload (Connection.retryDownload t m) m).queries = t.queries := by
  unfold Connection.renewDownload Connection.retryDownload
  repeat' split
  all_goals simp only [queries_requestDownload]

end Turn

/-! ## Commands -/

namespace TranslatedCommand

variable {settings : CommandSettings} {command : Command} {c left : TranslatedCommand}

/-- No payload of a command asks for the versions. -/
lemma Renders.exists_payload (h : c.Renders settings command) {t t' : Translator}
    {payload : Octets} (hnext : t.nextPayload c = (some payload, left, t')) :
    left.Renders settings command ∧
      ∃ d : Payload, payload = d.compose ∧ d.isVersionQuery = false := by
  have hleft : c.rest t = left := by rw [TranslatedCommand.rest, hnext]
  refine ⟨hleft ▸ h.rest t, ?_⟩
  obtain ⟨payload? | ⟨key, n⟩, spacing⟩ := c
  · obtain ⟨rfl, -⟩ := Prod.mk.inj hnext
    obtain ⟨number, hpayload⟩ := h payload rfl
    exact ⟨_, hpayload, by cases command <;> rfl⟩
  · simp only [Translator.nextPayload] at hnext
    split at hnext
    · cases hnext
    · obtain ⟨hpayload, -⟩ := Prod.mk.inj hnext
      exact ⟨.pack t.seq t.settings.packType (.keyPress key), (Option.some.inj hpayload).symm, rfl⟩

/-- What is left of a command after some of its payloads still renders it. -/
lemma Takes.renders {rules : Translator} {payloads : List Octets}
    (h : c.Takes rules payloads left) (hc : c.Renders settings command) :
    left.Renders settings command := by
  induction h with
  | nothing => exact hc
  | next _ _ next_eq ih => exact (ih.exists_payload next_eq).1

end TranslatedCommand

/-- Whether a request is for something that a command asks for. -/
def Request.HasCommand (r : Request) : Prop :=
  ∃ settings command, r.command.Renders settings command

/-- Requests that wait are for commands if those that were received are. -/
lemma Ledger.hasCommand {rules : Translator} {received : List Request} {log : List Effect}
    {queue : List Request} (h : Ledger rules received log queue)
    (hreceived : ∀ r ∈ received, r.HasCommand) : ∀ r ∈ queue, r.HasCommand := by
  cases h with
  | idle => simp
  | busy settled hsettled hfront =>
    rw [List.forall_mem_append, List.forall_mem_cons] at hreceived
    obtain ⟨-, ⟨settings, command, hcommand⟩, hrest⟩ := hreceived
    refine List.forall_mem_cons.2 ⟨⟨settings, command, ?_⟩, hrest⟩
    cases hfront with
    | underway takes => exact takes.renders hcommand

namespace Turn

variable {t : Turn} (m : Moment)

/-- A payload at the front of the queue is handed over, while the session is authorized. -/
lemma attempts_flushFront {front : Request} (rest : List Request) {payload? : Option Octets}
    {left : TranslatedCommand} {translator : Translator}
    (hnext : t.connection.translator.nextPayload front.command = (payload?, left, translator)) :
    (t.flushFront m front rest).turn.attempts = t.attempts ++
      ((payload?.bind fun payload => t.connection.session.frame? (.data payload)).map
        (Purpose.command front.ticket, ·)).toList := by
  unfold flushFront
  rw [hnext]
  cases payload? with
  | none => simp [Flushed.turn]
  | some payload =>
    cases hframe : t.connection.session.frame? (.data payload) with
    | none => simp [hframe, Flushed.turn]
    | some package =>
      cases hfault : m.fault? t.sends <;> cases hdone : left.isEmpty <;>
        simp [hframe, hfault, hdone, Flushed.turn]

/-- It asks for no versions, and neither do those that stay behind. -/
lemma queries_flushFront {front : Request} {rest : List Request} (hfront : front.HasCommand)
    (hrest : ∀ r ∈ rest, r.HasCommand) :
    (t.flushFront m front rest).turn.queries = t.queries ∧
      ∀ r ∈ (t.flushFront m front rest).turn.connection.queue, r.HasCommand := by
  obtain ⟨settings, command, hcommand⟩ := hfront
  rcases hnext : t.connection.translator.nextPayload front.command with ⟨payload?, left, translator⟩
  have hqueries := queries_of_attempts_eq (t.attempts_flushFront m rest hnext)
  cases payload? with
  | none =>
    refine ⟨hqueries.trans (List.append_nil _), ?_⟩
    rw [flushFront, hnext]
    exact hrest
  | some payload =>
    obtain ⟨hleft, d, rfl, hd⟩ := hcommand.exists_payload hnext
    constructor
    · rw [hqueries, Option.bind_some]
      cases hframe : t.connection.session.frame? (.data d.compose) with
      | none => exact List.append_nil _
      | some package =>
        obtain rfl := Session.eq_of_frame? hframe
        simp [hd]
    · intro r hr
      obtain ⟨-, ⟨hqueue, -⟩ | ⟨-, -, hqueue, -⟩ | ⟨-, -, hqueue, -⟩⟩ :=
        t.flushFront_spec m rest hnext
      · rw [hqueue] at hr
        cases hr
      · exact hrest r (hqueue ▸ hr)
      · rw [hqueue] at hr
        split at hr
        · exact hrest r hr
        · rcases List.mem_cons.1 hr with rfl | hr
          · exact ⟨settings, command, hleft⟩
          · exact hrest r hr

lemma queries_flushRounds (rounds : Nat) (hqueue : ∀ r ∈ t.connection.queue, r.HasCommand) :
    (flushRounds m rounds t).queries = t.queries := by
  induction rounds generalizing t with
  | zero => rfl
  | succ rounds ih =>
    unfold flushRounds
    split
    · split
      · rfl
      · rename_i front rest hfront
        rw [hfront, List.forall_mem_cons] at hqueue
        obtain ⟨hsame, hleft⟩ := t.queries_flushFront m hqueue.1 hqueue.2
        split
        · rename_i t' hmoved
          rw [hmoved] at hsame hleft
          exact (ih hleft).trans hsame
        · rename_i t' hfailed
          rwa [hfailed] at hsame
    · rfl

/-- **Working off the queue asks for no versions.** -/
lemma queries_flushQueue (hqueue : ∀ r ∈ t.connection.queue, r.HasCommand) :
    (t.flushQueue m).queries = t.queries := queries_flushRounds m _ hqueue

end Turn

/-! ## Reactions -/

namespace Connection

variable {c : Connection} {rules : Translator} {received : List Request} {before : List Effect}

/-- **A reaction hands over the queries that the session owes**, which is one if the reaction
completes the handshake, and none otherwise. -/
theorem queries_react (hledger : Ledger c.translator.rules received before c.queue)
    (hidle : c.IsIdle) (m : Moment) {input : Input}
    (hrequest : ∀ r ∈ input.request?, r.command.isEmpty = false)
    (hreceived : ∀ r ∈ received ++ input.request?.toList, r.HasCommand) :
    (c.react m input).queries = (c.session.query? (call m input)).toList := by
  have hmove : c.session.Move m.now (call m input) _ _ := Session.move_perform _
  cases hflush : c.beforeFlush? m input with
  | some t =>
    obtain ⟨hserves, -⟩ := serves_beforeFlush? hledger hidle hrequest hflush
    rw [react_of_beforeFlush? hflush, t.queries_flushQueue m (hserves.ledger.hasCommand hreceived)]
    cases input with
    | request r =>
      obtain rfl := Option.some.inj hflush
      refine Turn.queries_of_attempts_eq_self (t := { connection := c }) ?_
      unfold Turn.enqueue
      dsimp only
      split
      · rfl
      · rfl
    | timer =>
      obtain rfl := Option.some.inj hflush
      rw [Turn.queries_renewDownload, Turn.queries_applySession]
      exact hmove.queries_eq
    | package | close => cases hflush
  | none =>
    cases input with
    | package package =>
      rw [react, onPackage]
      cases hforeign : c.foreignData? package with
      | some payload =>
        obtain ⟨source, destination, rfl, -⟩ := exists_of_foreignData? hforeign
        dsimp only
        split
        · exact Turn.queries_of_attempts_eq_self (t := { connection := c })
            (Turn.attempts_applyPush _ _)
        · rfl
      | none =>
        exact (Turn.queries_applySession _ m _).trans hmove.queries_eq
    | close =>
      refine Turn.queries_of_attempts_eq_self (t := { connection := c }) ?_
      rw [react, close]
      simp
      rfl
    | request | timer => cases hflush

/-- The request for all of the memory. -/
def memoryRequest (c : Connection) (peer : Octets) : Package :=
  .authorized (some c.session.key) (some peer)
    (.data (Payload.statusRequest c.translator.seq 0 c.image.size.toUInt16).compose)

/-- **What comes of a handshake**: it is told, the memory is requested, and only then does the query
go out. -/
lemma effects_onPackage_of_welcome (m : Moment) {package : Package} {peer name : Octets}
    (h : c.session.welcome? (.handle package) = some (peer, name)) :
    (c.onPackage m package).effects =
      [.feed (.authorized name.toTextLossy),
        .send .download (c.memoryRequest peer) (m.fault? 0),
        .send .session (.authorized (some c.session.key) (some peer)
          (.data (Payload.versionQuery c.session.seq).compose)) (m.fault? 1)] := by
  obtain ⟨hphase, hpeer, hpackage⟩ := Session.welcome?_eq_some_iff.1 h
  obtain rfl := SessionCall.handle.inj hpackage
  have hforeign : c.foreignData? (.hello (peer ++ helloDelimiter :: name)) = none := rfl
  rw [onPackage, hforeign]
  dsimp only
  rw [Session.handle, Session.handleHello_of_notMem hphase hpeer]
  rfl

end Connection

/-! ## Runs -/

namespace Host

lemma IsRequestOf.hasCommand {rules : Translator} {submitted : List Command} {r : Request}
    (h : IsRequestOf rules submitted r) : r.HasCommand := by
  obtain ⟨command, t, t', -, -, htranslate, -⟩ := h
  exact ⟨_, command, t.renders_of_translate htranslate⟩

namespace Entry

/-- The query that the session owes for what it meets in a step. -/
def query? (e : Entry) : Option Package :=
  e.input?.bind fun input =>
    e.before.connection.session.query? (Connection.call e.happening.moment input)

variable {e : Entry}

/-- A query is owed for a handshake, and for nothing else. -/
lemma query?_eq (e : Entry) :
    e.query? = e.welcome?.map fun greeting =>
      .authorized (some e.before.connection.session.key) (some greeting.1)
        (.data (Payload.versionQuery e.before.connection.session.seq).compose) := by
  rw [query?, welcome?]
  cases e.input? with
  | none => rfl
  | some input => cases input <;> rfl

lemma queries_effects {rules : Translator} {submitted : List Command} {received : List Request}
    {notes : List Effect} {others : List Nat}
    (hbooks : Books rules submitted received notes others e.before) :
    Effect.queries e.effects = e.query?.toList := by
  obtain ⟨-, answers, heffects, hall⟩ := e.spec
  rw [heffects, Effect.queries_append, Effect.queries_of_isAnswer hall, List.append_nil, turn,
    query?]
  cases hinput : e.input? with
  | none => rfl
  | some input =>
    have hledger := hbooks.ledger
    rw [← hbooks.rules_eq] at hledger
    have hwaits : ∀ r ∈ input.request?, IsRequestOf rules submitted r := by
      intro r hr
      have hreceived : e.received? = some r := by
        rw [received?, hinput, Option.bind_some]
        exact hr
      obtain ⟨-, place, -, hplace⟩ := received?_eq_some_iff.1 hreceived
      exact hbooks.isRequestOf r (List.mem_append_right _ (List.mem_of_getElem? hplace))
    refine Connection.queries_react hledger hbooks.isIdle _
      (fun r hr => (hwaits r hr).isEmpty_eq_false) fun r hr => ?_
    rcases List.mem_append.1 hr with hr | hr
    · exact (hbooks.isRequestOf r (List.mem_append_left _ hr)).hasCommand
    · exact (hwaits r (Option.mem_toList.1 hr)).hasCommand

lemma effects_of_welcome? {peer name : Octets} (h : e.welcome? = some (peer, name)) :
    ∃ query answers, e.query? = some query ∧
      e.effects =
        .feed (.authorized name.toTextLossy) ::
          .send .download (e.before.connection.memoryRequest peer) (e.happening.moment.fault? 0) ::
            .send .session query (e.happening.moment.fault? 1) :: answers ∧
      ∀ x ∈ answers, x.IsAnswer := by
  obtain ⟨-, answers, heffects, hall⟩ := e.spec
  refine ⟨_, answers, by rw [query?_eq, h]; rfl, ?_, hall⟩
  rw [heffects, turn]
  rw [welcome?] at h
  split at h
  · rename_i package hinput
    rw [hinput]
    dsimp only [Connection.react]
    rw [Connection.effects_onPackage_of_welcome _ h]
    rfl
  · cases h

/-- How a session begins with a handshake, given the steps of the run before it and after it. -/
structure Begins (e : Entry) (earlier later : List Entry) (peer name : Octets) : Prop where
  /-- The query goes to the peer under the key of the session, numbered by the handshakes before. -/
  query?_eq : e.query? = some (.authorized (some e.before.connection.session.key) (some peer)
    (.data (Payload.versionQuery (earlier.filterMap welcome?).length.toUInt8).compose))
  /-- The handshake is told, then the memory is requested, and then the query is handed over. -/
  effects_eq : ∃ query answers, e.query? = some query ∧
    e.effects =
      .feed (.authorized name.toTextLossy) ::
        .send .download (e.before.connection.memoryRequest peer) (e.happening.moment.fault? 0) ::
          .send .session query (e.happening.moment.fault? 1) :: answers ∧
    ∀ x ∈ answers, x.IsAnswer
  /-- Up to the next handshake, the first package that the link takes is a version query exactly if
  the link refuses the request and takes the query. -/
  first_iff : (∀ e' ∈ later, e'.welcome? = none) →
    ((Effect.firstSent? ((e :: later).flatMap Entry.effects)).any Package.asksVersion = true ↔
      (e.happening.moment.fault? 0).isSome ∧ e.happening.moment.fault? 1 = none)

/-- Nothing that comes after the handshake is a version query, so the first two packages decide. -/
lemma asksVersion_firstSent?_iff {peer name : Octets} (h : e.welcome? = some (peer, name))
    {later : List Effect} (hlater : Effect.queries later = []) :
    (Effect.firstSent? (e.effects ++ later)).any Package.asksVersion = true ↔
      (e.happening.moment.fault? 0).isSome ∧ e.happening.moment.fault? 1 = none := by
  obtain ⟨query, answers, hquery, heffects, hall⟩ := effects_of_welcome? h
  rw [query?_eq, h] at hquery
  obtain rfl := Option.some.inj hquery
  have hrest : (Effect.firstSent? (answers ++ later)).any Package.asksVersion = false := by
    refine Effect.asksVersion_firstSent? ?_
    rw [Effect.queries_append, Effect.queries_of_isAnswer hall, hlater]
    rfl
  rw [heffects]
  rw [Effect.firstSent?] at hrest ⊢
  simp only [List.cons_append, List.findSome?_cons]
  cases e.happening.moment.fault? 0 with
  | none => simp [Effect.sent?, Connection.memoryRequest, Payload.isVersionQuery]
  | some =>
    cases e.happening.moment.fault? 1 with
    | none => simp [Effect.sent?, Payload.isVersionQuery]
    | some => simp only [Effect.sent?, hrest]; simp

end Entry

section

variable {rules : Translator} {notes : List Effect} {others : List Nat} {h : Host}

/-- Every step of a run hands over the query that is owed in it. -/
lemma Books.queries_of_mem_history (hbooks : Books rules [] [] notes others h)
    {happenings : List Happening} {e : Entry} (he : e ∈ h.history happenings) :
    Effect.queries e.effects = e.query?.toList := by
  obtain ⟨earlier, later, hhistory⟩ := List.append_of_mem he
  obtain ⟨past, -, hbefore⟩ := exists_of_history_eq hhistory
  obtain ⟨notes', others', hpast⟩ := hbooks.run past
  rw [← hbefore] at hpast
  exact Entry.queries_effects hpast

lemma queries_flatMap_effects {steps : List Entry}
    (h : ∀ e ∈ steps, Effect.queries e.effects = e.query?.toList) :
    Effect.queries (steps.flatMap Entry.effects) = steps.filterMap Entry.query? := by
  induction steps with
  | nil => rfl
  | cons e steps ih =>
    rw [List.forall_mem_cons] at h
    rw [List.flatMap_cons, Effect.queries_append, h.1, ih h.2]
    cases hquery : e.query? <;> simp [hquery]

end

/-- **How sessions begin.**  In every run, the version queries that are handed to the link are those
of the handshakes, one for each and in their order.  Each session begins with the request for all of
the memory, and its query comes right after that, before everything else.  So the first package that
is sent in a session is its query exactly if the link refuses the request and takes the query. -/
theorem primed_iff (config : GatewayConfig) (size : UInt16) (key : Octets) (m : Moment) :
    ∃ begun, startAt { config with memorySize := some size } key m = .ok begun ∧
      ∀ happenings,
        Effect.queries (begun.run happenings).log =
            (begun.history happenings).filterMap Entry.query? ∧
          ∀ earlier e later peer name, begun.history happenings = earlier ++ e :: later →
            e.welcome? = some (peer, name) → e.Begins earlier later peer name := by
  have hsize : GatewayConfig.memorySize { config with memorySize := some size } = some size := rfl
  obtain ⟨begun, notes, hstart, hbegin⟩ := exists_books_startAt config size key m
  have hnone : Effect.queries begun.log = [] := by
    obtain ⟨begun', hstart', -, -, answers, hlog, hall⟩ := startAt_eq_ok hsize key m
    obtain rfl := Except.ok.inj (hstart.symm.trans hstart')
    rw [hlog, ← List.singleton_append, Effect.queries_append, Effect.queries_of_isAnswer hall]
    rfl
  refine ⟨begun, hstart, fun happenings => ?_⟩
  have hsteps : ∀ e ∈ begun.history happenings, Effect.queries e.effects = e.query?.toList :=
    fun e he => hbegin.queries_of_mem_history he
  refine ⟨?_, fun earlier e later peer name hhistory hwelcome => ⟨?_, ?_, fun hlast => ?_⟩⟩
  · rw [log_run, Effect.queries_append, hnone, List.nil_append, queries_flatMap_effects hsteps]
  · obtain ⟨past, hfollows, hwelcomes⟩ := exists_follows_startAt hstart
    obtain ⟨before, rfl, hbefore⟩ := exists_of_history_eq hhistory
    obtain ⟨past', hfollows', hwelcomes'⟩ := exists_follows_run hfollows hwelcomes before
    rw [Entry.query?_eq, hwelcome, hbefore, hfollows'.seq_eq, hwelcomes']
    rfl
  · exact Entry.effects_of_welcome? hwelcome
  · rw [hhistory, List.forall_mem_append, List.forall_mem_cons] at hsteps
    rw [List.flatMap_cons]
    refine Entry.asksVersion_firstSent?_iff hwelcome ?_
    rw [queries_flatMap_effects hsteps.2.2, List.filterMap_eq_nil_iff]
    intro e' he'
    rw [Entry.query?_eq, hlast e' he']
    rfl

/-- A link that refuses the request and takes the query: the session is primed first of all. -/
theorem primed_of_refused_request :
    let refuses : Nat → Option GatewayFault := fun n => if n = 0 then some .channelClosed else none
    let welcome : Happening := { answerHello with moment := { now := 0, fault? := refuses } }
    ∃ begun, startAt { memorySize := some 4 } [] { now := 0 } = .ok begun ∧
      (Entry.mk begun welcome).welcome? =
        some (Octets.ofChars ['i', 'd'], Octets.ofChars ['s', 'p', 'a']) ∧
      (Effect.firstSent? ((begun.history [welcome]).flatMap Entry.effects)).any
        Package.asksVersion = true := by
  intro refuses welcome
  obtain ⟨begun, hstart, hprimed⟩ := primed_iff {} 4 [] { now := 0 }
  have hbegun : startAt { memorySize := some 4 } [] { now := 0 } = .ok (started 1800) := rfl
  obtain rfl := Except.ok.inj (hbegun.symm.trans hstart)
  have hwelcome : (Entry.mk (started 1800) welcome).welcome? =
      some (Octets.ofChars ['i', 'd'], Octets.ofChars ['s', 'p', 'a']) := by decide +kernel
  have hbegins := (hprimed [welcome]).2 [] _ [] _ _ rfl hwelcome
  exact ⟨_, hstart, hwelcome, (hbegins.first_iff (by simp)).2 ⟨rfl, rfl⟩⟩

/-- Over a link that takes everything, the first package of a session is the request. -/
theorem not_primed_of_welcome :
    ∃ begun, startAt { memorySize := some 4 } [] { now := 0 } = .ok begun ∧
      (Entry.mk begun answerHello).welcome? =
        some (Octets.ofChars ['i', 'd'], Octets.ofChars ['s', 'p', 'a']) ∧
      let first? := Effect.firstSent? ((begun.history [answerHello]).flatMap Entry.effects)
      first? = some (.authorized (some []) (some (Octets.ofChars ['i', 'd']))
        (.data (Payload.statusRequest 0 0 4).compose)) ∧
      first?.any Package.asksVersion = false := by
  refine ⟨started 1800, rfl, ?_, ?_, ?_⟩
  · decide +kernel
  · decide +kernel
  · decide +kernel

end Host

end SpaGateway
