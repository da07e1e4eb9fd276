import Mathlib.Tactic
import SpaGateway.Proofs.Connection.Overhearing
import SpaGateway.Proofs.Connection.Wake
import SpaGateway.Proofs.Session.Safety

/-!
# Replies to the spa

A connection owes the spa a pong for a ping and an acknowledgement for a push, and nothing for
anything else that arrives.  What decides is spread out: data for others are caught before the
session sees them, the session looks at the destination for itself, and what the payload is read as
settles the rest.  `Connection.reply?` says in one place what is owed, and
`Connection.attempts_onPackage` that just this is handed to the link, whether the link takes it or
not.

Over a run, `Host.replies_run` says that the replies are those owed for the packages that arrived,
in their order.  They go under the key of the session to the spa that welcomed it last, which is
found in the history of the run (`Host.exists_follows_run`).
-/

namespace SpaGateway

/-! ## What is handed to the link -/

namespace Effect

/-- The package that is handed to the link, which may refuse it, and what for. -/
def attempt? : Effect → Option (Purpose × Package)
  | send purpose package _ => some (purpose, package)
  | _ => none

/-- What is handed to the link by some effects, in order. -/
def attempts (effects : List Effect) : List (Purpose × Package) := effects.filterMap attempt?

variable {effects effects' : List Effect}

@[simp] lemma attempts_append :
    attempts (effects ++ effects') = attempts effects ++ attempts effects' :=
  List.filterMap_append

lemma attempts_of_isFeed (h : ∀ x ∈ effects, x.IsFeed) : attempts effects = [] := by
  refine List.filterMap_eq_nil_iff.2 fun x hx => ?_
  cases x with
  | feed => rfl
  | send | answer => exact (h _ hx).elim

lemma attempts_of_isAnswer (h : ∀ x ∈ effects, x.IsAnswer) : attempts effects = [] := by
  refine List.filterMap_eq_nil_iff.2 fun x hx => ?_
  cases x with
  | answer => rfl
  | send | feed => exact (h _ hx).elim

/-- Whether a package is handed to the link in reply to another: an acknowledgement, or a pong. -/
def isReply : Purpose × Package → Bool
  | (.acknowledgement, _) => true
  | (.session, .authorized _ _ .pong) => true
  | _ => false

/-- The replies among some effects, in order. -/
def replies (effects : List Effect) : List (Purpose × Package) := (attempts effects).filter isReply

@[simp] lemma replies_append :
    replies (effects ++ effects') = replies effects ++ replies effects' := by
  rw [replies, attempts_append, List.filter_append, replies, replies]

lemma replies_of_isQueueWork (h : ∀ x ∈ effects, x.IsQueueWork) : replies effects = [] := by
  refine List.filter_eq_nil_iff.2 fun attempt hattempt => ?_
  obtain ⟨x, hx, hsent⟩ := List.mem_filterMap.1 hattempt
  cases x with
  | send purpose package fault =>
    obtain rfl := Option.some.inj hsent
    cases purpose with
    | command => simp [isReply]
    | session | download | acknowledgement => exact (h _ hx).elim
  | feed | answer => cases hsent

end Effect

namespace Turn

/-- What a turn hands to the link, in order. -/
def attempts (t : Turn) : List (Purpose × Package) := Effect.attempts t.effects

variable (t : Turn) (m : Moment)

@[simp] lemma attempts_update (f : Connection → Connection) :
    (t.update f).attempts = t.attempts := rfl

@[simp] lemma attempts_publish : t.publish.attempts = t.attempts := rfl

@[simp] lemma attempts_feed (event : FeedEvent) : (t.feed event).attempts = t.attempts := by
  simp [attempts, Effect.attempts, Effect.attempt?]

@[simp] lemma attempts_answer (ticket : Nat) (fault : Option CommandFault) :
    (t.answer ticket fault).attempts = t.attempts := by
  simp [attempts, Effect.attempts, Effect.attempt?]

@[simp] lemma attempts_send (purpose : Purpose) (package : Package) :
    (t.send m purpose package).attempts = t.attempts ++ [(purpose, package)] := by
  simp [attempts, Effect.attempts, Effect.attempt?]

lemma attempts_sendContent (purpose : Purpose) (payload : Octets) :
    (t.sendContent m purpose payload).attempts =
      t.attempts ++ ((t.connection.session.frame? (.data payload)).map (purpose, ·)).toList := by
  unfold sendContent
  split <;> simp [*]

variable {t} in
/-- Effects that hand nothing to the link add nothing to what is. -/
lemma attempts_of_effects_eq {t' : Turn} {more : List Effect} (h : t'.effects = t.effects ++ more)
    (hmore : Effect.attempts more = []) : t'.attempts = t.attempts := by
  rw [attempts, h, Effect.attempts_append, hmore, List.append_nil, attempts]

@[simp] lemma attempts_failQueue (fault : DeliveryFault) :
    (t.failQueue fault).attempts = t.attempts :=
  attempts_of_effects_eq (t.effects_failQueue fault)
    (Effect.attempts_of_isAnswer (by simp [Effect.IsAnswer]))

@[simp] lemma attempts_applyUpdate (address : UInt16) (data : Octets) :
    (t.applyUpdate address data).attempts = t.attempts := by
  obtain ⟨told, htold, hfeeds⟩ := t.effects_applyUpdate address data
  exact attempts_of_effects_eq htold (Effect.attempts_of_isFeed hfeeds)

@[simp] lemma attempts_applyPush (changes : List StatusChange) :
    (t.applyPush changes).attempts = t.attempts := by
  obtain ⟨told, htold, hfeeds⟩ := t.effects_applyPush changes
  exact attempts_of_effects_eq htold (Effect.attempts_of_isFeed hfeeds)

@[simp] lemma attempts_takeChunk (seq next : UInt8) (data : Octets) :
    (t.takeChunk m seq next data).attempts = t.attempts := by
  unfold takeChunk
  split
  · rfl
  · dsimp only
    repeat' split
    all_goals simp

/-- A new download is asked for by a single package. -/
lemma attempts_requestDownload :
    ∃ asked, (t.requestDownload m).attempts = t.attempts ++ asked ∧
      ∀ attempt ∈ asked, attempt.1 = .download := by
  unfold requestDownload
  split
  · dsimp only
    refine ⟨_, attempts_sendContent _ m _ _, fun attempt hattempt => ?_⟩
    obtain ⟨package, -, rfl⟩ := Option.map_eq_some_iff.1 (Option.mem_toList.1 hattempt)
    rfl
  · exact ⟨[], by simp, by simp⟩

/-! ## Replies of a turn -/

/-- The replies that a turn hands to the link, in order. -/
def replies (t : Turn) : List (Purpose × Package) := Effect.replies t.effects

lemma replies_eq_filter : t.replies = t.attempts.filter Effect.isReply := rfl

variable {t} in
lemma replies_of_attempts_eq {t' : Turn} {more : List (Purpose × Package)}
    (h : t'.attempts = t.attempts ++ more)
    (hmore : ∀ attempt ∈ more, Effect.isReply attempt = false) : t'.replies = t.replies := by
  have hnone : more.filter Effect.isReply = [] :=
    List.filter_eq_nil_iff.2 fun attempt hattempt => by simp [hmore attempt hattempt]
  rw [replies_eq_filter, h, List.filter_append, hnone, List.append_nil, replies_eq_filter]

lemma replies_requestDownload : (t.requestDownload m).replies = t.replies := by
  obtain ⟨asked, hattempts, hdownload⟩ := t.attempts_requestDownload m
  refine replies_of_attempts_eq hattempts fun attempt hattempt => ?_
  obtain ⟨purpose, package⟩ := attempt
  obtain rfl : purpose = .download := hdownload _ hattempt
  rfl

lemma replies_renewDownload :
    (Connection.renewDownload (Connection.retryDownload t m) m).replies = t.replies := by
  unfold Connection.renewDownload Connection.retryDownload
  repeat' split
  all_goals simp only [replies_requestDownload]

lemma QueueWork.replies_eq {t t' : Turn} (h : QueueWork t t') : t'.replies = t.replies := by
  obtain ⟨-, es, hes, hwork⟩ := h
  rw [replies, hes, Effect.replies_append, Effect.replies_of_isQueueWork hwork, List.append_nil,
    replies]

end Turn

/-- Whether an output of a session leads to no reply. -/
def SessionOutput.IsSilent : SessionOutput → Prop
  | transmit package => Effect.isReply (.session, package) = false
  | event (.data _ _) => False
  | _ => True

/-- A session replies to nothing but authorized packages. -/
lemma Session.Move.isSilent {s s' : Session} {now : Nat} {call : SessionCall}
    {outputs : List SessionOutput} (h : s.Move now call s' outputs)
    (hcall : ∀ source destination content,
      call ≠ .handle (.authorized source destination content)) :
    ∀ output ∈ outputs, output.IsSilent := by
  cases h with
  | accept => exact absurd rfl (hcall _ _ _)
  | timeOut =>
    unfold unreachableReport
    split <;> simp [SessionOutput.IsSilent, Effect.isReply]
  | ignore | start | welcome | reject | fallSilent | ping | close =>
    simp [SessionOutput.IsSilent, Effect.isReply]

namespace Turn

variable (t : Turn) (m : Moment)

lemma replies_carryOut {output : SessionOutput} (h : output.IsSilent) :
    (t.carryOut m output).replies = t.replies := by
  cases output with
  | transmit package =>
    exact replies_of_attempts_eq (t.attempts_send m .session package)
      (List.forall_mem_singleton.2 h)
  | event event =>
    cases event with
    | authorized peer name =>
      rw [carryOut, onSessionEvent, replies_requestDownload, replies_eq_filter, attempts_feed,
        replies_eq_filter]
    | data => exact h.elim
    | malformedHandshake => rfl
    | expired | unreachable => simp [carryOut, onSessionEvent, replies_eq_filter]

lemma replies_foldl_carryOut {outputs : List SessionOutput} (h : ∀ o ∈ outputs, o.IsSilent) :
    (outputs.foldl (fun t output => t.carryOut m output) t).replies = t.replies := by
  induction outputs generalizing t with
  | nil => rfl
  | cons output outputs ih =>
    rw [List.forall_mem_cons] at h
    rw [List.foldl_cons, ih _ h.2, replies_carryOut _ _ h.1]

lemma replies_applySession {step : Session × List SessionOutput} (h : ∀ o ∈ step.2, o.IsSilent) :
    (t.applySession m step).replies = t.replies :=
  (t.update ({ · with session := step.1 })).replies_foldl_carryOut m h

end Turn

/-! ## What is owed for a package -/

/-- What a content that is accepted asks for, with the sequence number that is due. -/
def Content.reply? (number : UInt8) : Content → Option (Purpose × Content)
  | ping => some (.session, .pong)
  | pong => none
  | data payload =>
    match Payload.parse? payload with
    | some (.statusPush _) => some (.acknowledgement, .data (Payload.statusAck number).compose)
    | _ => none

/-- Content on its way to the peer of a session, under the key of the session. -/
def Session.address (s : Session) (content : Content) : Package :=
  .authorized (some s.key) s.peer content

lemma Session.frame?_of_authorized {s : Session} (h : s.phase = .authorized) (content : Content) :
    s.frame? content = some (s.address content) := if_pos h

namespace Turn

variable (t : Turn) (m : Moment)

/-- Of the data for the session, only pushes are replied to. -/
lemma attempts_onData (h : t.connection.session.phase = .authorized) (payload : Octets) :
    (t.onData m payload).attempts = t.attempts ++
      (((Content.data payload).reply? t.connection.translator.seq).map
        (Prod.map id t.connection.session.address)).toList := by
  rw [onData, Content.reply?]
  split
  · rename_i changes hparse
    obtain ⟨image, himage⟩ := t.connection_applyPush changes
    dsimp only
    rw [hparse, attempts_sendContent]
    simp [himage, Session.frame?_of_authorized h, drawSeq, Translator.nextSeq]
  · rename_i hparse
    simp [hparse]
  · rename_i hparse
    simp [hparse]
  · simp

/-- A push for the session is applied, which is told, and then it is acknowledged. -/
lemma onData_of_push (h : t.connection.session.phase = .authorized) {payload : Octets}
    {changes : List StatusChange} (hpush : Payload.parse? payload = some (.statusPush changes)) :
    (t.onData m payload).connection.image =
        (pushUpdates payload).foldl MemoryImage.absorb t.connection.image ∧
      ∃ told fault, (t.onData m payload).effects = t.effects ++ told ++
        [.send .acknowledgement (t.connection.session.address
          (.data (Payload.statusAck t.connection.translator.seq).compose)) fault] ∧
        ∀ x ∈ told, x.IsFeed := by
  obtain ⟨image, hpushed⟩ := t.connection_applyPush changes
  obtain ⟨told, htold, hfeeds⟩ := t.effects_applyPush changes
  have hstep : MemoryStep t.view (pushUpdates payload) none (t.applyPush changes).view := by
    rw [t.view_applyPush, pushUpdates, hpush]
    exact .push changes
  have himage := hstep.image_eq
  rw [Option.toList_none, List.append_nil] at himage
  have hnumber : (t.applyPush changes).drawSeq.1 = t.connection.translator.seq := by
    rw [drawSeq, hpushed]
    rfl
  have hsession : (t.applyPush changes).drawSeq.2.connection.session = t.connection.session :=
    t.session_applyPush changes
  have hturn : t.onData m payload = (t.applyPush changes).drawSeq.2.sendContent m .acknowledgement
      (Payload.statusAck t.connection.translator.seq).compose := by
    rw [onData, hpush, ← hnumber]
  rw [hturn, connection_sendContent, effects_sendContent, hsession,
    Session.frame?_of_authorized h, effects_drawSeq, htold]
  exact ⟨himage, told, _, rfl, hfeeds⟩

end Turn

namespace Connection

/-- What a connection owes for a package: the reply to its content, if the session accepts it. -/
def reply? (c : Connection) : Package → Option (Purpose × Package)
  | .hello _ => none
  | .authorized _ destination content =>
    if c.session.accepts destination then
      (content.reply? c.translator.seq).map (Prod.map id c.session.address)
    else none

variable {c : Connection} {package : Package}

lemma reply?_of_not_accepts {destination : Option Octets}
    (h : c.session.accepts destination = false) (source : Option Octets) (content : Content) :
    c.reply? (.authorized source destination content) = none := by
  rw [reply?, h, if_neg Bool.false_ne_true]

/-- Data for others are not for the session. -/
lemma exists_of_foreignData? {payload : Octets} (h : c.foreignData? package = some payload) :
    ∃ source destination, package = .authorized source destination (.data payload) ∧
      c.session.accepts destination = false := by
  unfold foreignData? at h
  split at h
  · rename_i source destination data
    split at h
    · cases h
    · rename_i hother
      obtain rfl := Option.some.inj h
      exact ⟨source, some destination, rfl, by simp [Session.accepts, Session.isOther, hother]⟩
  · cases h

/-- **What a connection hands to the link for a package**: what it owes and nothing else, unless the
package completes the handshake. -/
theorem attempts_onPackage (c : Connection) (m : Moment) {package : Package}
    (h : c.session.welcome? (.handle package) = none) :
    (c.onPackage m package).attempts = (c.reply? package).toList := by
  cases hforeign : c.foreignData? package with
  | some payload =>
    obtain ⟨source, destination, rfl, haccepts⟩ := exists_of_foreignData? hforeign
    rw [reply?_of_not_accepts haccepts]
    exact Effect.attempts_of_isFeed (onPackage_of_foreign hforeign m).2
  | none =>
    have hmove : c.session.Move m.now (.handle package) (c.session.handle package m.now).1
        (c.session.handle package m.now).2 := Session.move_perform (.handle package)
    rw [onPackage, hforeign]
    dsimp only
    rw [← Prod.eta (c.session.handle package m.now), Turn.applySession, Turn.attempts_publish]
    generalize (c.session.handle package m.now).1 = s', (c.session.handle package m.now).2 = outputs
      at hmove ⊢
    cases hmove with
    | ignore hignores =>
      cases package with
      | hello => rfl
      | authorized source destination content =>
        rw [reply?_of_not_accepts hignores]
        rfl
    | welcome hphase hpeer =>
      rw [Session.welcome?_eq_some_iff.2 ⟨hphase, hpeer, rfl⟩] at h
      cases h
    | reject => rfl
    | @accept source destination content haccepts =>
      obtain ⟨hphase, -⟩ := Session.accepts_eq_true_iff.1 haccepts
      rw [reply?, if_pos haccepts]
      cases content with
      | ping => rfl
      | pong => rfl
      | data payload =>
        set t : Turn := Turn.update { connection := c } ({ · with
          session := { c.session with lastActivity := m.now } }) with ht
        exact t.attempts_onData m hphase payload

lemma isReply_of_reply? {reply : Purpose × Package} (h : c.reply? package = some reply) :
    Effect.isReply reply = true := by
  cases package with
  | hello => cases h
  | authorized source destination content =>
    rw [reply?] at h
    split at h
    · obtain ⟨⟨purpose, content'⟩, hcontent, rfl⟩ := Option.map_eq_some_iff.1 h
      cases content with
      | ping =>
        obtain ⟨rfl, rfl⟩ := Prod.mk.inj (Option.some.inj hcontent)
        rfl
      | pong => cases hcontent
      | data payload =>
        rw [Content.reply?] at hcontent
        split at hcontent
        · obtain ⟨rfl, rfl⟩ := Prod.mk.inj (Option.some.inj hcontent)
          rfl
        · cases hcontent
    · cases h

/-- **What a reaction replies**: what is owed for a package that arrived, and nothing otherwise. -/
theorem replies_react (c : Connection) (m : Moment) (input : Input) :
    (c.react m input).replies =
      match input with
      | .package package => (c.reply? package).toList
      | _ => [] := by
  cases input with
  | package package =>
    cases package with
    | hello payload =>
      have hmove : c.session.Move m.now (.handle (.hello payload)) _ _ := Session.move_perform _
      exact Turn.replies_applySession _ m (hmove.isSilent (by simp))
    | authorized source destination content =>
      have hattempts : (c.onPackage m (.authorized source destination content)).attempts =
          (c.reply? (.authorized source destination content)).toList := c.attempts_onPackage m rfl
      dsimp only
      rw [react, Turn.replies_eq_filter, hattempts, List.filter_eq_self]
      exact fun reply hreply => isReply_of_reply? (Option.mem_toList.1 hreply)
  | request request =>
    exact ((Turn.queueWork_enqueue { connection := c } request).trans
      (Turn.queueWork_flushQueue _ m)).replies_eq
  | timer =>
    have hmove : c.session.Move m.now (.poll m.freshKey) _ _ := Session.move_perform _
    rw [react, onTimer, (Turn.queueWork_flushQueue _ m).replies_eq, Turn.replies_renewDownload]
    exact Turn.replies_applySession _ m (hmove.isSilent (by simp))
  | close =>
    simp only [react, close, Turn.replies_eq_filter, Turn.attempts_feed, Turn.attempts_update,
      Turn.attempts_failQueue]
    rfl

/-- An accepted push is applied before it is acknowledged. -/
lemma onPackage_of_push (m : Moment) (source : Option Octets) {destination : Option Octets}
    (haccepts : c.session.accepts destination = true) {payload : Octets}
    {changes : List StatusChange}
    (hpush : Payload.parse? payload = some (.statusPush changes)) :
    let t := c.onPackage m (.authorized source destination (.data payload))
    t.connection.image = (pushUpdates payload).foldl MemoryImage.absorb c.image ∧
      ∃ told fault, t.effects = told ++ [.send .acknowledgement
        (c.session.address (.data (Payload.statusAck c.translator.seq).compose)) fault] ∧
        ∀ x ∈ told, x.IsFeed := by
  set heard : Turn := Turn.update { connection := c } ({ · with
    session := { c.session with lastActivity := m.now } }) with hheard
  have hown : c.foreignData? (.authorized source destination (.data payload)) = none := by
    cases destination <;> simp_all [foreignData?, Session.accepts, Session.isOther]
  have hturn : c.onPackage m (.authorized source destination (.data payload)) =
      (heard.onData m payload).publish := by
    rw [onPackage, hown]
    dsimp only
    rw [Session.handle, Session.handleAuthorized_of_accepts haccepts]
    rfl
  obtain ⟨himage, told, fault, heffects, hfeeds⟩ :=
    heard.onData_of_push m (Session.accepts_eq_true_iff.1 haccepts).1 hpush
  dsimp only
  rw [hturn]
  exact ⟨himage, told, fault, heffects, hfeeds⟩

/-! ## The session of a connection -/

/-- What an input comes to for the session. -/
def call (m : Moment) : Input → SessionCall
  | .package package => .handle package
  | .request _ => .frame .ping
  | .timer => .poll m.freshKey
  | .close => .close

/-- **A reaction is a call of the session.** -/
lemma session_react (c : Connection) (m : Moment) (input : Input) :
    (c.react m input).connection.session = (c.session.perform m.now (call m input)).1 := by
  cases input with
  | package package =>
    rw [react, call]
    cases hforeign : c.foreignData? package with
    | some payload =>
      obtain ⟨source, destination, rfl, haccepts⟩ := exists_of_foreignData? hforeign
      rw [(onPackage_of_foreign hforeign m).1, Session.perform, Session.handle,
        Session.handleAuthorized_of_not_accepts haccepts]
    | none =>
      rw [onPackage, hforeign]
      exact Turn.session_applySession _ _ _
  | request request =>
    obtain ⟨⟨queue, translator, nextSend, hc⟩, -⟩ :=
      (Turn.queueWork_enqueue { connection := c } request).trans (Turn.queueWork_flushQueue _ m)
    rw [react, onRequest, hc]
    rfl
  | timer => exact c.session_onTimer m
  | close =>
    rw [react, close, Turn.connection_feed, Turn.connection_update, Turn.connection_failQueue]
    rfl

end Connection

/-! ## Runs -/

namespace Host

namespace Entry

/-- The peer and its name, if a step completes the handshake. -/
def welcome? (e : Entry) : Option (Octets × Octets) :=
  match e.input? with
  | some (.package package) => e.before.connection.session.welcome? (.handle package)
  | _ => none

/-- What the connection owes for the package that arrives in a step. -/
def owed? (e : Entry) : Option (Purpose × Package) :=
  match e.input? with
  | some (.package package) => e.before.connection.reply? package
  | _ => none

variable {e : Entry}

lemma session_after (e : Entry) : e.after.connection.session = e.turn.connection.session := by
  obtain ⟨⟨queue, translator, hc⟩, -⟩ := e.spec
  rw [hc]

/-- The session goes on with the history that it follows, to which a step adds its welcome. -/
lemma exists_follows {past : List (Step Session Session.Event)}
    (h : Session.Follows past e.before.connection.session) :
    ∃ past', Session.Follows past' e.after.connection.session ∧
      Session.welcomes past' = Session.welcomes past ++ e.welcome?.toList := by
  rw [session_after, turn, welcome?]
  cases e.input? with
  | none => exact ⟨past, h, (List.append_nil _).symm⟩
  | some input =>
    dsimp only
    rw [Connection.session_react]
    set event : Session.Event := ⟨e.happening.moment.now, Connection.call e.happening.moment input⟩
    refine ⟨past ++ [⟨e.before.connection.session, event⟩],
      (Session.move_perform event.call).follows h, ?_⟩
    rw [Session.welcomes_concat]
    cases input <;> rfl

lemma attempts_effects (e : Entry) : Effect.attempts e.effects = e.turn.attempts := by
  obtain ⟨-, answers, heffects, hall⟩ := e.spec
  rw [heffects, Effect.attempts_append, Effect.attempts_of_isAnswer hall, List.append_nil,
    Turn.attempts]

lemma replies_effects (e : Entry) : Effect.replies e.effects = e.owed?.toList := by
  rw [Effect.replies, attempts_effects, ← Turn.replies_eq_filter, turn, owed?]
  cases e.input? with
  | none => rfl
  | some input =>
    dsimp only
    rw [Connection.replies_react]
    cases input <;> rfl

/-- What a step of a run is bound to, given the steps before it. -/
structure Replies (e : Entry) (earlier : List Entry) : Prop where
  /-- For a package that arrives and completes no handshake, the connection hands to the link what
  it owes, and nothing else. -/
  once : ∀ package, e.happening.occasion = .arrive package → e.welcome? = none →
    Effect.attempts e.effects = e.owed?.toList
  /-- What it owes goes under the current key to the spa that welcomed the session last. -/
  addressed : ∀ purpose package, e.owed? = some (purpose, package) →
    ∃ greeting ∈ (earlier.filterMap welcome?).getLast?, ∃ content,
      package = .authorized (some e.before.connection.session.key) (some greeting.1) content
  /-- A push is applied before it is acknowledged. -/
  applied : ∀ source destination payload changes,
    e.input? = some (.package (.authorized source destination (.data payload))) →
    e.before.connection.session.accepts destination = true →
    Payload.parse? payload = some (.statusPush changes) →
      e.after.connection.image =
        (pushUpdates payload).foldl MemoryImage.absorb e.before.connection.image ∧
      ∃ told reply fault answers, e.owed? = some (.acknowledgement, reply) ∧
        e.effects = told ++ .send .acknowledgement reply fault :: answers ∧
        (∀ x ∈ told, x.IsFeed) ∧ ∀ x ∈ answers, x.IsAnswer

lemma replies {past : List (Step Session Session.Event)} {earlier : List Entry}
    (hfollows : Session.Follows past e.before.connection.session)
    (hwelcomes : Session.welcomes past = earlier.filterMap welcome?) : e.Replies earlier := by
  refine ⟨fun package hoccasion hwelcome => ?_, fun purpose package howed => ?_,
    fun source destination payload changes hinput haccepts hpush => ?_⟩
  · rw [attempts_effects, turn, owed?]
    rw [welcome?] at hwelcome
    cases hinput : e.input? with
    | none => rfl
    | some input =>
      have hoccasion' := occasion_of_input? hinput
      rw [hoccasion] at hoccasion'
      cases input with
      | package other =>
        rw [hinput] at hwelcome
        exact Connection.attempts_onPackage _ _ hwelcome
      | request request =>
        obtain ⟨place, hplace⟩ := hoccasion'
        cases hplace
      | timer | close => cases hoccasion'
  · rw [owed?] at howed
    split at howed
    · rename_i arrived _
      cases arrived with
      | hello => cases howed
      | authorized source destination content =>
        rw [Connection.reply?] at howed
        split at howed
        · rename_i haccepts
          obtain ⟨⟨purpose', reply⟩, -, hreply⟩ := Option.map_eq_some_iff.1 howed
          obtain ⟨greeting, hlast, hpeer, -⟩ :=
            hfollows.named (Session.accepts_eq_true_iff.1 haccepts).1
          rw [hwelcomes] at hlast
          obtain ⟨-, rfl⟩ := Prod.mk.inj hreply
          exact ⟨greeting, hlast, reply, by rw [Session.address, hpeer]⟩
        · cases howed
    · cases howed
  · obtain ⟨⟨queue, translator, hc⟩, answers, heffects, hall⟩ := e.spec
    obtain ⟨himage, told, fault, hturn, hfeeds⟩ :=
      Connection.onPackage_of_push e.happening.moment source haccepts hpush
    have howed : e.owed? = some (.acknowledgement, e.before.connection.session.address
        (.data (Payload.statusAck e.before.connection.translator.seq).compose)) := by
      rw [owed?, hinput]
      simp [Connection.reply?, haccepts, Content.reply?, hpush]
    rw [turn, hinput] at hc heffects
    dsimp only [Connection.react] at hc heffects
    rw [hturn, List.append_assoc] at heffects
    exact ⟨by rw [hc]; exact himage, told, _, fault, answers, howed, heffects, hfeeds, hall⟩

end Entry

/-- A run starts with a session that has introduced itself. -/
lemma exists_follows_startAt {config : GatewayConfig} {key : Octets} {m : Moment} {begun : Host}
    (hstart : startAt config key m = .ok begun) :
    ∃ past, Session.Follows past begun.connection.session ∧ Session.welcomes past = [] := by
  cases hsize : config.memorySize with
  | none =>
    rw [startAt, Connection.create, hsize] at hstart
    cases hstart
  | some size =>
    rw [startAt_eq hsize] at hstart
    obtain rfl := Except.ok.inj hstart
    obtain ⟨⟨queue, translator, hc⟩, -⟩ := aside_adopt
      { connection := created config size key m.now, keys := fun _ => key }
      ((created config size key m.now).start m)
    have hfollows := Session.follows_run config.sessionSettings key false m.now [⟨m.now, .start⟩]
    exact ⟨_, by rw [hc]; exact hfollows, rfl⟩

/-- The session of a connection has a history of its own, with the welcomes of the run. -/
lemma exists_follows_run {h : Host} {past : List (Step Session Session.Event)}
    (hh : Session.Follows past h.connection.session) (hwelcomes : Session.welcomes past = [])
    (happenings : List Happening) :
    ∃ past', Session.Follows past' (h.run happenings).connection.session ∧
      Session.welcomes past' = (h.history happenings).filterMap Entry.welcome? := by
  induction happenings using List.reverseRecOn with
  | nil => exact ⟨past, hh, hwelcomes⟩
  | append_singleton happenings happening ih =>
    obtain ⟨past', hfollows, hsame⟩ := ih
    obtain ⟨past'', hfollows', hsame'⟩ :=
      Entry.exists_follows (e := ⟨h.run happenings, happening⟩) hfollows
    refine ⟨past'', by rw [run_append]; exact hfollows', ?_⟩
    rw [hsame', hsame, history_concat, List.filterMap_append]
    cases hwelcome : Entry.welcome? ⟨h.run happenings, happening⟩ <;> simp [hwelcome]

lemma replies_log_run (h : Host) (happenings : List Happening) :
    Effect.replies (h.run happenings).log =
      Effect.replies h.log ++ (h.history happenings).filterMap Entry.owed? := by
  have hsteps (steps : List Entry) :
      Effect.replies (steps.flatMap Entry.effects) = steps.filterMap Entry.owed? := by
    induction steps with
    | nil => rfl
    | cons e steps ih =>
      rw [List.flatMap_cons, Effect.replies_append, ih, Entry.replies_effects]
      cases howed : e.owed? <;> simp [howed]
  rw [log_run, Effect.replies_append, hsteps]

/-- **Every accepted push is acknowledged once, every accepted ping is answered once, and nothing
else is.**  Over every run, the replies that a connection hands to the link are those that it owes
for the packages that arrived, in their order.  A package that arrives leads to just what is owed
for it, unless it completes the handshake.  What is owed goes under the current key to the spa that
welcomed the session last, and a push is applied before it is acknowledged. -/
theorem replies_run (config : GatewayConfig) (size : UInt16) (key : Octets) (m : Moment) :
    ∃ begun, startAt { config with memorySize := some size } key m = .ok begun ∧
      ∀ happenings,
        Effect.replies (begun.run happenings).log =
            (begun.history happenings).filterMap Entry.owed? ∧
          ∀ earlier e later, begun.history happenings = earlier ++ e :: later →
            e.Replies earlier := by
  have hsize : GatewayConfig.memorySize { config with memorySize := some size } = some size := rfl
  obtain ⟨begun, hstart, -, -, answers, hlog, hall⟩ := startAt_eq_ok hsize key m
  have hnone : Effect.replies begun.log = [] := by
    have hanswers : Effect.replies answers = [] :=
      Effect.replies_of_isQueueWork fun x hx => (hall x hx).isQueueWork
    rw [hlog, ← List.singleton_append, Effect.replies_append, hanswers]
    rfl
  refine ⟨begun, hstart, fun happenings => ⟨?_, fun earlier e later hhistory => ?_⟩⟩
  · rw [replies_log_run, hnone, List.nil_append]
  · obtain ⟨past, hfollows, hwelcomes⟩ := exists_follows_startAt hstart
    obtain ⟨before, rfl, hbefore⟩ := exists_of_history_eq hhistory
    obtain ⟨past', hfollows', hwelcomes'⟩ := exists_follows_run hfollows hwelcomes before
    rw [← hbefore] at hfollows'
    exact Entry.replies hfollows' hwelcomes'

/-- An empty push is acknowledged, and so is a ping answered, but not one for somebody else. -/
example :
    let arrive (package : Package) : Happening := ⟨.arrive package, { now := 1 }⟩
    let push := (Payload.statusPush []).compose
    (startAt { memorySize := some 4 } [0x6b] { now := 0 }).toOption.map (fun begun =>
      Effect.replies (begun.run [arrive (.hello [0x53, helloDelimiter]),
        arrive (.authorized (some [0x53]) (some [0x6b]) (.data push)),
        arrive (.authorized (some [0x53]) (some [0x62]) .ping),
        arrive (.authorized (some [0x53]) none .ping)]).log) =
      some [(.acknowledgement, .authorized (some [0x6b]) (some [0x53])
          (.data (Payload.statusAck 1).compose)),
        (.session, .authorized (some [0x6b]) (some [0x53]) .pong)] := by
  decide +kernel

end Host

end SpaGateway
