import Mathlib.Tactic
import SpaGateway.Connection

/-!
# The parts of a turn

A turn is built up by parts that change little each.  This module says once what each part does:
the parts that only record something leave the connection alone, failing the queue empties it and
answers its requests, and no part touches the session, which only `applySession` replaces.

Working off the queue is a loop, so what it does is said by a relation: `QueueWork t t'` holds when
`t'` continues `t` by command payloads and answers and changes nothing but the queue, the sequence
counter and the pacing.
-/

namespace SpaGateway

namespace Turn

variable (t : Turn) (m : Moment)

/-! ## Recording -/

@[simp] lemma connection_update (f : Connection → Connection) :
    (t.update f).connection = f t.connection := rfl

@[simp] lemma effects_update (f : Connection → Connection) : (t.update f).effects = t.effects := rfl

@[simp] lemma connection_perform (effect : Effect) :
    (t.perform effect).connection = t.connection := rfl

@[simp] lemma effects_perform (effect : Effect) :
    (t.perform effect).effects = t.effects ++ [effect] := rfl

@[simp] lemma connection_feed (event : FeedEvent) : (t.feed event).connection = t.connection := rfl

@[simp] lemma effects_feed (event : FeedEvent) :
    (t.feed event).effects = t.effects ++ [.feed event] := rfl

@[simp] lemma connection_answer (ticket : Nat) (fault : Option CommandFault) :
    (t.answer ticket fault).connection = t.connection := rfl

@[simp] lemma effects_answer (ticket : Nat) (fault : Option CommandFault) :
    (t.answer ticket fault).effects = t.effects ++ [.answer ticket fault] := rfl

@[simp] lemma connection_send (purpose : Purpose) (package : Package) :
    (t.send m purpose package).connection = t.connection := rfl

@[simp] lemma effects_send (purpose : Purpose) (package : Package) :
    (t.send m purpose package).effects =
      t.effects ++ [.send purpose package (m.fault? t.sends)] := rfl

@[simp] lemma connection_publish :
    t.publish.connection = { t.connection with published := t.connection.session.phase } := rfl

@[simp] lemma effects_publish : t.publish.effects = t.effects := rfl

@[simp] lemma connection_sendContent (purpose : Purpose) (payload : Octets) :
    (t.sendContent m purpose payload).connection = t.connection := by
  unfold sendContent
  split <;> simp

/-- Content goes out to the peer while the session is authorized, and not at all otherwise. -/
lemma effects_sendContent (purpose : Purpose) (payload : Octets) :
    (t.sendContent m purpose payload).effects =
      t.effects ++ ((t.connection.session.frame? (.data payload)).map fun package =>
        Effect.send purpose package (m.fault? t.sends)).toList := by
  unfold sendContent
  split <;> simp [*]

@[simp] lemma connection_drawSeq :
    t.drawSeq.2.connection =
      { t.connection with translator := t.connection.translator.nextSeq.2 } := rfl

@[simp] lemma effects_drawSeq : t.drawSeq.2.effects = t.effects := rfl

lemma connection_foldl_answer (requests : List Request) (fault : Option CommandFault) :
    (requests.foldl (fun t r => t.answer r.ticket fault) t).connection = t.connection := by
  induction requests generalizing t with
  | nil => rfl
  | cons r requests ih => rw [List.foldl_cons, ih, connection_answer]

lemma effects_foldl_answer (requests : List Request) (fault : Option CommandFault) :
    (requests.foldl (fun t r => t.answer r.ticket fault) t).effects =
      t.effects ++ requests.map fun r => .answer r.ticket fault := by
  induction requests generalizing t with
  | nil => simp
  | cons r requests ih => rw [List.foldl_cons, ih, effects_answer]; simp

@[simp] lemma connection_failQueue (fault : DeliveryFault) :
    (t.failQueue fault).connection = { t.connection with queue := [] } := by
  rw [failQueue, connection_update, connection_foldl_answer]

@[simp] lemma effects_failQueue (fault : DeliveryFault) :
    (t.failQueue fault).effects =
      t.effects ++ t.connection.queue.map fun r =>
        .answer r.ticket (some (.undelivered fault)) := by
  rw [failQueue, effects_update, effects_foldl_answer]

/-! ## Memory -/

lemma connection_foldl_changed (changes : List MemoryChange) :
    (changes.foldl (fun t change => t.feed (.changed change)) t).connection = t.connection := by
  induction changes generalizing t with
  | nil => rfl
  | cons change changes ih => rw [List.foldl_cons, ih, connection_feed]

lemma effects_foldl_changed (changes : List MemoryChange) :
    (changes.foldl (fun t change => t.feed (.changed change)) t).effects =
      t.effects ++ changes.map fun change => .feed (.changed change) := by
  induction changes generalizing t with
  | nil => simp
  | cons change changes ih => rw [List.foldl_cons, ih, effects_feed]; simp

/-- An update changes the image and nothing else. -/
lemma connection_applyUpdate (address : UInt16) (data : Octets) :
    ∃ image, (t.applyUpdate address data).connection = { t.connection with image } := by
  unfold applyUpdate
  split
  · exact ⟨_, by rw [connection_foldl_changed]; rfl⟩
  · exact ⟨t.connection.image, rfl⟩

lemma connection_applyPush (changes : List StatusChange) :
    ∃ image, (t.applyPush changes).connection = { t.connection with image } := by
  induction changes generalizing t with
  | nil => exact ⟨t.connection.image, rfl⟩
  | cons change changes ih =>
    obtain ⟨image, himage⟩ := t.connection_applyUpdate change.position change.data
    obtain ⟨image', himage'⟩ := ih (t.applyUpdate change.position change.data)
    refine ⟨image', ?_⟩
    rw [applyPush, List.foldl_cons, ← applyPush, himage', himage]

lemma requestDownload_of_not_authorized (h : t.connection.session.isAuthorized = false) :
    t.requestDownload m = t := by
  rw [requestDownload, h]
  rfl

/-! ## The session -/

@[simp] lemma session_applyUpdate (address : UInt16) (data : Octets) :
    (t.applyUpdate address data).connection.session = t.connection.session := by
  obtain ⟨image, himage⟩ := t.connection_applyUpdate address data
  rw [himage]

@[simp] lemma session_applyPush (changes : List StatusChange) :
    (t.applyPush changes).connection.session = t.connection.session := by
  obtain ⟨image, himage⟩ := t.connection_applyPush changes
  rw [himage]

@[simp] lemma session_requestDownload :
    (t.requestDownload m).connection.session = t.connection.session := by
  unfold requestDownload
  split <;> simp

@[simp] lemma session_takeChunk (seq next : UInt8) (data : Octets) :
    (t.takeChunk m seq next data).connection.session = t.connection.session := by
  unfold takeChunk
  split
  · rfl
  · dsimp only
    repeat' split
    all_goals simp

@[simp] lemma session_onData (payload : Octets) :
    (t.onData m payload).connection.session = t.connection.session := by
  unfold onData
  split <;> simp

@[simp] lemma session_onSessionEvent (event : SessionEvent) :
    (t.onSessionEvent m event).connection.session = t.connection.session := by
  cases event <;> simp [onSessionEvent]

@[simp] lemma session_carryOut (output : SessionOutput) :
    (t.carryOut m output).connection.session = t.connection.session := by
  cases output <;> simp [carryOut]

lemma session_foldl_carryOut (outputs : List SessionOutput) :
    (outputs.foldl (fun t output => t.carryOut m output) t).connection.session =
      t.connection.session := by
  induction outputs generalizing t with
  | nil => rfl
  | cons output outputs ih => rw [List.foldl_cons, ih, session_carryOut]

/-- **The session moves only by its own steps**: carrying out what it wants does not change it
again. -/
@[simp] theorem session_applySession (step : Session × List SessionOutput) :
    (t.applySession m step).connection.session = step.1 := by
  rw [applySession, connection_publish, session_foldl_carryOut]
  rfl

/-! ## Pacing

Nothing but a command payload that is sent changes when the next one may be. -/

@[simp] lemma nextSend_applyUpdate (address : UInt16) (data : Octets) :
    (t.applyUpdate address data).connection.nextSend = t.connection.nextSend := by
  obtain ⟨image, himage⟩ := t.connection_applyUpdate address data
  rw [himage]

@[simp] lemma nextSend_applyPush (changes : List StatusChange) :
    (t.applyPush changes).connection.nextSend = t.connection.nextSend := by
  obtain ⟨image, himage⟩ := t.connection_applyPush changes
  rw [himage]

@[simp] lemma nextSend_requestDownload :
    (t.requestDownload m).connection.nextSend = t.connection.nextSend := by
  unfold requestDownload
  split <;> simp

@[simp] lemma nextSend_takeChunk (seq next : UInt8) (data : Octets) :
    (t.takeChunk m seq next data).connection.nextSend = t.connection.nextSend := by
  unfold takeChunk
  split
  · rfl
  · dsimp only
    repeat' split
    all_goals simp

@[simp] lemma nextSend_carryOut (output : SessionOutput) :
    (t.carryOut m output).connection.nextSend = t.connection.nextSend := by
  cases output with
  | transmit package => rfl
  | event event =>
    cases event with
    | data source payload =>
      rw [carryOut, onSessionEvent, onData]
      split <;> simp
    | authorized | malformedHandshake | expired | unreachable => simp [carryOut, onSessionEvent]

@[simp] lemma nextSend_applySession (step : Session × List SessionOutput) :
    (t.applySession m step).connection.nextSend = t.connection.nextSend := by
  have hcarried (outputs : List SessionOutput) (t : Turn) :
      (outputs.foldl (fun t output => t.carryOut m output) t).connection.nextSend =
        t.connection.nextSend := by
    induction outputs generalizing t with
    | nil => rfl
    | cons output outputs ih => rw [List.foldl_cons, ih, nextSend_carryOut]
  rw [applySession, connection_publish, hcarried]
  rfl

end Turn

/-! ## Working off the queue -/

/-- Effects of working off the queue: a command's payload is sent, or a request is answered. -/
def Effect.IsQueueWork : Effect → Prop
  | .send (.command _) _ _ | .answer _ _ => True
  | _ => False

namespace Turn

/-- `t'` continues `t` by work on the queue: it sends command payloads, answers requests, and
changes only the queue, the sequence counter and the pacing. -/
structure QueueWork (t t' : Turn) : Prop where
  connection : ∃ queue translator nextSend,
    t'.connection = { t.connection with queue, translator, nextSend }
  effects : ∃ es, t'.effects = t.effects ++ es ∧ ∀ e ∈ es, e.IsQueueWork

namespace QueueWork

variable {t t' t'' : Turn}

lemma refl (t : Turn) : QueueWork t t := ⟨⟨_, _, _, rfl⟩, [], by simp⟩

lemma trans (h : QueueWork t t') (h' : QueueWork t' t'') : QueueWork t t'' := by
  obtain ⟨⟨queue, translator, nextSend, hc⟩, es, hes, hwork⟩ := h
  obtain ⟨⟨queue', translator', nextSend', hc'⟩, es', hes', hwork'⟩ := h'
  refine ⟨⟨queue', translator', nextSend', by rw [hc', hc]⟩, es ++ es', ?_, ?_⟩
  · rw [hes', hes, List.append_assoc]
  · intro e he
    rcases List.mem_append.1 he with he | he
    · exact hwork e he
    · exact hwork' e he

lemma update (h : QueueWork t t') {f : Connection → Connection}
    (hf : ∀ c, ∃ queue translator nextSend, f c = { c with queue, translator, nextSend }) :
    QueueWork t (t'.update f) := by
  obtain ⟨queue, translator, nextSend, heq⟩ := hf t'.connection
  exact h.trans ⟨⟨queue, translator, nextSend, heq⟩, [], by simp⟩

lemma answer (h : QueueWork t t') (ticket : Nat) (fault : Option CommandFault) :
    QueueWork t (t'.answer ticket fault) :=
  h.trans ⟨⟨_, _, _, rfl⟩, [_], rfl, by simp [Effect.IsQueueWork]⟩

lemma send (h : QueueWork t t') (m : Moment) (ticket : Nat) (package : Package) :
    QueueWork t (t'.send m (.command ticket) package) :=
  h.trans ⟨⟨_, _, _, rfl⟩, [_], rfl, by simp [Effect.IsQueueWork]⟩

lemma failQueue (h : QueueWork t t') (fault : DeliveryFault) :
    QueueWork t (t'.failQueue fault) :=
  h.trans ⟨⟨_, _, _, t'.connection_failQueue fault⟩, _, t'.effects_failQueue fault, by
    simp [Effect.IsQueueWork]⟩

end QueueWork

/-- The turn after a payload was taken from the queue, whether the queue moved on or failed. -/
def Flushed.turn : Flushed → Turn
  | .moved t | .failed t => t

lemma queueWork_flushFront (t : Turn) (m : Moment) (front : Request) (rest : List Request) :
    QueueWork t (t.flushFront m front rest).turn := by
  unfold flushFront
  obtain ⟨payload?, command, translator⟩ := t.connection.translator.nextPayload front.command
  dsimp only
  set drawn := t.update ({ · with translator })
  have hdrawn : QueueWork t drawn := (QueueWork.refl t).update fun _ => ⟨_, _, _, rfl⟩
  cases payload? with
  | none => exact (hdrawn.update fun _ => ⟨_, _, _, rfl⟩).answer _ _
  | some payload =>
    dsimp only
    split
    · exact (hdrawn.update fun _ => ⟨_, _, _, rfl⟩).failQueue _
    · rename_i package _
      have hsent := hdrawn.send m front.ticket package
      split
      · exact (hsent.update fun _ => ⟨_, _, _, rfl⟩).answer _ _
      · unfold Flushed.turn
        dsimp only
        split
        · exact (hsent.update fun _ => ⟨_, _, _, rfl⟩).answer _ _
        · exact hsent.update fun _ => ⟨_, _, _, rfl⟩

lemma queueWork_flushRounds (m : Moment) (rounds : Nat) (t : Turn) :
    QueueWork t (flushRounds m rounds t) := by
  induction rounds generalizing t with
  | zero => exact .refl t
  | succ rounds ih =>
    unfold flushRounds
    split
    · split
      · exact .refl t
      · rename_i front rest _
        have hfront := queueWork_flushFront t m front rest
        split
        · rename_i t' hmoved
          rw [hmoved] at hfront
          exact hfront.trans (ih t')
        · rename_i t' hfailed
          rwa [hfailed] at hfront
    · exact .refl t

/-- **Working off the queue touches nothing but the queue.** -/
theorem queueWork_flushQueue (t : Turn) (m : Moment) : QueueWork t (t.flushQueue m) :=
  queueWork_flushRounds m _ t

/-- A new request is queued, or answered at once. -/
lemma queueWork_enqueue (t : Turn) (request : Request) : QueueWork t (t.enqueue request) := by
  unfold enqueue
  dsimp only
  split
  · exact ⟨⟨_, _, _, rfl⟩, [], by simp⟩
  · exact ⟨⟨_, _, _, rfl⟩, [_], rfl, by simp [Effect.IsQueueWork]⟩

end Turn

end SpaGateway
