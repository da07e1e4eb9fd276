import Mathlib.Tactic
import SpaGateway.Proofs.Connection.Turn
import SpaGateway.Proofs.Memory.Update
import SpaGateway.Proofs.Session.Call

/-!
# What a reaction does to the image

The updates that a connection should absorb are read off the packages: the changes of a push that
is addressed to somebody else, or that the session accepts, and the data of the chunk that the
download under way waits for.  `Connection.pushed` and `Connection.chunk?` list them, without any of
the connection's machinery.

What a turn does to the image is said on a `MemoryView`, which keeps the image, how far the download
has come, and those of the effects that concern either.  Each part of a turn has one lemma on its
view, and from them `Connection.memoryStep_react` reads off that every reaction is one of the few
steps of `MemoryStep`, with the updates of its input.
-/
namespace SpaGateway

/-! ## The updates that count -/

/-- The update that a change of a push asks for. -/
def StatusChange.update (change : StatusChange) : MemoryUpdate :=
  ⟨change.position.toNat, change.data⟩

/-- The updates that data ask for which are a push. -/
def pushUpdates (payload : Octets) : List MemoryUpdate :=
  match Payload.parse? payload with
  | some (.statusPush changes) => changes.map StatusChange.update
  | _ => []

namespace Connection

/-- The update that data ask for which are the chunk that the download under way waits for.  It
belongs where the download stands. -/
def awaitedChunk? (c : Connection) (payload : Octets) : Option MemoryUpdate :=
  match Payload.parse? payload, c.download with
  | some (.statusChunk seq _ data), some download =>
    if seq = download.expected then some ⟨download.offset, data⟩ else none
  | _, _ => none

/-- The updates of an input that is a push, for somebody else or accepted by the session. -/
def pushed (c : Connection) : Input → List MemoryUpdate
  | .package (.authorized _ destination (.data payload)) =>
    if c.session.isOther destination || c.session.accepts destination then pushUpdates payload
    else []
  | _ => []

/-- The update of an input that is an awaited chunk, accepted by the session. -/
def chunk? (c : Connection) : Input → Option MemoryUpdate
  | .package (.authorized _ destination (.data payload)) =>
    if c.session.accepts destination then c.awaitedChunk? payload else none
  | _ => none

/-- The chunk that is waited for counts if the session accepts it. -/
lemma chunk?_of_parse? {c : Connection} (source : Option Octets) {destination : Option Octets}
    {payload data : Octets} {d : Download} {next : UInt8}
    (haccepts : c.session.accepts destination = true) (hdownload : c.download = some d)
    (hparse : Payload.parse? payload = some (.statusChunk d.expected next data)) :
    c.chunk? (.package (.authorized source destination (.data payload))) =
      some ⟨d.offset, data⟩ := by
  simp [chunk?, haccepts, awaitedChunk?, hparse, hdownload]

/-- A chunk is no push. -/
lemma pushed_of_parse? {c : Connection} {source destination : Option Octets}
    {payload data : Octets} {seq next : UInt8}
    (hparse : Payload.parse? payload = some (.statusChunk seq next data)) :
    c.pushed (.package (.authorized source destination (.data payload))) = [] := by
  simp [pushed, pushUpdates, hparse]

/-- A chunk that counts is one of the data for the session. -/
lemma exists_of_chunk? {c : Connection} {input : Input} {u : MemoryUpdate}
    (h : c.chunk? input = some u) :
    ∃ source destination payload next download,
      input = .package (.authorized source destination (.data payload)) ∧
      c.session.accepts destination = true ∧ c.download = some download ∧
      Payload.parse? payload = some (.statusChunk download.expected next u.data) ∧
      u = ⟨download.offset, u.data⟩ := by
  unfold chunk? at h
  split at h
  · rename_i source destination payload
    split at h
    · rename_i haccepts
      unfold awaitedChunk? at h
      split at h
      · rename_i seq next data download hparse hdownload
        split at h
        · rename_i hseq
          obtain rfl := Option.some.inj h
          exact ⟨source, destination, payload, next, download, rfl, haccepts, hdownload,
            hseq ▸ hparse, rfl⟩
        · cases h
      · cases h
    · cases h
  · cases h

end Connection

/-! ## What concerns the image -/

namespace Effect

/-- Whether an effect tells of the image or its download: a change, a refused update, a request
for a download, or its end. -/
def isMemoryNote : Effect → Bool
  | feed (.changed _) | feed (.outOfBounds _ _) | feed .downloadComplete => true
  | send .download _ _ => true
  | _ => false

lemma IsQueueWork.isMemoryNote_eq {effect : Effect} (h : effect.IsQueueWork) :
    effect.isMemoryNote = false := by
  rcases effect with ⟨purpose, _, _⟩ | _ | _
  · cases purpose with
    | command => rfl
    | session | download | acknowledgement => exact h.elim
  · exact h.elim
  · rfl

lemma filter_isMemoryNote_of_isQueueWork {effects : List Effect}
    (h : ∀ x ∈ effects, x.IsQueueWork) : effects.filter isMemoryNote = [] := by
  rw [List.filter_eq_nil_iff]
  intro x hx
  simp [(h x hx).isMemoryNote_eq]

end Effect

/-- What a turn means for the memory image. -/
structure MemoryView where
  image : MemoryImage
  /-- While a download is under way, the number of its next chunk and where the data go. -/
  progress : Option (UInt8 × Nat)
  /-- The effects that tell of the image or its download. -/
  notes : List Effect

namespace MemoryView

/-- What is told of an update: the changes that it made, or that it was refused. -/
def news (image : MemoryImage) (u : MemoryUpdate) : List Effect :=
  match image.apply u.position.toUInt16 u.data with
  | .ok (_, changes) => changes.map fun change => .feed (.changed change)
  | .error e => [.feed (.outOfBounds e.address e.length)]

/-- An update is absorbed, and told. -/
def write (v : MemoryView) (u : MemoryUpdate) : MemoryView :=
  { v with image := v.image.absorb u, notes := v.notes ++ news v.image u }

/-- A download is requested, from the start. -/
def request (v : MemoryView) (package : Package) (fault : Option GatewayFault) : MemoryView :=
  { v with progress := some (0, 0), notes := v.notes ++ [.send .download package fault] }

end MemoryView

/-- A connection's part of a view. -/
def Connection.view (c : Connection) (notes : List Effect) : MemoryView :=
  { image := c.image, progress := c.download.map fun d => (d.expected, d.offset), notes }

lemma Connection.progress_view_eq_some_iff {c : Connection} {notes : List Effect}
    {expected : UInt8} {offset : Nat} :
    (c.view notes).progress = some (expected, offset) ↔
      ∃ d, c.download = some d ∧ d.expected = expected ∧ d.offset = offset := by
  simp [view]

namespace Turn

/-- What a turn means for the memory image. -/
def view (t : Turn) : MemoryView := t.connection.view (t.effects.filter Effect.isMemoryNote)

variable (t : Turn) (m : Moment)

/-! ## Parts that do not concern the image -/

lemma view_update {f : Connection → Connection}
    (himage : (f t.connection).image = t.connection.image)
    (hdownload : (f t.connection).download = t.connection.download) :
    (t.update f).view = t.view := by
  simp [view, Connection.view, himage, hdownload]

lemma view_perform {effect : Effect} (h : effect.isMemoryNote = false) :
    (t.perform effect).view = t.view := by
  simp [view, h]

lemma view_send {purpose : Purpose} (h : purpose ≠ .download) (package : Package) :
    (t.send m purpose package).view = t.view := by
  cases purpose <;> simp [view, Effect.isMemoryNote] at h ⊢

lemma view_sendContent {purpose : Purpose} (h : purpose ≠ .download) (payload : Octets) :
    (t.sendContent m purpose payload).view = t.view := by
  unfold sendContent
  split
  · exact t.view_send m h _
  · rfl

@[simp] lemma view_drawSeq : t.drawSeq.2.view = t.view := t.view_update rfl rfl

@[simp] lemma view_publish : t.publish.view = t.view := t.view_update rfl rfl

@[simp] lemma view_failQueue (fault : DeliveryFault) : (t.failQueue fault).view = t.view := by
  have hanswers : (t.connection.queue.map fun r =>
      Effect.answer r.ticket (some (.undelivered fault))).filter Effect.isMemoryNote = [] :=
    Effect.filter_isMemoryNote_of_isQueueWork (by simp [Effect.IsQueueWork])
  simp only [view, connection_failQueue, effects_failQueue, List.filter_append, hanswers,
    List.append_nil]
  rfl

lemma QueueWork.view_eq {t t' : Turn} (h : QueueWork t t') : t'.view = t.view := by
  obtain ⟨⟨queue, translator, nextSend, hc⟩, es, hes, hwork⟩ := h
  simp only [view, hc, hes, List.filter_append, Effect.filter_isMemoryNote_of_isQueueWork hwork,
    List.append_nil]
  rfl

/-! ## Parts that do -/

lemma view_applyUpdate (address : UInt16) (data : Octets) :
    (t.applyUpdate address data).view = t.view.write ⟨address.toNat, data⟩ := by
  rcases t.connection.image.apply_eq address data with ⟨changes, happly⟩ | ⟨⟨e, happly⟩, -, habsorb⟩
  · have hnotes : (changes.map fun change => Effect.feed (.changed change)).filter
        Effect.isMemoryNote = changes.map fun change => .feed (.changed change) :=
      List.filter_eq_self.2 (by simp [Effect.isMemoryNote])
    simp [applyUpdate, happly, view, Connection.view, MemoryView.write, MemoryView.news,
      connection_foldl_changed, effects_foldl_changed, hnotes]
  · simp [applyUpdate, happly, view, Connection.view, MemoryView.write, MemoryView.news, habsorb,
      Effect.isMemoryNote]

lemma view_applyPush (changes : List StatusChange) :
    (t.applyPush changes).view =
      (changes.map StatusChange.update).foldl MemoryView.write t.view := by
  induction changes generalizing t with
  | nil => rfl
  | cons change changes ih =>
    rw [applyPush, List.foldl_cons, ← applyPush, ih, view_applyUpdate, List.map_cons,
      List.foldl_cons]
    rfl

/-- An authorized connection requests the download and remembers it. -/
lemma view_requestDownload (h : t.connection.session.isAuthorized = true) :
    ∃ package fault, (t.requestDownload m).view = t.view.request package fault := by
  have hphase : t.connection.session.phase = .authorized := by simpa [Session.isAuthorized] using h
  simp [requestDownload, h, view, Connection.view, effects_sendContent, Session.frame?, hphase,
    MemoryView.request]
  exact ⟨_, _, rfl⟩

/-- The chunk that comes next is written where the download stands. -/
lemma view_takeChunk {download : Download} (hdownload : t.connection.download = some download)
    (hoffset : download.offset < 65536) (next : UInt8) (data : Octets) :
    let written := t.view.write ⟨download.offset, data⟩
    let offset := download.offset + data.length
    (t.takeChunk m download.expected next data).view =
      if t.connection.image.size ≤ offset then
        { written with
          progress := none
          notes := written.notes ++
            if m.now + t.connection.fullStateInterval < clockEnd then
              [.feed .downloadComplete] else [] }
      else { written with progress := some (next, offset) } := by
  intro written offset
  have haddress : download.offset.toUInt16.toNat = download.offset := by
    simp [Nat.mod_eq_of_lt hoffset]
  set advanced : Turn := t.update ({ · with
    download := some ⟨next, offset, m.now + Connection.stallTimeout⟩ }) with hadvanced
  set applied := advanced.applyUpdate download.offset.toUInt16 data with happlied
  have hview : applied.view = { written with progress := some (next, offset) } := by
    rw [happlied, view_applyUpdate, haddress]
    rfl
  have hinterval : applied.connection.fullStateInterval = t.connection.fullStateInterval := by
    obtain ⟨image, himage⟩ := advanced.connection_applyUpdate download.offset.toUInt16 data
    rw [happlied, himage, hadvanced, connection_update]
  have htake : t.takeChunk m download.expected next data =
      if t.connection.image.size ≤ offset then
        let closed := applied.update ({ · with
          download := none
          nextFullDownload := some (m.now + applied.connection.fullStateInterval) })
        if m.now + applied.connection.fullStateInterval < clockEnd then
          closed.feed .downloadComplete
        else closed
      else applied := by
    rw [takeChunk, hdownload]
    dsimp only
    rw [if_neg (by simp), if_pos hoffset]
  have himage : applied.connection.image = written.image := congrArg MemoryView.image hview
  have hnotes : applied.effects.filter Effect.isMemoryNote = written.notes :=
    congrArg MemoryView.notes hview
  rw [htake, hinterval]
  by_cases hdone : t.connection.image.size ≤ offset
  · rw [if_pos hdone, if_pos hdone]
    dsimp only
    split <;> simp [view, Connection.view, himage, hnotes, Effect.isMemoryNote]
  · rw [if_neg hdone, if_neg hdone, hview]

lemma takeChunk_of_ne {seq : UInt8} (h : ∀ d ∈ t.connection.download, seq ≠ d.expected)
    (next : UInt8) (data : Octets) : t.takeChunk m seq next data = t := by
  unfold takeChunk
  split
  · rfl
  · rename_i download hdownload
    rw [if_pos (h download hdownload)]

end Turn

/-! ## What the session wants -/

/-- Whether an output of the session leaves the image alone whatever it holds. -/
def SessionOutput.IsQuiet : SessionOutput → Prop
  | transmit _ | event (.malformedHandshake _) | event (.unreachable _) => True
  | _ => False

namespace Session

variable {s : Session} {source destination : Option Octets} {now : Nat}

/-- Keepalives get an answer at most. -/
lemma isQuiet_handleAuthorized {content : Content} (h : content.isKeepalive = true) :
    ∀ output ∈ (s.handleAuthorized source destination content now).2, output.IsQuiet := by
  cases haccepts : s.accepts destination with
  | false => simp [handleAuthorized_of_not_accepts haccepts]
  | true =>
    rw [handleAuthorized_of_accepts haccepts]
    cases content with
    | ping => simp [answer, SessionOutput.IsQuiet]
    | pong => simp [answer]
    | data => contradiction

/-- Time expires the session, or it makes it ping at most. -/
lemma poll_outputs (s : Session) (fresh : Octets) (now : Nat) :
    ((∀ o ∈ (s.poll fresh now).2, o.IsQuiet) ∧
        (s.poll fresh now).1.isAuthorized = s.isAuthorized) ∨
      ∃ phase outputs, (s.poll fresh now).2 = .event (.expired phase) :: outputs ∧
        ∀ o ∈ outputs, o.IsQuiet := by
  have hmove : s.Move now (.poll fresh) (s.poll fresh now).1 (s.poll fresh now).2 :=
    move_poll fresh
  generalize (s.poll fresh now).1 = s', (s.poll fresh now).2 = outputs at hmove ⊢
  cases hmove with
  | ignore => exact .inl ⟨by simp, rfl⟩
  | ping => exact .inl ⟨by simp [SessionOutput.IsQuiet], rfl⟩
  | timeOut =>
    refine .inr ⟨_, _, rfl, ?_⟩
    unfold unreachableReport
    split <;> simp [SessionOutput.IsQuiet]
  | fallSilent => exact .inr ⟨_, _, rfl, by simp [SessionOutput.IsQuiet]⟩

end Session

namespace Turn

variable (t : Turn) (m : Moment)

lemma view_carryOut {output : SessionOutput} (h : output.IsQuiet) :
    (t.carryOut m output).view = t.view := by
  cases output with
  | transmit package => exact t.view_send m (by decide) package
  | event event =>
    cases event with
    | malformedHandshake => rfl
    | unreachable => exact t.view_perform rfl
    | authorized | data | expired => exact h.elim

lemma view_foldl_carryOut {outputs : List SessionOutput} (h : ∀ o ∈ outputs, o.IsQuiet) :
    (outputs.foldl (fun t output => t.carryOut m output) t).view = t.view := by
  induction outputs generalizing t with
  | nil => rfl
  | cons output outputs ih =>
    rw [List.forall_mem_cons] at h
    rw [List.foldl_cons, ih _ h.2, view_carryOut _ _ h.1]

lemma view_applySession {step : Session × List SessionOutput} (h : ∀ o ∈ step.2, o.IsQuiet) :
    (t.applySession m step).view = t.view := by
  rw [applySession, view_publish, view_foldl_carryOut _ _ h]
  rfl

/-- After the first output, only the quiet ones follow. -/
lemma view_applySession_cons (s : Session) (output : SessionOutput) {outputs : List SessionOutput}
    (h : ∀ o ∈ outputs, o.IsQuiet) :
    (t.applySession m (s, output :: outputs)).view =
      ((t.update ({ · with session := s })).carryOut m output).view := by
  rw [applySession, view_publish, List.foldl_cons, view_foldl_carryOut _ _ h]

lemma view_expired (phase : SessionPhase) :
    (t.onSessionEvent m (.expired phase)).view = { t.view with progress := none } := by
  rw [onSessionEvent, feed, view_perform _ rfl, view_failQueue]
  rfl

/-- Time may expire the session, and with it the download under way. -/
lemma view_poll (c : Connection) (fresh : Octets) :
    (Turn.applySession { connection := c } m (c.session.poll fresh m.now)).view = c.view [] ∨
      (Turn.applySession { connection := c } m (c.session.poll fresh m.now)).view =
        { c.view [] with progress := none } := by
  rcases c.session.poll_outputs fresh m.now with ⟨hquiet, -⟩ | ⟨phase, outputs, hpoll, hquiet⟩
  · exact .inl (view_applySession _ m hquiet)
  · right
    rw [← Prod.eta (c.session.poll fresh m.now), hpoll, view_applySession_cons _ m _ _ hquiet]
    exact view_expired _ m phase

/-- A stalled download is requested again or the next one is requested, but never both. -/
lemma view_renewDownload :
    (Connection.renewDownload (Connection.retryDownload t m) m).view = t.view ∨
      ∃ package fault, (Connection.renewDownload (Connection.retryDownload t m) m).view =
        t.view.request package fault := by
  cases hauthorized : t.connection.session.isAuthorized with
  | false =>
    have hretry : Connection.retryDownload t m = t := by
      rw [Connection.retryDownload, requestDownload_of_not_authorized t m hauthorized, ite_self]
    rw [hretry, Connection.renewDownload, requestDownload_of_not_authorized t m hauthorized,
      ite_self]
    exact .inl rfl
  | true =>
    unfold Connection.retryDownload
    split
    · -- the download is under way again, so the next one has to wait
      have hdownload : (t.requestDownload m).connection.download.isNone = false := by
        simp [requestDownload, hauthorized]
      rw [Connection.renewDownload, hdownload, Bool.and_false, if_neg Bool.false_ne_true]
      exact .inr (t.view_requestDownload m hauthorized)
    · unfold Connection.renewDownload
      split
      · exact .inr (t.view_requestDownload m hauthorized)
      · exact .inl rfl

end Turn

/-! ## Reactions -/

/-- What one reaction may do to the image, with the updates of a push and of a chunk. -/
inductive MemoryStep (v : MemoryView) : List MemoryUpdate → Option MemoryUpdate → MemoryView → Prop
  /-- Nothing happens to the image. -/
  | rest : MemoryStep v [] none v
  /-- The download under way is given up. -/
  | abandon : MemoryStep v [] none { v with progress := none }
  /-- A download is requested. -/
  | request (package : Package) (fault : Option GatewayFault) :
    MemoryStep v [] none (v.request package fault)
  /-- The changes of a push are absorbed one by one. -/
  | push (changes : List StatusChange) :
    MemoryStep v (changes.map StatusChange.update) none
      ((changes.map StatusChange.update).foldl MemoryView.write v)
  /-- A chunk is absorbed and more are to come. -/
  | chunk {expected : UInt8} {offset : Nat} (next : UInt8) (data : Octets)
    (progress_eq : v.progress = some (expected, offset))
    (isOpen : offset + data.length < v.image.size) :
    MemoryStep v [] (some ⟨offset, data⟩)
      { v.write ⟨offset, data⟩ with progress := some (next, offset + data.length) }
  /-- A chunk is absorbed and the download ends, which is told unless the clock ends first. -/
  | lastChunk {expected : UInt8} {offset : Nat} (data : Octets) {told : List Effect}
    (progress_eq : v.progress = some (expected, offset))
    (isDone : v.image.size ≤ offset + data.length)
    (told_eq : told = [] ∨ told = [.feed .downloadComplete]) :
    MemoryStep v [] (some ⟨offset, data⟩)
      { v.write ⟨offset, data⟩ with
        progress := none, notes := (v.write ⟨offset, data⟩).notes ++ told }

/-- The image can be addressed by words, and a download under way stands inside it. -/
structure MemoryView.IsAddressable (v : MemoryView) : Prop where
  size_lt : v.image.size < 65536
  progress_le : ∀ p ∈ v.progress, p.2 = 0 ∨ p.2 < v.image.size

@[simp] lemma MemoryView.size_foldl_write (updates : List MemoryUpdate) (v : MemoryView) :
    (updates.foldl write v).image.size = v.image.size := by
  induction updates generalizing v with
  | nil => rfl
  | cons u updates ih => rw [List.foldl_cons, ih, write, MemoryImage.size_absorb]

@[simp] lemma MemoryView.progress_foldl_write (updates : List MemoryUpdate) (v : MemoryView) :
    (updates.foldl write v).progress = v.progress := by
  induction updates generalizing v with
  | nil => rfl
  | cons u updates ih => rw [List.foldl_cons, ih, write]

lemma MemoryStep.isAddressable {v v' : MemoryView} {pushed : List MemoryUpdate}
    {chunk? : Option MemoryUpdate} (h : MemoryStep v pushed chunk? v') (hv : v.IsAddressable) :
    v'.IsAddressable := by
  obtain ⟨hsize, hprogress⟩ := hv
  cases h with
  | rest => exact ⟨hsize, hprogress⟩
  | abandon => exact ⟨hsize, by simp⟩
  | request => exact ⟨hsize, by simp [MemoryView.request]⟩
  | push => exact ⟨by simpa using hsize, by simpa using hprogress⟩
  | chunk next data progress_eq isOpen =>
    exact ⟨by simpa [MemoryView.write] using hsize, by simpa [MemoryView.write] using .inr isOpen⟩
  | lastChunk => exact ⟨by simpa [MemoryView.write] using hsize, by simp⟩

namespace Connection

variable (c : Connection) (m : Moment)

/-- What data for the session do to the image. -/
lemma memoryStep_onData (t : Turn) (ht : t.view.IsAddressable) (payload : Octets) :
    MemoryStep t.view (pushUpdates payload) (t.connection.awaitedChunk? payload)
      (t.onData m payload).view := by
  unfold Turn.onData pushUpdates awaitedChunk?
  cases Payload.parse? payload with
  | none => exact .rest
  | some parsed =>
    cases parsed with
    | statusPush changes =>
      dsimp only
      rw [Turn.view_sendContent _ m (by decide), Turn.view_drawSeq, Turn.view_applyPush]
      exact .push changes
    | statusChunk seq next data =>
      dsimp only
      cases hdownload : t.connection.download with
      | none =>
        rw [t.takeChunk_of_ne m (by simp [hdownload])]
        exact .rest
      | some download =>
        dsimp only
        by_cases hseq : seq = download.expected
        · have hprogress : t.view.progress = some (download.expected, download.offset) :=
            progress_view_eq_some_iff.2 ⟨download, hdownload, rfl, rfl⟩
          have hoffset : download.offset < 65536 := by
            have hle := ht.progress_le _ hprogress
            have hsize := ht.size_lt
            omega
          rw [if_pos hseq, hseq, Turn.view_takeChunk _ m hdownload hoffset]
          split
          · rename_i hdone
            refine .lastChunk data hprogress hdone ?_
            split
            · exact .inr rfl
            · exact .inl rfl
          · rename_i hdone
            exact .chunk next data hprogress (by simpa [Turn.view, view] using hdone)
        · rw [if_neg hseq, t.takeChunk_of_ne m (by simpa [hdownload] using hseq)]
          exact .rest
    | version =>
      dsimp only
      rw [Turn.feed, Turn.view_perform _ rfl]
      exact .rest
    | versionQuery | statusRequest | statusAck | pack | setWatercare => exact .rest

section Package

variable {c}

/-- A session that wants nothing of the image leaves it alone. -/
lemma memoryStep_of_isQuiet {step : Session × List SessionOutput} (h : ∀ o ∈ step.2, o.IsQuiet) :
    MemoryStep (c.view []) [] none (Turn.applySession { connection := c } m step).view := by
  rw [Turn.view_applySession _ m h]
  exact .rest

lemma memoryStep_of_authorized (s : Session) (hs : s.isAuthorized = true) (peer name : Octets)
    {outputs : List SessionOutput} (h : ∀ o ∈ outputs, o.IsQuiet) :
    MemoryStep (c.view []) [] none (Turn.applySession { connection := c } m
      (s, .event (.authorized peer name) :: outputs)).view := by
  set t := Turn.feed (Turn.update { connection := c } ({ · with session := s }))
    (.authorized name.toTextLossy) with ht
  obtain ⟨package, fault, hview⟩ := t.view_requestDownload m hs
  rw [Turn.view_applySession_cons _ m _ _ h, Turn.carryOut, Turn.onSessionEvent, ← ht, hview, ht,
    Turn.feed, Turn.view_perform _ rfl]
  exact .request package fault

/-- The answer to a hello requests the first download. -/
lemma memoryStep_handleHello (payload : Octets) :
    MemoryStep (c.view []) [] none
      (Turn.applySession { connection := c } m (c.session.handleHello payload m.now)).view := by
  by_cases hphase : c.session.phase = .awaitingHello
  · cases hsplit : splitHello? payload with
    | none =>
      rw [Session.handleHello_of_malformed hphase (splitHello?_eq_none_iff.1 hsplit)]
      exact memoryStep_of_isQuiet m (by simp [SessionOutput.IsQuiet])
    | some greeting =>
      obtain ⟨hpeer, rfl⟩ := splitHello?_eq_some_iff.1 hsplit
      rw [Session.handleHello_of_notMem hphase hpeer]
      exact memoryStep_of_authorized m _ rfl _ _ (by simp [SessionOutput.IsQuiet])
  · rw [Session.handleHello_of_ne hphase]
    exact memoryStep_of_isQuiet m (by simp)

/-- Of the data for others, only pushes are absorbed. -/
lemma memoryStep_of_foreign {package : Package} {payload : Octets}
    (h : c.foreignData? package = some payload) :
    MemoryStep (c.view []) (pushUpdates payload) none (c.onPackage m package).view := by
  rw [onPackage, h, pushUpdates]
  dsimp only
  cases Payload.parse? payload with
  | none => exact .rest
  | some parsed =>
    cases parsed with
    | statusPush changes =>
      dsimp only
      rw [Turn.view_applyPush]
      exact .push changes
    | versionQuery | version | statusRequest | statusChunk | statusAck | pack | setWatercare =>
      exact .rest

end Package

lemma memoryStep_onPackage (hc : (c.view []).IsAddressable) (package : Package) :
    MemoryStep (c.view []) (c.pushed (.package package)) (c.chunk? (.package package))
      (c.onPackage m package).view := by
  cases package with
  | hello payload => exact memoryStep_handleHello m payload
  | authorized source destination content =>
    have hsession (h : c.foreignData? (.authorized source destination content) = none) :
        c.onPackage m (.authorized source destination content) =
          Turn.applySession { connection := c } m
            (c.session.handleAuthorized source destination content m.now) := by
      rw [onPackage, h]
      rfl
    cases content with
    | ping | pong =>
      rw [hsession (by cases destination <;> rfl)]
      exact memoryStep_of_isQuiet m (Session.isQuiet_handleAuthorized rfl)
    | data payload =>
      rw [pushed, chunk?]
      cases hother : c.session.isOther destination with
      | true =>
        have haccepts : c.session.accepts destination = false := by simp [Session.accepts, hother]
        obtain ⟨id, rfl⟩ : ∃ id, destination = some id := by
          cases destination with
          | none => contradiction
          | some id => exact ⟨id, rfl⟩
        have hforeign : c.foreignData? (.authorized source (some id) (.data payload)) =
            some payload := by
          simpa [foreignData?, Session.isOther] using hother
        rw [haccepts]
        exact memoryStep_of_foreign m hforeign
      | false =>
        have hown : c.foreignData? (.authorized source destination (.data payload)) = none := by
          cases destination <;> simp_all [foreignData?, Session.isOther]
        rw [hsession hown, Bool.false_or]
        cases haccepts : c.session.accepts destination with
        | true =>
          have honData := memoryStep_onData m
            (Turn.update { connection := c } ({ · with
              session := { c.session with lastActivity := m.now } })) hc payload
          rw [Session.handleAuthorized_of_accepts haccepts, Turn.applySession, Turn.view_publish]
          exact honData
        | false =>
          rw [Session.handleAuthorized_of_not_accepts haccepts]
          exact memoryStep_of_isQuiet m (by simp)

/-- **What a reaction does to the image.** -/
theorem memoryStep_react (hc : (c.view []).IsAddressable) (input : Input) :
    MemoryStep (c.view []) (c.pushed input) (c.chunk? input) (c.react m input).view := by
  cases input with
  | package package => exact memoryStep_onPackage c m hc package
  | request request =>
    have hwork := (Turn.queueWork_enqueue { connection := c } request).trans
      (Turn.queueWork_flushQueue _ m)
    rw [react, onRequest, hwork.view_eq]
    exact .rest
  | timer =>
    rw [react, onTimer, (Turn.queueWork_flushQueue _ m).view_eq]
    rcases Turn.view_renewDownload (Turn.applySession { connection := c } m
        (c.session.poll m.freshKey m.now)) m with hrenew | ⟨package, fault, hrenew⟩ <;>
      rcases Turn.view_poll m c m.freshKey with hpoll | hpoll <;>
      rw [hrenew, hpoll]
    · exact .rest
    · exact .abandon
    · exact .request package fault
    · exact .request package fault
  | close =>
    rw [react, close, Turn.feed, Turn.view_perform _ rfl, Turn.view_update _ rfl rfl,
      Turn.view_failQueue]
    exact .abandon

end Connection

end SpaGateway
