import SpaGateway.Command.Translator
import SpaGateway.Config
import SpaGateway.Fault
import SpaGateway.Memory
import SpaGateway.Payload.Parser
import SpaGateway.Session

/-!
# The connection to a spa

A connection owns a session and the memory image that it keeps in step with the spa. It
reacts to one input at a time: a package from the spa, a command request, a timer, or the
order to close. A reaction is a `Turn`: the connection afterwards, and what it did in order,
which is packages sent, events fed to subscribers and requests answered.

Whether a send succeeds is up to the link, so the outcome of each send of a turn is an input
as well, like the time and the key that the session takes if it expires. A failed send is
noted and changes nothing, unless a command's payload was sent: then the command fails.

A connection waits only for times that the clock can reach. One that has to wait for more,
`outlastsClock`, is not run on.
-/

namespace SpaGateway

/-! ## What a connection does -/

/-- An item of the feed that subscribers see. -/
inductive FeedEvent where
  /-- A session is established with the named spa. -/
  | authorized (name : String)
  /-- The memory image changed. -/
  | changed (change : MemoryChange)
  /-- An update was refused because it runs past the image. -/
  | outOfBounds (address : UInt16) (length : Nat)
  /-- The spa reported its versions. -/
  | version (version : FirmwareVersion)
  /-- A full download is complete. -/
  | downloadComplete
  /-- The session expired; a new handshake is under way. -/
  | expired
  /-- The handshake failed repeatedly. -/
  | unreachable (attempts : Nat)
  /-- The connection is closed. -/
  | closed
  deriving DecidableEq, Inhabited

/-- What a package is sent for. -/
inductive Purpose where
  /-- Hellos, pings, pongs and version queries. -/
  | session
  /-- A status request. -/
  | download
  /-- The acknowledgement of a push. -/
  | acknowledgement
  /-- A payload of the command with this ticket. -/
  | command (ticket : Nat)
  deriving DecidableEq, Inhabited

/-- One thing that a connection does. -/
inductive Effect where
  /-- A package is handed to the link, which may refuse it. -/
  | send (purpose : Purpose) (package : Package) (fault : Option GatewayFault)
  /-- An event is fed to the subscribers. -/
  | feed (event : FeedEvent)
  /-- The request with this ticket is answered: its payloads were sent, or what went wrong. -/
  | answer (ticket : Nat) (fault : Option CommandFault)
  deriving DecidableEq, Inhabited

/-! ## State -/

/-- A memory download under way. -/
structure Download where
  /-- The number of the chunk that comes next. -/
  expected : UInt8
  /-- Where its data belong. -/
  offset : Nat
  /-- When the download counts as stalled. -/
  deadline : Nat
  deriving DecidableEq, Inhabited

/-- A command request: its ticket and what is left to send. -/
structure Request where
  ticket : Nat
  command : TranslatedCommand
  deriving DecidableEq, Inhabited

/-- The state of a connection. -/
structure Connection where
  session : Session
  image : MemoryImage
  translator : Translator
  /-- Accepted requests, the one to be sent next first. -/
  queue : List Request := []
  /-- Earliest time of the next command payload. -/
  nextSend : Nat
  download : Option Download := none
  /-- When the next full download is due. -/
  nextFullDownload : Option Nat := none
  fullStateInterval : Nat
  /-- The phase that subscribers see. -/
  published : SessionPhase := .unauthenticated
  deriving DecidableEq, Inhabited

/-- What a turn is given beside its input. -/
structure Moment where
  now : Nat
  /-- The key of the next session, should this one expire. -/
  freshKey : Octets := []
  /-- The fate of each send of the turn, counted from zero. -/
  fault? : Nat → Option GatewayFault := fun _ => none

/-- A reaction: the connection afterwards and what it did. -/
structure Turn where
  connection : Connection
  effects : List Effect := []
  /-- Number of sends so far. -/
  sends : Nat := 0
  deriving DecidableEq, Inhabited

namespace Connection

/-- Milliseconds without a chunk after which a download counts as stalled. -/
def stallTimeout : Nat := 5000

/-- Milliseconds to sleep when nothing is scheduled. -/
def idleWake : Nat := 3600000

/-- The connection of a configuration before its first turn, with the first session key. It
needs a memory size. -/
def create (config : GatewayConfig) (key : Octets) (now : Nat) :
    Except GatewayFault Connection :=
  match config.memorySize with
  | none => .error (.config "spa_memory_size is required")
  | some size =>
    .ok
      { session := .create config.sessionSettings key false now
        image := .empty size.toNat
        translator := { settings := config.commands, memorySize := size.toNat }
        nextSend := now
        fullStateInterval := config.fullStateInterval * GatewayConfig.second }

/-- The times for which something is scheduled. -/
def deadlines (c : Connection) : List Nat :=
  c.session.deadlines ++ (c.download.map (·.deadline)).toList ++
    c.nextFullDownload.toList ++ (if c.queue = [] then [] else [c.nextSend])

/-- When the connection wants its timer to fire. -/
def nextWake (c : Connection) (now : Nat) : Nat :=
  c.deadlines.min?.getD (now + idleWake)

/-- Whether something is scheduled for a time out of reach. -/
def outlastsClock (c : Connection) : Bool := c.deadlines.any (clockEnd ≤ ·)

end Connection

/-! ## Parts of a turn -/

namespace Turn

/-- Changes the connection. -/
def update (t : Turn) (f : Connection → Connection) : Turn :=
  { t with connection := f t.connection }

/-- Does something besides sending. -/
def perform (t : Turn) (effect : Effect) : Turn := { t with effects := t.effects ++ [effect] }

/-- Feeds an event to the subscribers. -/
def feed (t : Turn) (event : FeedEvent) : Turn := t.perform (.feed event)

/-- Answers a request. -/
def answer (t : Turn) (ticket : Nat) (fault : Option CommandFault) : Turn :=
  t.perform (.answer ticket fault)

/-- Hands a package to the link. -/
def send (t : Turn) (m : Moment) (purpose : Purpose) (package : Package) : Turn :=
  { t.perform (.send purpose package (m.fault? t.sends)) with sends := t.sends + 1 }

/-- Sends content to the spa, while the session is authorized. -/
def sendContent (t : Turn) (m : Moment) (purpose : Purpose) (payload : Octets) : Turn :=
  match t.connection.session.frame? (.data payload) with
  | some package => t.send m purpose package
  | none => t

/-- Draws a sequence number. -/
def drawSeq (t : Turn) : UInt8 × Turn :=
  let (seq, translator) := t.connection.translator.nextSeq
  (seq, t.update ({ · with translator }))

/-- Fails every queued request. -/
def failQueue (t : Turn) (fault : DeliveryFault) : Turn :=
  (t.connection.queue.foldl (fun t r => t.answer r.ticket (some (.undelivered fault))) t).update
    ({ · with queue := [] })

/-! ## Memory -/

/-- Applies one update to the image and feeds what changed. -/
def applyUpdate (t : Turn) (address : UInt16) (data : Octets) : Turn :=
  match t.connection.image.apply address data with
  | .ok (image, changes) =>
    changes.foldl (fun t change => t.feed (.changed change)) (t.update ({ · with image }))
  | .error e => t.feed (.outOfBounds e.address e.length)

/-- Applies the changes of a push one by one. -/
def applyPush (t : Turn) (changes : List StatusChange) : Turn :=
  changes.foldl (fun t change => t.applyUpdate change.position change.data) t

/-- Asks the spa for all of its memory, while the session is authorized. -/
def requestDownload (t : Turn) (m : Moment) : Turn :=
  if t.connection.session.isAuthorized then
    let length := t.connection.image.size.toUInt16
    let (seq, t) := t.drawSeq
    let download := { expected := 0, offset := 0, deadline := m.now + Connection.stallTimeout }
    let t := t.update ({ · with download := some download, nextFullDownload := none })
    t.sendContent m .download (Payload.statusRequest seq 0 length).compose
  else t

/-- Takes a chunk of the download under way, if it is the one that comes next. The last chunk
schedules the next full download before it reports this one; if that lies out of reach,
nothing is reported. -/
def takeChunk (t : Turn) (m : Moment) (seq next : UInt8) (data : Octets) : Turn :=
  match t.connection.download with
  | none => t
  | some download =>
    if seq ≠ download.expected then t
    else
      let offset := download.offset + data.length
      let advanced := { expected := next, offset, deadline := m.now + Connection.stallTimeout }
      let isDone := t.connection.image.size ≤ offset
      let t := t.update ({ · with download := some advanced })
      let t :=
        if download.offset < 65536 then t.applyUpdate download.offset.toUInt16 data else t
      if isDone then
        let due := m.now + t.connection.fullStateInterval
        let t := t.update ({ · with download := none, nextFullDownload := some due })
        if due < clockEnd then t.feed .downloadComplete else t
      else t

/-! ## Session outputs -/

/-- Handles data addressed to the session. -/
def onData (t : Turn) (m : Moment) (payload : Octets) : Turn :=
  match Payload.parse? payload with
  | some (.statusPush changes) =>
    let (seq, t) := (t.applyPush changes).drawSeq
    t.sendContent m .acknowledgement (Payload.statusAck seq).compose
  | some (.statusChunk seq next data) => t.takeChunk m seq next data
  | some (.version version) => t.feed (.version version)
  | _ => t

/-- Handles an event of the session. -/
def onSessionEvent (t : Turn) (m : Moment) : SessionEvent → Turn
  | .authorized _ name => (t.feed (.authorized name.toTextLossy)).requestDownload m
  | .data _ payload => t.onData m payload
  | .malformedHandshake _ => t
  | .expired _ =>
    let t := t.update ({ · with download := none, nextFullDownload := none })
    (t.failQueue .sessionExpired).feed .expired
  | .unreachable attempts => t.feed (.unreachable attempts)

/-- Carries out one output of the session. -/
def carryOut (t : Turn) (m : Moment) : SessionOutput → Turn
  | .transmit package => t.send m .session package
  | .event event => t.onSessionEvent m event

/-- Shows the phase of the session to the subscribers. -/
def publish (t : Turn) : Turn := t.update fun c => { c with published := c.session.phase }

/-- Puts the session into a new state and carries out what it wants, in order. -/
def applySession (t : Turn) (m : Moment) (step : Session × List SessionOutput) : Turn :=
  (step.2.foldl (fun t output => t.carryOut m output)
    (t.update ({ · with session := step.1 }))).publish

/-! ## Commands -/

/-- Queues a request, or answers it at once if the session is not authorized. -/
def enqueue (t : Turn) (request : Request) : Turn :=
  let session := t.connection.session
  if session.isAuthorized then t.update fun c => { c with queue := c.queue ++ [request] }
  else t.answer request.ticket (some (.undelivered (.sessionIs session.phase)))

/-- Number of payloads that requests have left, one more for each request. -/
def work : List Request → Nat
  | [] => 0
  | r :: rest => r.command.remaining + 1 + work rest

/-- What the payload at the front of the queue led to. -/
inductive Flushed where
  /-- The queue moved on. -/
  | moved (t : Turn)
  /-- The queue was failed as a whole. -/
  | failed (t : Turn)

/-- Sends the next payload of the request at the front of the queue. The request leaves the
queue with its last payload, or when a payload could not be sent. -/
def flushFront (t : Turn) (m : Moment) (front : Request) (rest : List Request) : Flushed :=
  let (payload?, command, translator) := t.connection.translator.nextPayload front.command
  let left := if command.isEmpty then rest else { front with command } :: rest
  let t := t.update ({ · with translator })
  match payload? with
  | none => .moved ((t.update ({ · with queue := rest })).answer front.ticket none)
  | some payload =>
    match t.connection.session.frame? (.data payload) with
    | none =>
      .failed ((t.update ({ · with queue := { front with command } :: rest })).failQueue
        .notAuthorized)
    | some package =>
      let fault? := m.fault? t.sends
      let t := t.send m (.command front.ticket) package
      match fault? with
      | some fault =>
        .moved ((t.update ({ · with queue := rest })).answer front.ticket
          (some (.undelivered (.link fault))))
      | none =>
        let t := t.update ({ · with queue := left, nextSend := m.now + command.spacing })
        .moved (if command.isEmpty then t.answer front.ticket none else t)

/-- Sends every queued payload that is due. Each round takes a payload or a request from the
queue, so `rounds` need not exceed the work in it. -/
def flushRounds (m : Moment) : (rounds : Nat) → Turn → Turn
  | 0, t => t
  | rounds + 1, t =>
    if t.connection.nextSend ≤ m.now then
      match t.connection.queue with
      | [] => t
      | front :: rest =>
        match t.flushFront m front rest with
        | .moved t => flushRounds m rounds t
        | .failed t => t
    else t

/-- Sends every queued payload that is due. -/
def flushQueue (t : Turn) (m : Moment) : Turn := flushRounds m (work t.connection.queue) t

end Turn

/-! ## Reactions -/

/-- What a connection reacts to. -/
inductive Input where
  /-- A package arrives from the spa. -/
  | package (package : Package)
  /-- A translated command is requested. -/
  | request (request : Request)
  /-- The timer fires. -/
  | timer
  /-- The connection is to end, by request or because its link ended. -/
  | close
  deriving DecidableEq, Inhabited

namespace Connection

/-- The first turn: the session introduces itself. -/
def start (c : Connection) (m : Moment) : Turn :=
  Turn.applySession { connection := c } m (c.session.start m.now)

/-- Data that is addressed to an id other than the session's, seen through a relay. -/
def foreignData? (c : Connection) : Package → Option Octets
  | .authorized _ (some destination) (.data payload) =>
    if destination = c.session.key then none else some payload
  | _ => none

/-- Handles a package. Of data for others only pushes matter, which are not acknowledged. -/
def onPackage (c : Connection) (m : Moment) (package : Package) : Turn :=
  match c.foreignData? package with
  | some payload =>
    match Payload.parse? payload with
    | some (.statusPush changes) => Turn.applyPush { connection := c } changes
    | _ => { connection := c }
  | none => Turn.applySession { connection := c } m (c.session.handle package m.now)

/-- Handles a request. -/
def onRequest (c : Connection) (m : Moment) (request : Request) : Turn :=
  (Turn.enqueue { connection := c } request).flushQueue m

/-- Requests the download again if it is stalled. -/
def retryDownload (t : Turn) (m : Moment) : Turn :=
  if t.connection.download.any (·.deadline ≤ m.now) then t.requestDownload m else t

/-- Requests the next full download if it is due and none is under way. -/
def renewDownload (t : Turn) (m : Moment) : Turn :=
  if t.connection.nextFullDownload.any (· ≤ m.now) && t.connection.download.isNone then
    t.requestDownload m
  else t

/-- Lets time pass. -/
def onTimer (c : Connection) (m : Moment) : Turn :=
  let t := Turn.applySession { connection := c } m (c.session.poll m.freshKey m.now)
  (renewDownload (retryDownload t m) m).flushQueue m

/-- Ends the connection. -/
def close (c : Connection) : Turn :=
  let c := { c with session := c.session.close, download := none }
  let t := Turn.failQueue { connection := c } .shuttingDown
  (t.update ({ · with published := .closed })).feed .closed

/-- Reacts to an input. -/
def react (c : Connection) (m : Moment) : Input → Turn
  | .package package => c.onPackage m package
  | .request request => c.onRequest m request
  | .timer => c.onTimer m
  | .close => c.close

end Connection

end SpaGateway
