import SpaGateway.Clock
import SpaGateway.Package
import SpaGateway.Payload

/-!
# Sessions

A session introduces itself to the spa by a hello with its key, waits for the answer that
names the spa (`id|name`), and is then authorized until the spa falls silent. The machine
performs no input or output: it is given packages and the time, and returns what is to be
sent and what happened, in order. A clock that goes backwards is harmless, since a difference of
times is never negative. A sum of times can be out of the clock's reach, and whoever needs it then
comes to no result: `pollInReach?` and `deadlineInReach?` say so of `poll` and `nextDeadline?`.

A handshake that gets no answer and a silent peer both expire the session, which then starts
again at once, under a fresh key unless its key is pinned. `closed` is final.
-/

namespace SpaGateway

/-- Where a session stands. -/
inductive SessionPhase where
  | unauthenticated
  | awaitingHello
  | authorized
  | expired
  | closed
  deriving DecidableEq, Inhabited

/-- A phase as messages name it. -/
def SessionPhase.describe : SessionPhase → String
  | unauthenticated => "unauthenticated"
  | awaitingHello => "awaiting hello"
  | authorized => "authorized"
  | expired => "expired"
  | closed => "closed"

/-- Timing of a session; times are in milliseconds. -/
structure SessionSettings where
  /-- Silence of the peer after which an authorized session expires. -/
  udpTimeout : Nat := 300000
  /-- Time the peer has to answer a hello. -/
  handshakeTimeout : Nat := 10000
  /-- Time between own pings; none sends no pings. -/
  pingInterval : Option Nat := some 3000
  /-- Failed handshakes in a row after which the peer counts as unreachable; zero never. -/
  unreachableAfter : Nat := 5
  deriving DecidableEq, Inhabited

/-- Something that happened to a session. -/
inductive SessionEvent where
  /-- The handshake is complete. -/
  | authorized (peer name : Octets)
  /-- Data arrived for this session. -/
  | data (source : Option Octets) (payload : Octets)
  /-- A hello without delimiter arrived during the handshake. -/
  | malformedHandshake (payload : Octets)
  /-- The session expired; a new handshake follows. -/
  | expired (phase : SessionPhase)
  /-- The handshake failed this many times in a row. -/
  | unreachable (attempts : Nat)
  deriving DecidableEq, Inhabited

/-- What a session wants from its owner. -/
inductive SessionOutput where
  | transmit (package : Package)
  | event (event : SessionEvent)
  deriving DecidableEq, Inhabited

/-- The state of a session. -/
structure Session where
  settings : SessionSettings
  /-- The id under which this session sends. -/
  key : Octets
  /-- Whether the key stays the same across handshakes. -/
  pinned : Bool
  /-- The id of the spa, while authorized. -/
  peer : Option Octets := none
  /-- The name of the spa, from the last handshake. -/
  deviceName : Option Octets := none
  phase : SessionPhase := .unauthenticated
  /-- When the phase was entered. -/
  since : Nat := 0
  /-- When the peer last gave a sign of life that counts. -/
  lastActivity : Nat := 0
  /-- When this session last pinged, or was authorized. -/
  lastPing : Option Nat := none
  /-- Failed handshakes in a row. -/
  failedHandshakes : Nat := 0
  /-- The next sequence number. -/
  seq : UInt8 := 0
  deriving DecidableEq, Inhabited

/-! ## Hellos of the spa -/

/-- The octet between id and name in a hello of the spa. -/
def helloDelimiter : UInt8 := 0x7c

/-- The id and the name in a hello payload, split at the first delimiter. -/
def splitHello? (payload : Octets) : Option (Octets × Octets) :=
  Octets.cut? [helloDelimiter] payload

namespace Session

/-- A session with this key that has not started, made at a given time. -/
def create (settings : SessionSettings) (key : Octets) (pinned : Bool) (now : Nat) : Session :=
  { settings, key, pinned, since := now, lastActivity := now }

def isAuthorized (s : Session) : Bool := s.phase == .authorized

/-- Time since the last sign of life. -/
def idle (s : Session) (now : Nat) : Nat := now - s.lastActivity

/-- Enters a phase. -/
def enter (s : Session) (phase : SessionPhase) (now : Nat) : Session :=
  { s with phase, since := now }

/-- Wraps content for the peer, while authorized. -/
def frame? (s : Session) (content : Content) : Option Package :=
  if s.phase = .authorized then some (.authorized (some s.key) s.peer content) else none

/-- What sending content to the peer takes. -/
def reply (s : Session) (content : Content) : List SessionOutput :=
  (s.frame? content).toList.map .transmit

/-- Offers the key to the peer. -/
def start (s : Session) (now : Nat) : Session × List SessionOutput :=
  if s.phase = .closed then (s, [])
  else
    ({ s.enter .awaitingHello now with
        peer := none, deviceName := none, lastPing := none, lastActivity := now },
      [.transmit (.hello s.key)])

/-! ## Inbound packages -/

/-- Handles a hello, which counts only during a handshake. -/
def handleHello (s : Session) (payload : Octets) (now : Nat) : Session × List SessionOutput :=
  if s.phase ≠ .awaitingHello then (s, [])
  else
    match splitHello? payload with
    | none => (s, [.event (.malformedHandshake payload)])
    | some (peer, name) =>
      let query := Payload.versionQuery s.seq
      let s := { s.enter .authorized now with
        peer := some peer, deviceName := some name, failedHandshakes := 0
        lastActivity := now, lastPing := some now, seq := s.seq + 1 }
      (s, .event (.authorized peer name) :: s.reply (.data query.compose))

/-- Handles an authorized package: anything but data and pings only counts as a sign of
life, and packages for other ids do not count at all. -/
def handleAuthorized (s : Session) (source destination : Option Octets) (content : Content)
    (now : Nat) : Session × List SessionOutput :=
  if s.phase ≠ .authorized then (s, [])
  else if destination.any (· ≠ s.key) then (s, [])
  else
    let s := { s with lastActivity := now }
    match content with
    | .ping => (s, s.reply .pong)
    | .pong => (s, [])
    | .data payload => (s, [.event (.data source payload)])

/-- Handles one inbound package. -/
def handle (s : Session) (package : Package) (now : Nat) : Session × List SessionOutput :=
  match package with
  | .hello payload => s.handleHello payload now
  | .authorized source destination content =>
    s.handleAuthorized source destination content now

/-! ## Time -/

/-- Expires the session and starts it again, under the fresh key unless pinned. The expiry is
told first, then the report, and then the new hello goes out. -/
def expire (s : Session) (fresh : Octets) (report : List SessionOutput) (now : Nat) :
    Session × List SessionOutput :=
  let expiry := .event (.expired s.phase)
  let s := { s.enter .unauthenticated now with key := if s.pinned then s.key else fresh }
  let (s, outputs) := s.start now
  (s, expiry :: report ++ outputs)

/-- When the next own ping is due. -/
def pingDue? (s : Session) : Option Nat :=
  match s.settings.pingInterval, s.lastPing with
  | some interval, some last => some (last + interval)
  | _, _ => none

/-- What is reported after a handshake failed: nothing, or that the peer is unreachable when
the failures in a row are a multiple of the threshold. -/
def unreachableReport (s : Session) : List SessionOutput :=
  if 0 < s.settings.unreachableAfter ∧ s.failedHandshakes % s.settings.unreachableAfter = 0 then
    [.event (.unreachable s.failedHandshakes)]
  else []

/-- Lets time pass: expires the session or pings the peer if that is due. The fresh key is
used only by an expiry. -/
def poll (s : Session) (fresh : Octets) (now : Nat) : Session × List SessionOutput :=
  match s.phase with
  | .awaitingHello =>
    if s.settings.handshakeTimeout ≤ now - s.since then
      let s := { s with failedHandshakes := s.failedHandshakes + 1 }
      s.expire fresh s.unreachableReport now
    else (s, [])
  | .authorized =>
    if s.settings.udpTimeout ≤ s.idle now then s.expire fresh [] now
    else
      match s.pingDue? with
      | some due =>
        if due ≤ now then
          let s := { s with lastPing := some now }
          (s, s.reply .ping)
        else (s, [])
      | none => (s, [])
  | _ => (s, [])

/-- The times for which something is scheduled: the end of the handshake, or the expiry and
the next own ping. -/
def deadlines (s : Session) : List Nat :=
  match s.phase with
  | .awaitingHello => [s.since + s.settings.handshakeTimeout]
  | .authorized => (s.lastActivity + s.settings.udpTimeout) :: s.pingDue?.toList
  | _ => []

/-- The earliest time at which `poll` has something to do. -/
def nextDeadline? (s : Session) : Option Nat := s.deadlines.min?

/-- What letting time pass comes to, if the clock reaches the next ping where that counts. -/
def pollInReach? (s : Session) (fresh : Octets) (now : Nat) :
    Option (Session × List SessionOutput) :=
  if s.phase = .authorized ∧ s.idle now < s.settings.udpTimeout ∧
    ∃ due ∈ s.pingDue?, clockEnd ≤ due then none
  else some (s.poll fresh now)

/-- The next deadline, if the clock reaches all times that count for it. -/
def deadlineInReach? (s : Session) : Option (Option Nat) :=
  if s.deadlines.any (clockEnd ≤ ·) then none else some s.nextDeadline?

/-- Ends the session for good. -/
def close (s : Session) : Session := { s with phase := .closed, peer := none }

end Session

end SpaGateway
