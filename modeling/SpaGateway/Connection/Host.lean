import SpaGateway.Connection

/-!
# Hosting a connection

A host runs a connection: it keeps the clock, the packages and requests that wait, and the
order to stop, and hands them to the connection one at a time. What waits is handled in a
fixed order of precedence: the order to stop, then packages, then requests, then the timer.
Time passes only when the host is told so.

Submitting a command translates it at once. Its request then waits in the mailbox until the
connection takes it. The mailbox has room for so many requests, and those beyond wait in
front of it until the connection has handled what is in it.

The alarm that fires the timer looks at the clock only when nothing waits. So a time that the
alarm has seen fires the timer before anything new begins, and a time that has come since
fires it when all is done.

A connection that has to wait for a time beyond the clock breaks off: it neither closes nor
tells anybody, and its requests fail like those that come later.
-/

namespace SpaGateway

/-- A connection with its surroundings. -/
structure Host where
  connection : Connection
  /-- False once the connection has ended. -/
  isRunning : Bool := true
  now : Nat := 0
  /-- The time at which the alarm last looked at the clock. -/
  alarm : Nat := 0
  /-- Packages that wait. -/
  inbox : List Package := []
  /-- Whether the link delivers no more packages. -/
  inboxEnded : Bool := false
  /-- Requests that wait, those in the mailbox first. -/
  mailbox : List Request := []
  stopRequested : Bool := false
  /-- The next ticket. -/
  tickets : Nat := 0
  /-- Keys for sessions to come. -/
  keys : Nat → Octets
  /-- Number of keys handed out. -/
  keysUsed : Nat := 0
  /-- Why the link refuses packages at present, if it does. -/
  linkFault : Option GatewayFault := none
  /-- What was done since the log was last taken. -/
  log : List Effect := []

namespace Host

/-- The circumstances of the next turn. -/
def moment (h : Host) : Moment :=
  { now := h.now, freshKey := h.keys h.keysUsed, fault? := fun _ => h.linkFault }

/-- Answers a request without consulting the connection. -/
def answer (h : Host) (ticket : Nat) (fault : Option CommandFault) : Host :=
  { h with log := h.log ++ [.answer ticket fault] }

/-- Answers a request whose connection has ended. -/
def refuse (h : Host) (request : Request) : Host :=
  h.answer request.ticket (some (.undelivered .stopped))

/-- Gives the connection up as it stands, with the requests that it holds. -/
def breakOff (h : Host) : Host :=
  { h.connection.queue.foldl refuse h with
    connection := { h.connection with queue := [] }, isRunning := false, inbox := [] }

/-- Adopts the result of a turn. -/
def adopt (h : Host) (t : Turn) : Host :=
  let h := { h with connection := t.connection, log := h.log ++ t.effects }
  if t.connection.outlastsClock then h.breakOff else h

/-- Lets the connection react to an input, if it runs. -/
def react (h : Host) (input : Input) : Host :=
  if h.isRunning then h.adopt (h.connection.react h.moment input) else h

/-- Starts a connection for a configuration when the clock has run for `uptime`. -/
def start (config : GatewayConfig) (keys : Nat → Octets) (linkFault : Option GatewayFault)
    (uptime : Nat := defaultUptime) : Except GatewayFault Host := do
  let connection ← Connection.create config (keys 0) uptime
  let h : Host := { connection, now := uptime, alarm := uptime, keys, keysUsed := 1, linkFault }
  return h.adopt (connection.start h.moment)

/-! ## What comes from outside -/

/-- Submits a command. One that is refused, or that has nothing to send, is answered at
once. -/
def submit (h : Host) (command : Command) : Host :=
  let ticket := h.tickets
  let h := { h with tickets := ticket + 1 }
  match h.connection.translator.translate command with
  | .error rejection => h.answer ticket (some (.rejected rejection))
  | .ok (command, translator) =>
    let h := { h with connection := { h.connection with translator } }
    if command.isEmpty then h.answer ticket none
    else { h with mailbox := h.mailbox ++ [{ ticket := ticket, command := command }] }

/-- Whether a package that arrives is taken in. -/
def isReceiving (h : Host) : Bool := h.isRunning && !h.inboxEnded

/-- Takes in a package. -/
def deliver (h : Host) (package : Package) : Host :=
  if h.isReceiving then { h with inbox := h.inbox ++ [package] } else h

/-- Ends the stream of packages. -/
def endInbox (h : Host) : Host := { h with inboxEnded := true }

/-- Orders the connection to stop. -/
def requestStop (h : Host) : Host := { h with stopRequested := true }

/-- Says why the link refuses packages from now on, if it does. -/
def setLinkFault (h : Host) (fault : Option GatewayFault) : Host := { h with linkFault := fault }

/-- Moves the clock on. -/
def advance (h : Host) (ms : Nat) : Host := { h with now := h.now + ms }

/-! ## Running -/

/-- Ends the connection. -/
def stop (h : Host) : Host := { h.react .close with isRunning := false, inbox := [] }

/-- Lets the connection handle the packages that wait. -/
def handlePackages (h : Host) : Host :=
  h.inbox.foldl (fun h package => h.react (.package package)) { h with inbox := [] }

/-- Lets the connection handle a request. -/
def handleRequest (h : Host) (request : Request) : Host :=
  if h.isRunning then h.react (.request request) else h.refuse request

/-- Number of requests that the mailbox has room for. -/
def mailboxSize : Nat := 32

/-- Lets the connection handle the requests in the mailbox. Those that wait in front of it
move up. -/
def handleRequests (h : Host) : Host :=
  (h.mailbox.take mailboxSize).foldl handleRequest
    { h with mailbox := h.mailbox.drop mailboxSize }

/-- Fires the timer if the alarm has seen the time for it. One firing handles all that is
due, unless the handshake timeout is zero. -/
def fireTimer (h : Host) : Host :=
  if h.isRunning && h.connection.nextWake h.now ≤ h.alarm then
    { h.react .timer with keysUsed := h.keysUsed + 1 }
  else h

/-- Handles everything that waits, in order of precedence. -/
def handleAll (h : Host) : Host :=
  let h := if h.stopRequested then h.stop else h.handlePackages
  let h := if h.inboxEnded then h.stop else h
  h.handleRequests.fireTimer

/-- Handles everything that waits so many times over. -/
def handleRounds : (rounds : Nat) → Host → Host
  | 0, h => h
  | rounds + 1, h => handleRounds rounds h.handleAll

/-- Lets the connection run until nothing waits, and lets the alarm look at the clock. Each
round empties the mailbox. -/
def settle (h : Host) : Host :=
  let h := handleRounds (h.mailbox.length / mailboxSize + 1) h
  fireTimer { h with alarm := h.now }

/-! ## Doing several things at once -/

/-- Something done to a host from outside. -/
inductive Action where
  | arrive (package : Package)
  | endInbox
  | submit (command : Command)
  | stop
  | advance (ms : Nat)
  deriving DecidableEq, Inhabited

/-- Whether an action concerns the stream of packages. -/
def Action.isInbound : Action → Bool
  | arrive _ | endInbox => true
  | _ => false

/-- Does one thing; the connection does not react yet. -/
def act (h : Host) : Action → Host
  | .arrive package => h.deliver package
  | .endInbox => h.endInbox
  | .submit command => h.submit command
  | .stop => h.requestStop
  | .advance ms => h.advance ms

/-- Does several things when the connection has just emptied its mailbox. New requests take
the room that is left by those that wait in front of it, and only then queue up behind. -/
def actAmidst (h : Host) (actions : List Action) : Host :=
  let waiting := h.mailbox
  let room := mailboxSize - waiting.length
  let h := actions.foldl act { h with mailbox := [] }
  { h with mailbox := h.mailbox.take room ++ waiting ++ h.mailbox.drop room }

/-- Does several things before the connection reacts to any of them. Commands and the order
to stop that come after the first inbound action begin only when the connection has handled
the packages; the clock has moved before anything is handled. -/
def actTogether (h : Host) (actions : List Action) : Host :=
  let (clock, actions) := actions.partition fun a => a matches .advance _
  let early := actions.takeWhile (!·.isInbound)
  let (inbound, late) := (actions.drop early.length).partition (·.isInbound)
  let h := (early ++ inbound ++ clock).foldl act h
  (h.handleAll.actAmidst late).settle

/-- Takes the log. -/
def takeLog (h : Host) : List Effect × Host := (h.log, { h with log := [] })

end Host

/-! ## What an observer sees -/

namespace Effect

/-- The package that reached the link, if this was one. -/
def sent? : Effect → Option Package
  | send _ package none => some package
  | _ => none

/-- The event that was fed, if this was one. -/
def fed? : Effect → Option FeedEvent
  | feed event => some event
  | _ => none

/-- The answer that was given, if this was one. -/
def answered? : Effect → Option (Nat × Option CommandFault)
  | answer ticket fault => some (ticket, fault)
  | _ => none

end Effect

namespace FeedEvent

/-- Number of unread events that a subscriber can fall behind. -/
def capacity : Nat := 256

/-- What a subscriber who read nothing meanwhile still gets: the number of events lost, and
the latest events. -/
def unread (events : List FeedEvent) : Nat × List FeedEvent :=
  let lost := events.length - capacity
  (lost, events.drop lost)

end FeedEvent

end SpaGateway
