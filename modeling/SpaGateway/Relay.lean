import SpaGateway.Config
import SpaGateway.Forward
import SpaGateway.Frame.Decoder
import SpaGateway.Payload

/-!
# The relay

The relay owns the one socket that talks to the spa. Controller apps talk to the relay as if
it were the spa, and the gateway's own session is attached by a local link. Packages for the
spa are passed on octet for octet; packages of the spa go to the peer that its destination
is mapped to. Status pushes for apps are shown to the local link as well.

The relay reacts to one input at a time and returns what it sends, delivers and records.
Sending may fail without consequence, so a send is all that a reaction says about it. A sweep that
needs a time out of the clock's reach is the last thing that a relay does.
-/

namespace SpaGateway

/-- One thing that a relay does. -/
inductive RelayEffect where
  /-- A datagram goes to a controller app. -/
  | toClient (address : SocketAddress) (datagram : Octets)
  /-- A datagram goes to the spa. -/
  | toSpa (datagram : Octets)
  /-- A package is queued for the local link. -/
  | toLocal (package : Package)
  /-- A relayed package is reported to whoever watches the traffic. -/
  | record (traffic : Traffic) (content : Content)
  deriving DecidableEq, Inhabited

/-- What a relay reacts to. -/
inductive RelayInput where
  /-- A datagram arrives at the spa socket. -/
  | spaSocket (sender : SocketAddress) (datagram : Octets)
  /-- A datagram arrives at the socket for controller apps. -/
  | clientSocket (sender : SocketAddress) (datagram : Octets)
  /-- A package of the local link is taken up; it may have waited since before the link was
  dropped. -/
  | localLink (package : Package)
  /-- The local link takes the packages queued for it. -/
  | localTaken
  /-- The local link is dropped. -/
  | localDropped
  /-- Expired mappings are swept. -/
  | sweep
  deriving DecidableEq, Inhabited

/-- The state of a relay. -/
structure Relay where
  spa : SocketAddress
  /-- The spa's latest hello, which answers the hellos of peers. -/
  hello : Octets
  forwards : ForwardTable := {}
  /-- Number of packages queued for the local link; none without a link. -/
  localQueued : Option Nat := none
  /-- Whether there is a socket for controller apps. -/
  hasClients : Bool
  handshakeTimeout : Nat
  udpTimeout : Nat
  deriving DecidableEq, Inhabited

namespace Relay

/-- Number of packages that can be queued for the local link. -/
def localCapacity : Nat := 256

/-- The relay of a configuration once the spa has introduced itself. -/
def create (config : GatewayConfig) (spa : SocketAddress) (hello : Octets)
    (hasLocal hasClients : Bool) : Relay :=
  { spa, hello, hasClients
    localQueued := if hasLocal then some 0 else none
    handshakeTimeout := config.handshakeTimeout * GatewayConfig.second
    udpTimeout := config.udpTimeout * GatewayConfig.second }

/-- The id of the spa: its hello up to the first delimiter. -/
def spaId (r : Relay) : Octets :=
  match splitHello? r.hello with
  | some (id, _) => id
  | none => r.hello

/-- Queues a package for the local link; it is dropped if the queue is full. -/
def deliverLocal (r : Relay) (package : Package) : Relay × List RelayEffect :=
  match r.localQueued with
  | none => (r, [])
  | some n =>
    if n < localCapacity then ({ r with localQueued := some (n + 1) }, [.toLocal package])
    else (r, [])

/-! ## From the spa -/

/-- Routes a package of the spa to the peer of its destination. -/
def route (r : Relay) (package : Package) (content : Content) (datagram : Octets) :
    Option Peer → Relay × List RelayEffect
  | none => (r, [])
  | some .gateway =>
    let (r, delivered) := r.deliverLocal package
    (r, .record (.toPeer .gateway) content :: delivered)
  | some (.client address) =>
    let isPush := match content with
      | .data payload => Payload.isStatusPush payload
      | _ => false
    let (r, shown) := if isPush then r.deliverLocal package else (r, [])
    let forwarded := if r.hasClients then [.toClient address datagram] else []
    (r, .record (.toPeer (.client address)) content :: forwarded ++ shown)

/-- Handles a datagram of the spa. -/
def onSpaDatagram (r : Relay) (datagram : Octets) (now : Nat) : Relay × List RelayEffect :=
  match Frame.decodeDatagram datagram with
  | .error _ => (r, [])
  | .ok (.hello hello) => ({ r with hello }, [])
  | .ok (.authorized _ none _) => (r, [])
  | .ok (.authorized source (some destination) content) =>
    let (forwards, peer?) := r.forwards.gotReply destination now
    { r with forwards }.route (.authorized source (some destination) content) content datagram
      peer?

/-! ## To the spa -/

/-- Handles a datagram of a controller app. -/
def onClientDatagram (r : Relay) (sender : SocketAddress) (datagram : Octets) (now : Nat) :
    Relay × List RelayEffect :=
  match Frame.decodeDatagram datagram with
  | .error _ => (r, [])
  | .ok (.hello _) => (r, [.toClient sender (Frame.encode (.hello r.hello))])
  | .ok (.authorized (some source) (some destination) content) =>
    if destination = r.spaId then
      let (forwards, _) := r.forwards.insert (.client sender) source now
      ({ r with forwards },
        [.record (.fromPeer (.client sender)) content, .toSpa datagram])
    else (r, [])
  | .ok (.authorized _ _ _) => (r, [])

/-- Handles a package of the local link. -/
def onLocalPackage (r : Relay) (package : Package) (now : Nat) : Relay × List RelayEffect :=
  match package with
  | .hello key =>
    let (forwards, _) := r.forwards.insert .gateway key now
    { r with forwards }.deliverLocal (.hello r.hello)
  | .authorized (some source) _ content =>
    let (forwards, _) := r.forwards.insert .gateway source now
    ({ r with forwards },
      [.record (.fromPeer .gateway) content, .toSpa (Frame.encode package)])
  | .authorized none _ _ => (r, [])

/-! ## Sweeping -/

/-- Milliseconds between sweeps while there are no mappings. -/
def sweepInterval (r : Relay) : Nat := min r.handshakeTimeout r.udpTimeout

/-- Sweeps the expired mappings and tells when to sweep next. There is no next sweep if the clock
does not reach the expiry of every mapping, when none is removed, or the end of the interval. -/
def sweep (r : Relay) (now : Nat) : Relay × Option Nat :=
  match r.forwards.sweepInReach? now r.handshakeTimeout r.udpTimeout with
  | none => (r, none)
  | some swept =>
    let idle := now + r.sweepInterval
    ({ r with forwards := swept.table },
      if clockEnd ≤ idle then none else some (swept.next.getD idle))

/-! ## Reactions -/

/-- Reacts to an input. -/
def react (r : Relay) (now : Nat) : RelayInput → Relay × List RelayEffect
  | .spaSocket sender datagram =>
    if sender = r.spa then r.onSpaDatagram datagram now else (r, [])
  | .clientSocket sender datagram =>
    if r.hasClients then r.onClientDatagram sender datagram now else (r, [])
  | .localLink package => r.onLocalPackage package now
  | .localTaken => ({ r with localQueued := r.localQueued.map fun _ => 0 }, [])
  | .localDropped => ({ r with localQueued := none }, [])
  | .sweep => ((r.sweep now).1, [])

end Relay

end SpaGateway
