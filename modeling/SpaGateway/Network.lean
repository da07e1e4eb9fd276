import SpaGateway.Address.Target
import SpaGateway.Fault

/-!
# Sockets and their network

A socket is bound to a local address and sends datagrams; senders are bound to one peer each,
and clones of a sender are closed together with it. Whether a datagram can leave at all is up
to the network around the socket. What a socket receives is cut to a greatest size.
-/

namespace SpaGateway

/-- The network around a socket. -/
structure Network where
  /-- Why datagrams cannot leave, if they cannot. -/
  outage : Option String := none
  deriving DecidableEq, Inhabited

namespace Network

/-- A network without a route to anyone. -/
def unreachable : Network := { outage := some "Network is unreachable (os error 101)" }

/-- Sends a datagram; what fails is said, and nothing else can be seen here. -/
def send (n : Network) : Except SocketFault Unit :=
  match n.outage with
  | some reason => .error (.sendFailed reason)
  | none => .ok ()

/-- The fault of every send over this network, seen from a link. -/
def linkFault (n : Network) : Option GatewayFault :=
  n.outage.map fun reason => .socket (.sendFailed reason)

end Network

/-! ## Addresses -/

/-- The socket address that a target spells. -/
def resolve (target : String) : Except SocketFault SocketAddress :=
  match Target.resolve target with
  | .ok address => .ok address
  | .error e => .error (.unresolved target e.message)

/-- The local address that a text spells. -/
def bindAddress (text : String) : Except SocketFault SocketAddress :=
  match Target.resolve text with
  | .ok address => .ok address
  | .error e => .error (.bindFailed text e.message)

/-! ## Senders -/

/-- A bound socket with its senders, each with the number of the connection it shares with
its clones. -/
structure Socket where
  network : Network
  /-- The greatest datagram that is received whole. -/
  greatestPacket : Nat := 65507
  /-- Whether each connection is open. -/
  isOpen : List Bool := [true]
  /-- The connection of each sender. -/
  senders : List Nat := [0]
  deriving Inhabited

namespace Socket

/-- Whether a sender is open. -/
def isConnected (s : Socket) (sender : Nat) : Bool :=
  ((s.senders[sender]?).bind (s.isOpen[·]?)).getD false

/-- Sends a datagram through a sender. -/
def send (s : Socket) (sender : Nat) : Except SocketFault Unit :=
  if s.isConnected sender then s.network.send else .error .closed

/-- Closes a sender and its clones. -/
def close (s : Socket) (sender : Nat) : Socket :=
  match s.senders[sender]? with
  | some connection => { s with isOpen := s.isOpen.set connection false }
  | none => s

/-- Makes another sender of the same connection; its number comes with it. -/
def clone (s : Socket) (sender : Nat) : Nat × Socket :=
  (s.senders.length, { s with senders := s.senders ++ [(s.senders[sender]?).getD 0] })

/-- Makes a sender of a connection of its own; its number comes with it. -/
def newSender (s : Socket) : Nat × Socket :=
  (s.senders.length,
    { s with isOpen := s.isOpen ++ [true], senders := s.senders ++ [s.isOpen.length] })

/-- What is received of a datagram. -/
def receive (s : Socket) (datagram : Octets) : Octets := datagram.take s.greatestPacket

end Socket

end SpaGateway
