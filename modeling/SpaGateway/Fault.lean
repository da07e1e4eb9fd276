import SpaGateway.Command
import SpaGateway.Octets
import SpaGateway.Session

/-!
# Faults

What can go wrong outside the wire formats: with sockets, with the links between the parts of
the gateway, with the configuration, and with commands on their way. Each fault is a cause;
its wording is in one place.
-/

namespace SpaGateway

/-- A fault of a socket. -/
inductive SocketFault where
  /-- No socket could be bound to an address. -/
  | bindFailed (address reason : String)
  /-- A target names no socket address. -/
  | unresolved (target reason : String)
  /-- A datagram could not leave. -/
  | sendFailed (reason : String)
  /-- The sender was closed. -/
  | closed
  deriving DecidableEq, Inhabited

/-- The text of a socket fault. -/
def SocketFault.message : SocketFault → String
  | bindFailed address reason => "bind failed: " ++ address ++ ": " ++ reason
  | unresolved target reason => "cannot resolve " ++ target ++ ": " ++ reason
  | sendFailed reason => "send failed: " ++ reason
  | closed => "sender closed"

/-- A fault of the gateway. -/
inductive GatewayFault where
  | socket (fault : SocketFault)
  /-- The spa never answered a hello. -/
  | spaSilent (address : String)
  /-- The spa's hello does not name it. -/
  | invalidHello (payload : Octets)
  /-- The other end of a link is gone. -/
  | channelClosed
  /-- The configuration lacks something. -/
  | config (reason : String)
  deriving DecidableEq, Inhabited

/-- The text of a gateway fault. -/
def GatewayFault.message : GatewayFault → String
  | socket fault => "transport error: " ++ fault.message
  | spaSilent address => "spa at " ++ address ++ " did not answer hello"
  | invalidHello payload => "invalid spa hello: " ++ payload.printable
  | channelClosed => "channel closed"
  | config reason => "configuration error: " ++ reason

/-- Why an accepted command was not delivered. -/
inductive DeliveryFault where
  /-- The session was not authorized when the command arrived. -/
  | sessionIs (phase : SessionPhase)
  /-- The session expired while the command waited. -/
  | sessionExpired
  /-- The session was not authorized when the command's turn came. -/
  | notAuthorized
  /-- The connection was shut down while the command waited. -/
  | shuttingDown
  /-- There is no connection any more. -/
  | stopped
  /-- The link refused a payload. -/
  | link (fault : GatewayFault)
  deriving DecidableEq, Inhabited

/-- The reason of a delivery fault in words. -/
def DeliveryFault.reason : DeliveryFault → String
  | sessionIs phase => "session is " ++ phase.describe
  | sessionExpired => "session expired"
  | notAuthorized => "session not authorized"
  | shuttingDown => "shutting down"
  | stopped => "spa connection stopped"
  | link fault => fault.message

/-- Why a submitted command failed. -/
inductive CommandFault where
  /-- It was refused before anything was sent. -/
  | rejected (rejection : Rejection)
  /-- It was accepted and could not be delivered. -/
  | undelivered (fault : DeliveryFault)
  deriving DecidableEq, Inhabited

/-- The text of a command fault. -/
def CommandFault.message : CommandFault → String
  | rejected rejection => rejection.message
  | undelivered fault => "send failed: " ++ fault.reason

end SpaGateway
