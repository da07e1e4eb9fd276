import SpaGateway.Address
import SpaGateway.Address.Target
import SpaGateway.Command
import SpaGateway.Session

/-!
# Configuration

What the gateway is told: where the spa is, how large its memory is, how long to wait for
what, where controller apps connect, and how commands are rendered. Intervals are configured
in seconds; the rest of the gateway counts milliseconds.
-/

namespace SpaGateway

/-- The configuration of the gateway. -/
structure GatewayConfig where
  /-- The spa as host or host and port. -/
  target : String := ""
  /-- Size of the memory image; without it there is no session of the gateway's own. -/
  memorySize : Option UInt16 := none
  /-- Seconds without traffic before a session expires. -/
  udpTimeout : Nat := 300
  /-- Seconds to wait for the answer to a hello. -/
  handshakeTimeout : Nat := 10
  /-- Where controller apps connect. -/
  forwardListen : Option SocketAddress := none
  /-- Whether relayed packages are logged. -/
  dumpTraffic : Bool := false
  /-- Seconds between pings; zero sends none. -/
  pingInterval : Nat := 3
  /-- Seconds between full downloads. -/
  fullStateInterval : Nat := 1800
  commands : CommandSettings := {}
  deriving DecidableEq, Inhabited

namespace GatewayConfig

/-- Milliseconds in a second. -/
def second : Nat := 1000

/-- The target with a port. -/
def completeTarget (config : GatewayConfig) : String := Target.complete config.target

/-- Seconds between pings, if there are pings. -/
def pingEvery? (config : GatewayConfig) : Option Nat :=
  if 0 < config.pingInterval then some config.pingInterval else none

/-- The timing of the gateway's own session. -/
def sessionSettings (config : GatewayConfig) : SessionSettings :=
  { udpTimeout := config.udpTimeout * second
    handshakeTimeout := config.handshakeTimeout * second
    pingInterval := config.pingEvery?.map (· * second) }

end GatewayConfig

end SpaGateway
