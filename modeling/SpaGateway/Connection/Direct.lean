import SpaGateway.Address
import SpaGateway.Frame.Decoder

/-!
# Direct links

A connection that talks to the spa over a socket of its own takes the packages of every
datagram from the spa, in order. Datagrams from elsewhere are dropped, and so are octets that
form no complete frame.
-/

namespace SpaGateway

namespace DirectLink

/-- The packages that a datagram delivers. -/
def packages (spa sender : SocketAddress) (datagram : Octets) : List Package :=
  if sender = spa then (Frame.decode datagram).packages else []

end DirectLink

end SpaGateway
