import SpaGateway.Address
import SpaGateway.Fault
import SpaGateway.Frame.Decoder

/-!
# Greeting the spa

Before it relays anything the gateway finds out who the spa is: it sends a hello and waits
for one window, up to five times. The first datagram from the spa that is a hello answers.
Other datagrams neither end nor prolong a window.
-/

namespace SpaGateway

/-- How far a greeting got. -/
inductive Greeting where
  /-- The hello of this attempt was sent, and its window is open. -/
  | waiting (attempt : Nat)
  /-- The spa answered in the window of this attempt. -/
  | answered (attempt : Nat) (hello : Octets)
  /-- The window of the last attempt closed. -/
  | unanswered
  deriving DecidableEq, Inhabited

namespace Greeting

/-- The payload of the gateway's hello. -/
def payload : Octets := Octets.ofChars ['1']

/-- The datagram that greets the spa. -/
def datagram : Octets := Frame.encode (.hello payload)

/-- Number of hellos before giving up. -/
def attempts : Nat := 5

/-- Milliseconds to wait after each hello. -/
def window : Nat := 1000

/-- What can happen in a window. -/
inductive Arrival where
  | datagram (sender : SocketAddress) (data : Octets)
  /-- The window closes. -/
  | windowEnd
  deriving DecidableEq, Inhabited

/-- The greeting after its first hello. -/
def begin : Greeting := waiting 1

/-- The hello that a datagram answers with. -/
def answer? (spa sender : SocketAddress) (data : Octets) : Option Octets :=
  if sender = spa then
    match Frame.decodeDatagram data with
    | .ok (.hello hello) => some hello
    | _ => none
  else none

/-- Takes what happens next. -/
def step (spa : SocketAddress) : Greeting → Arrival → Greeting
  | waiting attempt, .datagram sender data =>
    match answer? spa sender data with
    | some hello => answered attempt hello
    | none => waiting attempt
  | waiting attempt, .windowEnd =>
    if attempt < attempts then waiting (attempt + 1) else unanswered
  | done, _ => done

/-- Number of hellos sent. -/
def sent : Greeting → Nat
  | waiting attempt | answered attempt _ => attempt
  | unanswered => attempts

/-- The spa's hello, once the greeting is over: it has to name the spa. -/
def outcome? (spa : SocketAddress) : Greeting → Option (Except GatewayFault Octets)
  | waiting _ => none
  | answered _ hello =>
    some (if (splitHello? hello).isSome then .ok hello else .error (.invalidHello hello))
  | unanswered => some (.error (.spaSilent spa.describe))

end Greeting

end SpaGateway
