import SpaGateway.Network
import SpaGateway.Relay
import SpaGateway.Relay.Greeting

/-!
# Hosting a relay

A host greets the spa and then runs a relay: it keeps the clock and the time of the next
sweep, and hands the relay what arrives. The sweep sleeps until the expiry that the last
sweep foretold; mappings made meanwhile do not wake it earlier. Time passes only when the
host is told so. A sweep that needs a time out of the clock's reach ends the run.
-/

namespace SpaGateway

/-! ## Binding -/

namespace Greeting

/-- Takes the datagrams that arrive in one window. Those after the answer are left over. -/
def takeWindow (spa : SocketAddress) :
    Greeting → List (SocketAddress × Octets) → Greeting × List (SocketAddress × Octets)
  | waiting attempt, (sender, data) :: arrivals =>
    takeWindow spa (step spa (waiting attempt) (.datagram sender data)) arrivals
  | greeting, arrivals => (greeting, arrivals)

/-- Takes the datagrams of successive windows; a window without an answer ends. -/
def takeWindows (spa : SocketAddress) :
    Greeting → List (List (SocketAddress × Octets)) →
      Greeting × List (SocketAddress × Octets)
  | waiting attempt, arrivals :: windows =>
    match takeWindow spa (waiting attempt) arrivals with
    | (waiting attempt, _) =>
      takeWindows spa (step spa (waiting attempt) .windowEnd) windows
    | finished => finished
  | greeting, _ => (greeting, [])

end Greeting

/-- What became of binding a relay. -/
inductive Binding where
  /-- The greeting is not over. -/
  | pending (greeting : Greeting)
  /-- It failed after so many hellos. -/
  | failed (hellos : Nat) (fault : GatewayFault)
  /-- The spa introduced itself; some datagrams wait already. -/
  | bound (hellos : Nat) (hello : Octets) (waiting : List (SocketAddress × Octets))

/-- Greets the spa over a network. A hello that cannot leave ends the attempt. -/
def Binding.ofArrivals (network : Network) (spa : SocketAddress)
    (windows : List (List (SocketAddress × Octets))) : Binding :=
  match network.linkFault with
  | some fault => failed 0 fault
  | none =>
    let (greeting, left) := Greeting.begin.takeWindows spa windows
    match greeting.outcome? spa with
    | none => pending greeting
    | some (.ok hello) => bound greeting.sent hello left
    | some (.error fault) => failed greeting.sent fault

/-! ## Running -/

/-- A relay with its surroundings. -/
structure RelayHost where
  relay : Relay
  isRunning : Bool := true
  now : Nat := 0
  /-- When the next sweep is due. -/
  nextSweep : Nat
  /-- What was done since the log was last taken. -/
  log : List RelayEffect := []

namespace RelayHost

/-- Lets the relay react to an input. -/
def react (h : RelayHost) (input : RelayInput) : RelayHost :=
  if h.isRunning then
    let (relay, effects) := h.relay.react h.now input
    { h with relay, log := h.log ++ effects }
  else h

/-- Sweeps if that is due. -/
def sweepIfDue (h : RelayHost) : RelayHost :=
  if h.isRunning && h.nextSweep ≤ h.now then
    match h.relay.sweep h.now with
    | (relay, some nextSweep) => { h with relay, nextSweep }
    | (relay, none) => { h with relay, isRunning := false }
  else h

/-- Starts a relay when the clock has run for `uptime`: it handles the datagrams that wait and
sweeps for the first time. -/
def start (relay : Relay) (waiting : List (SocketAddress × Octets))
    (uptime : Nat := defaultUptime) : RelayHost :=
  (waiting.foldl (fun (h : RelayHost) (sender, data) => h.react (.spaSocket sender data))
    { relay, now := uptime, nextSweep := uptime }).sweepIfDue

/-- Moves the clock on and sweeps if that is due. -/
def advance (h : RelayHost) (ms : Nat) : RelayHost := { h with now := h.now + ms }.sweepIfDue

/-- Stops the relay. -/
def stop (h : RelayHost) : RelayHost := { h with isRunning := false }

/-- Takes the log; the local link takes its packages. -/
def takeLog (h : RelayHost) : List RelayEffect × RelayHost :=
  let h := h.react .localTaken
  (h.log, { h with log := [] })

end RelayHost

end SpaGateway
