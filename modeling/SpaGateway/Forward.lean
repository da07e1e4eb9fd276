import SpaGateway.Address
import SpaGateway.Clock
import SpaGateway.Forward.Index
import SpaGateway.Octets

/-!
# Forwarding

The relay learns which client session id belongs to which peer from the packages it
forwards. The forward table keeps this as a one-to-one mapping with two indexes, one by id
and one by peer. A mapping expires when the spa never answered within the handshake timeout,
or when neither side was heard for the udp timeout; a sweep removes the expired mappings. It
computes the expiry of every mapping before it removes any, so it comes to nothing if one of them
is out of the clock's reach (`ForwardTable.sweepInReach?`).
-/

namespace SpaGateway

/-- Where packages for a client session id go. -/
inductive Peer where
  /-- The gateway's own session. -/
  | gateway
  /-- A controller app at an address. -/
  | client (address : SocketAddress)
  deriving DecidableEq, Inhabited

/-- A peer as messages show it. -/
def Peer.describe : Peer → String
  | gateway => "bridge"
  | client address => address.describe

/-- Which way a relayed package went, and who was on the other side. -/
inductive Traffic where
  /-- From the spa to a peer. -/
  | toPeer (peer : Peer)
  /-- From a peer to the spa. -/
  | fromPeer (peer : Peer)
  deriving DecidableEq, Inhabited

/-- A direction as messages show it. -/
def Traffic.describe : Traffic → String
  | toPeer peer => "spa -> " ++ peer.describe
  | fromPeer peer => peer.describe ++ " -> spa"

/-- What is known about the mapping of an id. -/
structure Forward where
  peer : Peer
  /-- When a package of the peer was last forwarded. -/
  lastForward : Nat
  /-- When the spa last answered. -/
  lastReply : Option Nat := none
  deriving DecidableEq, Inhabited

/-- When a mapping expires: a handshake timeout after the last forward while the spa is
silent, else a udp timeout after the last package either way. -/
def Forward.expiresAt (entry : Forward) (handshakeTimeout udpTimeout : Nat) : Nat :=
  match entry.lastReply with
  | some reply => max reply entry.lastForward + udpTimeout
  | none => entry.lastForward + handshakeTimeout

/-- A one-to-one mapping between client session ids and peers. -/
structure ForwardTable where
  byId : Index Octets Forward := {}
  byPeer : Index Peer Octets := {}
  deriving DecidableEq, Inhabited

namespace ForwardTable

/-- The peer of an id. -/
def peer? (table : ForwardTable) (id : Octets) : Option Peer := (table.byId.get? id).map (·.peer)

/-- The id of a peer. -/
def id? (table : ForwardTable) (peer : Peer) : Option Octets := table.byPeer.get? peer

/-- Number of mappings. -/
def size (table : ForwardTable) : Nat := table.byId.size

/-- Drops the mapping of an id together with its peer. -/
def dropId (table : ForwardTable) (id : Octets) : ForwardTable :=
  match table.byId.get? id with
  | none => table
  | some old => { byId := table.byId.erase id, byPeer := table.byPeer.erase old.peer }

/-- Drops the mapping of a peer together with its id. -/
def dropPeer (table : ForwardTable) (peer : Peer) : ForwardTable :=
  match table.byPeer.get? peer with
  | none => table
  | some old => { byId := table.byId.erase old, byPeer := table.byPeer.erase peer }

/-- Adds a mapping that neither side has. -/
def link (table : ForwardTable) (peer : Peer) (id : Octets) (now : Nat) : ForwardTable :=
  { byId := table.byId.put id { peer, lastForward := now }
    byPeer := table.byPeer.put peer id }

/-- Maps an id to a peer, dropping older mappings of either. A mapping that exists already
only notes the forward. The result tells whether the mapping is new. -/
def insert (table : ForwardTable) (peer : Peer) (id : Octets) (now : Nat) :
    ForwardTable × Bool :=
  match table.byId.get? id with
  | some entry =>
    if entry.peer = peer then
      ({ table with byId := table.byId.put id { entry with lastForward := now } }, false)
    else (((table.dropId id).dropPeer peer).link peer id now, true)
  | none => ((table.dropPeer peer).link peer id now, true)

/-- Notes an answer of the spa for an id and tells where it goes. -/
def gotReply (table : ForwardTable) (id : Octets) (now : Nat) : ForwardTable × Option Peer :=
  match table.byId.get? id with
  | none => (table, none)
  | some entry =>
    ({ table with byId := table.byId.put id { entry with lastReply := some now } },
      some entry.peer)

/-! ## Sweeping -/

/-- Removes one expired mapping; the peer keeps an id that it got meanwhile. -/
def remove (table : ForwardTable) (id : Octets) (peer : Peer) : ForwardTable :=
  { byId := table.byId.erase id
    byPeer := if table.byPeer.get? peer = some id then table.byPeer.erase peer else table.byPeer }

/-- The earliest of some times. -/
def earliest? : List Nat → Option Nat
  | [] => none
  | t :: ts =>
    match earliest? ts with
    | none => some t
    | some u => some (min t u)

/-- The outcome of a sweep. -/
structure Sweep where
  table : ForwardTable
  /-- The mappings removed. -/
  expired : List (Octets × Peer)
  /-- When the next of the remaining mappings expires. -/
  next : Option Nat

/-- Removes the mappings that have expired. -/
def sweep (table : ForwardTable) (now handshakeTimeout udpTimeout : Nat) : Sweep :=
  let expiry (entry : Forward) := entry.expiresAt handshakeTimeout udpTimeout
  let (due, live) := table.byId.entries.partition fun (_, entry) => expiry entry ≤ now
  let expired := due.map fun (id, entry) => (id, entry.peer)
  { table := expired.foldl (fun table (id, peer) => table.remove id peer) table
    expired
    next := earliest? (live.map fun (_, entry) => expiry entry) }

/-- Whether some mapping expires at a time out of reach. -/
def outlastsClock (table : ForwardTable) (handshakeTimeout udpTimeout : Nat) : Bool :=
  table.byId.entries.any fun (_, entry) => clockEnd ≤ entry.expiresAt handshakeTimeout udpTimeout

/-- What a sweep comes to, if the clock reaches the expiry of every mapping. -/
def sweepInReach? (table : ForwardTable) (now handshakeTimeout udpTimeout : Nat) : Option Sweep :=
  if table.outlastsClock handshakeTimeout udpTimeout then none
  else some (table.sweep now handshakeTimeout udpTimeout)

end ForwardTable

/-- Mappings in the order of their ids, octet by octet. -/
def sortById (mappings : List (Octets × Peer)) : List (Octets × Peer) :=
  mappings.mergeSort fun a b => decide (a.1 ≤ b.1)

end SpaGateway
