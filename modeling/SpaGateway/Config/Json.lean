import SpaGateway.Config.Decode
import SpaGateway.Forward
import SpaGateway.Json.Parser

/-!
# The configuration in JSON

Records are objects, or arrays of their fields in order. Members that no field is named after
may hold anything that is grammatical. A command is read more strictly, since its type has to
be found before its other members make sense: all of it has to be plain text and numbers.
-/

namespace SpaGateway

namespace Json

mutual

/-- What a JSON value says. -/
def toDatum : Json → Datum
  | null => .absent
  | bool b => .flag b
  | number n => match n.natural? with
    | some n => .natural n
    | none => .other
  | string (some s) => .text s
  | string none => .other
  | array items => .list (itemsToData items)
  | object members => .record (membersToData members)

/-- What the items of an array say. -/
def itemsToData : List Json → List Datum
  | [] => []
  | item :: items => toDatum item :: itemsToData items

/-- What the members of an object say. -/
def membersToData : List (Option String × Json) → List (Option String × Datum)
  | [] => []
  | (name, value) :: members => (name, toDatum value) :: membersToData members

end

/-- JSON as a notation: lists have no surplus, and a bare choice may be given a null. -/
def format : Notation where
  surplusAllowed := false
  isBare
    | .absent => true
    | _ => false

/-- Depth to which arrays and objects of a command may nest. -/
def depthLimit : Nat := 127

end Json

/-! ## Reading -/

/-- Reads a configuration from a JSON value. -/
def GatewayConfig.ofJson? (json : Json) : Option GatewayConfig :=
  GatewayConfig.ofDatum? Json.format json.toDatum

/-- Reads command settings from a JSON value. -/
def CommandSettings.ofJson? (json : Json) : Option CommandSettings :=
  CommandSettings.ofDatum? Json.format json.toDatum

/-- Reads a width from a JSON value. -/
def Width.ofJson? (json : Json) : Option Width := Width.ofDatum? Json.format json.toDatum

/-- Reads a command from a JSON value. -/
def Command.ofJson? (json : Json) : Option Command :=
  if json.isPlain Json.depthLimit then Command.ofDatum? Json.format json.toDatum else none

/-! ## Writing -/

/-- Octets as an array of numbers. -/
def Octets.toJson (s : Octets) : Json := .array (s.map fun b => .nat b.toNat)

/-- A width as a JSON value. -/
def Width.toJson : Width → Json
  | octet => .text "u8"
  | word => .text "u16"
  | range n => .record [("range", .nat n.toNat)]

/-- A command as a JSON value. -/
def Command.toJson : Command → Json
  | rawWrite address data =>
    .record [("type", .text "raw_write"), ("address", .nat address.toNat),
      ("data", data.toJson)]
  | modeWrite mode => .record [("type", .text "mode_write"), ("value", .nat mode.toNat)]
  | keyPress key count =>
    .record [("type", .text "key_press"), ("key", .nat key.toNat), ("count", .nat count.toNat)]

/-- Command settings as a JSON value. -/
def CommandSettings.toJson (s : CommandSettings) : Json :=
  .record
    [("pack_type", .nat s.packType.toNat),
      ("config_version", .nat s.configVersion.toNat),
      ("log_version", .nat s.logVersion.toNat),
      ("key_press_delay_ms", .nat s.keyPressDelay),
      ("known_keys", Octets.toJson s.knownKeys),
      ("max_watercare_mode", .nat s.maxWatercareMode.toNat),
      ("addresses", .array (s.addresses.map fun a =>
        .record [("address", .nat a.address.toNat), ("width", a.width.toJson)]))]

/-- A configuration as a JSON value. -/
def GatewayConfig.toJson (c : GatewayConfig) : Json :=
  .record
    [("spa_target", .text c.target),
      ("spa_memory_size", .ofOption (fun n => .nat n.toNat) c.memorySize),
      ("spa_udp_timeout", .nat c.udpTimeout),
      ("spa_handshake_timeout", .nat c.handshakeTimeout),
      ("spa_forward_listen", .ofOption (fun a => .text a.describe) c.forwardListen),
      ("dump_traffic", .bool c.dumpTraffic),
      ("ping_interval", .nat c.pingInterval),
      ("full_state_interval", .nat c.fullStateInterval),
      ("commands", c.commands.toJson)]

/-- A peer as a JSON value. -/
def Peer.toJson : Peer → Json
  | gateway => .text "Local"
  | client address => .text address.describe

/-- A direction of traffic as a JSON value. -/
def Traffic.toJson : Traffic → Json
  | toPeer peer => .record [("to", peer.toJson)]
  | fromPeer peer => .record [("from", peer.toJson)]

end SpaGateway
