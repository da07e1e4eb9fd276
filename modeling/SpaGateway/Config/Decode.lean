import SpaGateway.Address.Parser
import SpaGateway.Config
import SpaGateway.Config.Datum

/-!
# Reading the configuration

The records of the configuration as data: the names of their fields in positional order, and
the defaults of those that may be missing. Commands are read here too, since they come as
data from outside. A reader fails as a whole if any part of the datum fails.
-/

namespace SpaGateway

/-- Reads a width: a bare choice by its name, or a choice with the data it needs. -/
def Width.ofDatum? (format : Notation) : Datum → Option Width
  | .text "u8" => some .octet
  | .text "u16" => some .word
  | .record [(some "u8", d)] => if format.isBare d then some .octet else none
  | .record [(some "u16", d)] => if format.isBare d then some .word else none
  | .record [(some "range", d)] => d.word?.map .range
  | _ => none

/-- Reads the declared width of an address. -/
def AddressWidth.ofDatum? (format : Notation) (d : Datum) : Option AddressWidth := do
  match ← d.fields? format ["address", "width"] with
  | [address, width] =>
    some
      { address := ← Datum.required? Datum.word? address
        width := ← Datum.required? (Width.ofDatum? format) width }
  | _ => none

/-- Reads the command settings. -/
def CommandSettings.ofDatum? (format : Notation) (d : Datum) : Option CommandSettings := do
  let names := ["pack_type", "config_version", "log_version", "key_press_delay_ms",
    "known_keys", "max_watercare_mode", "addresses"]
  let default : CommandSettings := {}
  match ← d.fields? format names with
  | [packType, configVersion, logVersion, delay, keys, mode, addresses] =>
    some
      { packType := ← Datum.orDefault default.packType Datum.octet? packType
        configVersion := ← Datum.orDefault default.configVersion Datum.octet? configVersion
        logVersion := ← Datum.orDefault default.logVersion Datum.octet? logVersion
        keyPressDelay := ← Datum.orDefault default.keyPressDelay Datum.long? delay
        knownKeys := ← Datum.orDefault default.knownKeys (Datum.listOf? Datum.octet?) keys
        maxWatercareMode := ← Datum.orDefault default.maxWatercareMode Datum.octet? mode
        addresses := ← Datum.orDefault default.addresses
          (Datum.listOf? (AddressWidth.ofDatum? format)) addresses }
  | _ => none

/-- Reads the configuration. -/
def GatewayConfig.ofDatum? (format : Notation) (d : Datum) : Option GatewayConfig := do
  let names := ["spa_target", "spa_memory_size", "spa_udp_timeout", "spa_handshake_timeout",
    "spa_forward_listen", "dump_traffic", "ping_interval", "full_state_interval", "commands"]
  let default : GatewayConfig := {}
  let address? (d : Datum) : Option SocketAddress := do SocketAddress.ofString? (← d.text?)
  match ← d.fields? format names with
  | [target, size, udp, handshake, listen, dump, ping, full, commands] =>
    some
      { target := ← Datum.orDefault default.target Datum.text? target
        memorySize := ← Datum.orDefault default.memorySize (Datum.optional? Datum.word?) size
        udpTimeout := ← Datum.orDefault default.udpTimeout Datum.long? udp
        handshakeTimeout := ← Datum.orDefault default.handshakeTimeout Datum.long? handshake
        forwardListen := ← Datum.orDefault default.forwardListen
          (Datum.optional? address?) listen
        dumpTraffic := ← Datum.orDefault default.dumpTraffic Datum.flag? dump
        pingInterval := ← Datum.orDefault default.pingInterval Datum.long? ping
        fullStateInterval := ← Datum.orDefault default.fullStateInterval Datum.long? full
        commands := ← Datum.orDefault default.commands (CommandSettings.ofDatum? format)
          commands }
  | _ => none

/-! ## Commands -/

/-- Reads what a command of a given type says; every field has to be given. -/
def Command.ofFields? (format : Notation) (type : String) (d : Datum) : Option Command := do
  match type with
  | "raw_write" =>
    match ← d.fields? format ["address", "data"] with
    | [address, data] =>
      some (.rawWrite (← Datum.required? Datum.word? address)
        (← Datum.required? (Datum.listOf? Datum.octet?) data))
    | _ => none
  | "mode_write" =>
    match ← d.fields? format ["value"] with
    | [mode] => some (.modeWrite (← Datum.required? Datum.octet? mode))
    | _ => none
  | "key_press" =>
    match ← d.fields? format ["key", "count"] with
    | [key, count] =>
      some (.keyPress (← Datum.required? Datum.octet? key)
        (← Datum.required? Datum.word32? count))
    | _ => none
  | _ => none

/-- Reads a command. Its type stands in the member `type`, or first in a list. -/
def Command.ofDatum? (format : Notation) : Datum → Option Command
  | .record members => do
    let type ← Datum.required? Datum.text? (← Datum.single? "type" members)
    ofFields? format type (.record (members.filter (·.1 ≠ some "type")))
  | .list (type :: items) => do
    ofFields? format (← type.text?) (.list items)
  | _ => none

end SpaGateway
