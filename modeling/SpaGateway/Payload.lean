import SpaGateway.Octets

/-!
# Payloads

The content of an authorized package is opaque to the frame layer. The payloads known here
begin with a five-letter tag and have a fixed layout; words are big-endian. This module holds
the payloads and writes them; `Payload.Parser` reads them. A length or count that does not
fit its octet is written modulo 256 while all of the data is written, so only payloads that
`Fits` describes can be read back.
-/

namespace SpaGateway

/-- Firmware versions of the spa's two controllers. -/
structure FirmwareVersion where
  enBuild : UInt16
  enMajor : UInt8
  enMinor : UInt8
  coBuild : UInt16
  coMajor : UInt8
  coMinor : UInt8
  deriving DecidableEq, Inhabited

/-- A change of two memory octets, as a status push reports it. -/
structure StatusChange where
  position : UInt16
  first : UInt8
  second : UInt8
  deriving DecidableEq, Inhabited

/-- The two octets of a change, in address order. -/
def StatusChange.data (change : StatusChange) : Octets := [change.first, change.second]

/-- What a pack command does. -/
inductive PackAction where
  /-- Press a key. -/
  | keyPress (key : UInt8)
  /-- Write octets at a position. -/
  | set (configVersion logVersion : UInt8) (position : UInt16) (data : Octets)
  deriving DecidableEq, Inhabited

/-- A payload with a known layout. -/
inductive Payload where
  /-- Asks the spa for its versions. -/
  | versionQuery (seq : UInt8)
  /-- The spa's versions. -/
  | version (version : FirmwareVersion)
  /-- Asks for a download of memory. -/
  | statusRequest (seq : UInt8) (start length : UInt16)
  /-- One chunk of a download; `next` is the number of the chunk after it. -/
  | statusChunk (seq next : UInt8) (data : Octets)
  /-- Changes of memory that the spa reports by itself. -/
  | statusPush (changes : List StatusChange)
  /-- Acknowledges a push. -/
  | statusAck (seq : UInt8)
  /-- A pack command. -/
  | pack (seq packType : UInt8) (action : PackAction)
  /-- Sets the watercare mode. -/
  | setWatercare (seq mode : UInt8)
  deriving DecidableEq, Inhabited

/-! ## Tags -/

namespace Payload

def versionQueryTag : Octets := Octets.ofChars ['A', 'V', 'E', 'R', 'S']
def versionTag : Octets := Octets.ofChars ['S', 'V', 'E', 'R', 'S']
def statusRequestTag : Octets := Octets.ofChars ['S', 'T', 'A', 'T', 'U']
def statusChunkTag : Octets := Octets.ofChars ['S', 'T', 'A', 'T', 'V']
def statusPushTag : Octets := Octets.ofChars ['S', 'T', 'A', 'T', 'P']
def statusAckTag : Octets := Octets.ofChars ['S', 'T', 'A', 'T', 'Q']
def packTag : Octets := Octets.ofChars ['S', 'P', 'A', 'C', 'K']
def setWatercareTag : Octets := Octets.ofChars ['S', 'E', 'T', 'W', 'C']

/-- Whether raw content is a status push, judged by its tag alone. -/
def isStatusPush (bytes : Octets) : Bool := bytes.startsWith statusPushTag

end Payload

/-! ## Writing -/

namespace PackAction

/-- The octet that announces a key press. -/
def keyPressCode : UInt8 := 57

/-- The octet that announces a write. -/
def setCode : UInt8 := 70

/-- The octets of an action. -/
def compose : PackAction → Octets
  | keyPress key => [keyPressCode, key]
  | set configVersion logVersion position data =>
    [setCode, configVersion, logVersion] ++ Octets.ofWord position ++ data

end PackAction

namespace FirmwareVersion

/-- The octets of the versions, the tag aside. -/
def compose (v : FirmwareVersion) : Octets :=
  Octets.ofWord v.enBuild ++ [v.enMajor, v.enMinor] ++
    Octets.ofWord v.coBuild ++ [v.coMajor, v.coMinor]

end FirmwareVersion

namespace StatusChange

/-- The octets of a change. -/
def compose (change : StatusChange) : Octets :=
  Octets.ofWord change.position ++ change.data

end StatusChange

namespace Payload

/-- The octet that announces a length or count. -/
def lengthOctet (n : Nat) : UInt8 := n.toUInt8

/-- The octets of a payload. -/
def compose : Payload → Octets
  | versionQuery seq => versionQueryTag ++ [seq]
  | version v => versionTag ++ v.compose
  | statusRequest seq start length =>
    statusRequestTag ++ [seq] ++ Octets.ofWord start ++ Octets.ofWord length
  | statusChunk seq next data => statusChunkTag ++ [seq, next, lengthOctet data.length] ++ data
  | statusPush changes =>
    statusPushTag ++ [lengthOctet changes.length] ++ changes.flatMap StatusChange.compose
  | statusAck seq => statusAckTag ++ [seq]
  | pack seq packType action =>
    packTag ++ [seq, packType, lengthOctet action.compose.length] ++ action.compose
  | setWatercare seq mode => setWatercareTag ++ [seq, mode]

/-- Payloads whose lengths and counts fit the octet that announces them. -/
def Fits : Payload → Prop
  | statusChunk _ _ data => data.length ≤ 255
  | statusPush changes => changes.length ≤ 255
  | pack _ _ (.set _ _ _ data) => data.length ≤ 250
  | _ => True

instance : DecidablePred Fits := fun p => by
  unfold Fits
  split <;> infer_instance

end Payload

end SpaGateway
