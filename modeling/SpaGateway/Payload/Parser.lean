import SpaGateway.Payload

/-!
# Reading payloads

A payload is read tag first, then field by field. Unknown tags, bodies that are too short or
too long, and lengths that disagree with the data yield nothing: the content then stays
opaque to its reader.
-/

namespace SpaGateway

/-! ## Fields

Each reader takes its field from the front of the input and returns the rest. -/

namespace Octets

/-- Takes one octet. -/
def takeOctet? : Octets → Option (UInt8 × Octets)
  | b :: s => some (b, s)
  | [] => none

/-- Takes a word, the high octet first. -/
def takeWord? : Octets → Option (UInt16 × Octets)
  | high :: low :: s => some (toWord high low, s)
  | _ => none

/-- Takes a fixed number of octets. -/
def takeExactly? (n : Nat) (s : Octets) : Option (Octets × Octets) :=
  if n ≤ s.length then some (s.take n, s.drop n) else none

end Octets

open Octets in
/-- Reads an action; nothing may follow it. -/
def PackAction.parse? (input : Octets) : Option PackAction := do
  let (code, s) ← takeOctet? input
  if code = keyPressCode then
    let (key, s) ← takeOctet? s
    if s = [] then some (.keyPress key) else none
  else if code = setCode then
    let (configVersion, s) ← takeOctet? s
    let (logVersion, s) ← takeOctet? s
    let (position, data) ← takeWord? s
    some (.set configVersion logVersion position data)
  else none

open Octets in
/-- Reads the versions. -/
def FirmwareVersion.take? (s : Octets) : Option (FirmwareVersion × Octets) := do
  let (enBuild, s) ← takeWord? s
  let (enMajor, s) ← takeOctet? s
  let (enMinor, s) ← takeOctet? s
  let (coBuild, s) ← takeWord? s
  let (coMajor, s) ← takeOctet? s
  let (coMinor, s) ← takeOctet? s
  some ({ enBuild, enMajor, enMinor, coBuild, coMajor, coMinor }, s)

open Octets in
/-- Reads a given number of changes. -/
def StatusChange.takeMany? : Nat → Octets → Option (List StatusChange × Octets)
  | 0, s => some ([], s)
  | n + 1, s => do
    let (position, s) ← takeWord? s
    let (first, s) ← takeOctet? s
    let (second, s) ← takeOctet? s
    let (changes, s) ← takeMany? n s
    some ({ position, first, second } :: changes, s)

namespace Payload

/-- Length of every tag. -/
def tagLength : Nat := 5

open Octets in
/-- Reads what follows a tag; the rest of the input comes with it. -/
def parseBody? (tag s : Octets) : Option (Payload × Octets) :=
  if tag = versionQueryTag then do
    let (seq, s) ← takeOctet? s
    some (versionQuery seq, s)
  else if tag = versionTag then do
    let (v, s) ← FirmwareVersion.take? s
    some (version v, s)
  else if tag = statusRequestTag then do
    let (seq, s) ← takeOctet? s
    let (start, s) ← takeWord? s
    let (length, s) ← takeWord? s
    some (statusRequest seq start length, s)
  else if tag = statusChunkTag then do
    let (seq, s) ← takeOctet? s
    let (next, s) ← takeOctet? s
    let (length, s) ← takeOctet? s
    let (data, s) ← takeExactly? length.toNat s
    some (statusChunk seq next data, s)
  else if tag = statusPushTag then do
    let (count, s) ← takeOctet? s
    let (changes, s) ← StatusChange.takeMany? count.toNat s
    some (statusPush changes, s)
  else if tag = statusAckTag then do
    let (seq, s) ← takeOctet? s
    some (statusAck seq, s)
  else if tag = packTag then do
    let (seq, s) ← takeOctet? s
    let (packType, s) ← takeOctet? s
    let (length, s) ← takeOctet? s
    let (bytes, s) ← takeExactly? length.toNat s
    let action ← PackAction.parse? bytes
    some (pack seq packType action, s)
  else if tag = setWatercareTag then do
    let (seq, s) ← takeOctet? s
    let (mode, s) ← takeOctet? s
    some (setWatercare seq mode, s)
  else none

/-- Reads a payload; nothing may follow it. -/
def parse? (input : Octets) : Option Payload :=
  match Octets.takeExactly? tagLength input with
  | none => none
  | some (tag, s) =>
    match parseBody? tag s with
    | some (payload, []) => some payload
    | _ => none

end Payload

end SpaGateway
