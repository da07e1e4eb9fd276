import SpaGateway.Command
import SpaGateway.Payload

/-!
# Translating commands

A translator checks commands against the settings and the memory size, renders the accepted
ones as payloads and hands out sequence numbers. Everything it sends draws from one counter,
which wraps at 256. Writes and mode changes are rendered at once; key presses are rendered
one by one as they are taken, so that a large count costs nothing in advance.
-/

namespace SpaGateway

/-- Renders commands and hands out sequence numbers. -/
structure Translator where
  settings : CommandSettings
  memorySize : Nat
  /-- The next sequence number. -/
  seq : UInt8 := 0
  deriving DecidableEq, Inhabited

/-- What is left to send of an accepted command. -/
inductive Pending where
  /-- A payload that is rendered already, until it is taken. -/
  | single (payload : Option Octets)
  /-- Presses of a key that are still to be rendered. -/
  | presses (key : UInt8) (remaining : UInt32)
  deriving DecidableEq, Inhabited

/-- An accepted command on its way to the spa. -/
structure TranslatedCommand where
  pending : Pending
  /-- Least time before the next command payload, in milliseconds. -/
  spacing : Nat
  deriving DecidableEq, Inhabited

namespace TranslatedCommand

/-- Number of payloads that are not yet taken. -/
def remaining (command : TranslatedCommand) : Nat :=
  match command.pending with
  | .single none => 0
  | .single (some _) => 1
  | .presses _ n => n.toNat

/-- Whether every payload is taken. -/
def isEmpty (command : TranslatedCommand) : Bool := command.remaining == 0

end TranslatedCommand

namespace Translator

/-! ## Sequence numbers -/

/-- Draws the next sequence number. -/
def nextSeq (t : Translator) : UInt8 × Translator := (t.seq, { t with seq := t.seq + 1 })

/-- Renders a pack command with a fresh sequence number. -/
def pack (t : Translator) (action : PackAction) : Octets × Translator :=
  let (seq, t) := t.nextSeq
  ((Payload.pack seq t.settings.packType action).compose, t)

/-! ## Checking -/

/-- Checks a write: not empty, inside memory, and of the declared width; an address without
a declaration takes one or two octets. -/
def checkWrite (t : Translator) (address : UInt16) (data : Octets) : Except Rejection Unit :=
  if data = [] then .error .emptyWrite
  else if t.memorySize < address.toNat + data.length then
    .error (.outsideMemory address data.length t.memorySize)
  else
    match t.settings.widthAt? address with
    | some width =>
      if width.length = data.length then .ok ()
      else .error (.wrongWidth address width data.length)
    | none =>
      if data.length = 1 ∨ data.length = 2 then .ok ()
      else .error (.undeclared address data.length)

/-- Checks a command. -/
def validate (t : Translator) : Command → Except Rejection Unit
  | .rawWrite address data => t.checkWrite address data
  | .modeWrite mode =>
    if t.settings.maxWatercareMode < mode then .error (.modeOutOfRange mode) else .ok ()
  | .keyPress key _ =>
    if t.settings.knownKeys = [] ∨ key ∈ t.settings.knownKeys then .ok ()
    else .error (.unknownKey key)

/-! ## Rendering -/

/-- Renders an accepted command. -/
def render (t : Translator) : Command → TranslatedCommand × Translator
  | .rawWrite address data =>
    let (payload, t) :=
      t.pack (.set t.settings.configVersion t.settings.logVersion address data)
    ({ pending := .single (some payload), spacing := 0 }, t)
  | .modeWrite mode =>
    let (seq, t) := t.nextSeq
    ({ pending := .single (some (Payload.setWatercare seq mode).compose), spacing := 0 }, t)
  | .keyPress key count =>
    ({ pending := .presses key count, spacing := t.settings.keyPressDelay }, t)

/-- Checks a command and renders it. A refused command draws no sequence number. -/
def translate (t : Translator) (command : Command) :
    Except Rejection (TranslatedCommand × Translator) := do
  t.validate command
  return t.render command

/-- Takes the next payload of a command. -/
def nextPayload (t : Translator) (command : TranslatedCommand) :
    Option Octets × TranslatedCommand × Translator :=
  match command.pending with
  | .single payload => (payload, { command with pending := .single none }, t)
  | .presses key n =>
    if n = 0 then (none, command, t)
    else
      let (payload, t) := t.pack (.keyPress key)
      (some payload, { command with pending := .presses key (n - 1) }, t)

/-- Renders a number of presses of one key. -/
def packPresses (t : Translator) (key : UInt8) : Nat → List Octets × Translator
  | 0 => ([], t)
  | n + 1 =>
    let (payload, t) := t.pack (.keyPress key)
    let (payloads, t) := t.packPresses key n
    (payload :: payloads, t)

/-- Takes every payload that a command has left. -/
def drain (t : Translator) (command : TranslatedCommand) :
    List Octets × TranslatedCommand × Translator :=
  match command.pending with
  | .single payload => (payload.toList, { command with pending := .single none }, t)
  | .presses key n =>
    let (payloads, t) := t.packPresses key n.toNat
    (payloads, { command with pending := .presses key 0 }, t)

end Translator

end SpaGateway
