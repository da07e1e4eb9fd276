import SpaGateway.Memory

/-!
# Commands

A command is a request from outside to change something on the spa. `CommandSettings` holds
what the spa's model fixes: the bytes that every pack command carries, the keys and modes
that exist, and the widths of writable addresses. `Rejection` lists the reasons for which a
command is refused before anything is sent.
-/

namespace SpaGateway

/-- A request to change something on the spa. -/
inductive Command where
  /-- Write octets at a memory address. -/
  | rawWrite (address : UInt16) (data : Octets)
  /-- Set the watercare mode. -/
  | modeWrite (mode : UInt8)
  /-- Press a key a number of times. -/
  | keyPress (key : UInt8) (count : UInt32)
  deriving DecidableEq, Inhabited

/-- A list of octets in decimal, as messages show it. -/
def Octets.decimalList (s : Octets) : String :=
  "[" ++ String.intercalate ", " (s.map fun b => toString b.toNat) ++ "]"

/-- A command as messages show it. -/
def Command.describe : Command → String
  | rawWrite address data =>
    "write " ++ data.decimalList ++ " at " ++ Octets.hexWord address
  | modeWrite mode => "watercare mode " ++ toString mode.toNat
  | keyPress key count => "press key " ++ toString key.toNat ++ " x" ++ toString count.toNat

/-- The declared width of one writable address. -/
structure AddressWidth where
  address : UInt16
  width : Width
  deriving DecidableEq, Inhabited

/-- What the spa's model fixes about commands. -/
structure CommandSettings where
  /-- The pack type of every pack command. -/
  packType : UInt8 := 10
  configVersion : UInt8 := 0
  logVersion : UInt8 := 0
  /-- Least time between repeated key presses, in milliseconds. -/
  keyPressDelay : Nat := 250
  /-- Keys that exist; none listed admits every key. -/
  knownKeys : List UInt8 := []
  /-- The greatest watercare mode. -/
  maxWatercareMode : UInt8 := 4
  /-- Declared widths; the last declaration of an address counts. -/
  addresses : List AddressWidth := []
  deriving DecidableEq, Inhabited

/-- The declared width of an address. -/
def CommandSettings.widthAt? (settings : CommandSettings) (address : UInt16) : Option Width :=
  (settings.addresses.findRev? (·.address = address)).map (·.width)

/-! ## Rejections -/

/-- Why a command is refused before anything is sent. -/
inductive Rejection where
  | emptyWrite
  | outsideMemory (address : UInt16) (length memorySize : Nat)
  | wrongWidth (address : UInt16) (declared : Width) (length : Nat)
  | undeclared (address : UInt16) (length : Nat)
  | modeOutOfRange (mode : UInt8)
  | unknownKey (key : UInt8)
  deriving DecidableEq, Inhabited

/-- A width as messages name it. -/
def Width.name : Width → String
  | octet => "U8"
  | word => "U16"
  | range n => "Range(" ++ toString n.toNat ++ ")"

/-- The reason of a rejection in words. -/
def Rejection.reason : Rejection → String
  | emptyWrite => "empty write"
  | outsideMemory address length memorySize =>
    "address " ++ Octets.hexWord address ++ "+" ++ toString length ++ " outside memory of " ++
      toString memorySize ++ " bytes"
  | wrongWidth address declared length =>
    "address " ++ Octets.hexWord address ++ " is " ++ declared.name ++ ", got " ++
      toString length ++ " bytes"
  | undeclared address length =>
    "undeclared address " ++ Octets.hexWord address ++ " takes 1 or 2 bytes, got " ++
      toString length
  | modeOutOfRange mode => "watercare mode " ++ toString mode.toNat ++ " out of range"
  | unknownKey key => "unknown key " ++ toString key.toNat

/-- The text of a rejection. -/
def Rejection.message (r : Rejection) : String := "invalid command: " ++ r.reason

end SpaGateway
