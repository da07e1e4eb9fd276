import SpaGateway.Octets

/-!
# The memory image

The gateway follows the spa's memory by the updates it sees. A cell of the image is either
unknown or holds the octet last observed there, so the image has a fixed size and grows in
knowledge only. Applying an update reports exactly the runs of cells whose state changed.
-/

namespace SpaGateway

/-! ## Widths -/

/-- The width of a read or of a change. -/
inductive Width where
  | octet
  | word
  | range (length : UInt16)
  deriving DecidableEq, Inhabited

namespace Width

/-- Number of octets covered. -/
def length : Width → Nat
  | octet => 1
  | word => 2
  | range n => n.toNat

/-- The narrowest width for a number of octets; a range holds at most 65535. -/
def ofLength (n : Nat) : Width :=
  if n = 1 then octet
  else if n = 2 then word
  else range (min n 65535).toUInt16

end Width

/-! ## Images -/

/-- A confirmed change of the image. -/
structure MemoryChange where
  address : UInt16
  width : Width
  data : Octets
  deriving DecidableEq, Inhabited

/-- An update that runs past the end of the image. -/
structure OutOfBounds where
  address : UInt16
  length : Nat
  size : Nat
  deriving DecidableEq, Inhabited

/-- The text of an out-of-bounds update. -/
def OutOfBounds.message (e : OutOfBounds) : String :=
  "update out of bounds: address " ++ Octets.hexWord e.address ++ " + " ++ toString e.length ++
    " bytes exceeds memory size " ++ toString e.size

/-- The last known memory of the spa: each cell is unknown or holds an octet. -/
structure MemoryImage where
  cells : List (Option UInt8)
  deriving DecidableEq, Inhabited

namespace MemoryImage

/-- An image of which nothing is known. -/
def empty (size : Nat) : MemoryImage := ⟨List.replicate size none⟩

/-- Number of cells. -/
def size (image : MemoryImage) : Nat := image.cells.length

/-- Number of known cells. -/
def knownCount (image : MemoryImage) : Nat := image.cells.countP Option.isSome

/-- Whether every cell is known. -/
def isComplete (image : MemoryImage) : Bool := image.cells.all Option.isSome

/-- Whether the cell at an address exists and is known. -/
def isKnown (image : MemoryImage) (address : UInt16) : Bool :=
  match image.cells[address.toNat]? with
  | some cell => cell.isSome
  | none => false

/-- The image of the same size of which nothing is known. -/
def clear (image : MemoryImage) : MemoryImage := empty image.size

/-! ## Updates -/

/-- A change whose run starts at an index; its address is the low sixteen bits of it. -/
def changeAt (index : Nat) (data : Octets) : MemoryChange :=
  { address := index.toUInt16, width := .ofLength data.length, data }

/-- The runs of octets that differ from the cells they overwrite, walking upwards from an
index. `run` holds, last octet first, the run that ends just before the index. -/
def changedRuns (index : Nat) (run : Octets) : List (Option UInt8) → Octets → List MemoryChange
  | cell :: cells, b :: data =>
    if cell = some b then
      let later := changedRuns (index + 1) [] cells data
      if run = [] then later else changeAt (index - run.length) run.reverse :: later
    else changedRuns (index + 1) (b :: run) cells data
  | _, _ => if run = [] then [] else [changeAt (index - run.length) run.reverse]

/-- The image with octets written from an index on. -/
def overwrite (image : MemoryImage) (index : Nat) (data : Octets) : MemoryImage :=
  ⟨image.cells.take index ++ data.map some ++ image.cells.drop (index + data.length)⟩

/-- Applies an update. The changes come in address order, and none if the image held these
octets already. An update that runs past the end is refused as a whole. -/
def apply (image : MemoryImage) (address : UInt16) (data : Octets) :
    Except OutOfBounds (MemoryImage × List MemoryChange) :=
  let start := address.toNat
  if image.size < start + data.length then
    .error { address, length := data.length, size := image.size }
  else
    .ok (image.overwrite start data, changedRuns start [] (image.cells.drop start) data)

/-! ## Reads -/

/-- The octets at an address, if the read stays inside the image and all of them are known. -/
def read? (image : MemoryImage) (address : UInt16) (width : Width) : Option Octets :=
  let start := address.toNat
  if image.size < start + width.length then none
  else ((image.cells.drop start).take width.length).mapM id

/-- The big-endian word at an address. -/
def readWord? (image : MemoryImage) (address : UInt16) : Option UInt16 :=
  match image.read? address .word with
  | some [high, low] => some (Octets.toWord high low)
  | _ => none

end MemoryImage

end SpaGateway
