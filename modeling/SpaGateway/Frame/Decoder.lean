import SpaGateway.Frame

/-!
# Reading frames

Reading is incremental: a buffer that ends inside a frame is not at fault, its tail simply
waits for more octets. `decodeFrame` reads the frame at the front of a buffer, `decode`
reads as many as the buffer holds and skips what cannot begin one, and `decodeDatagram`
wants exactly one frame and nothing else. `feed` reads a stream that arrives in chunks.
-/

namespace SpaGateway

namespace Frame

/-! ## Faults -/

/-- What is wrong between the tags of a delimited package. -/
inductive Defect where
  /-- The content field does not come where it has to. -/
  | missingContent
  /-- A field opens and does not close. -/
  | unterminated (field : Field)
  /-- Octets stand between the content and the end of the package. -/
  | afterContent (count : Nat)
  deriving DecidableEq

/-- Why octets were refused. -/
inductive Fault where
  /-- The buffer begins with no known opening tag; up to eight of its octets are kept. -/
  | unknownStart (seen : Octets)
  /-- A package was delimited and its inside is wrong. -/
  | malformed (defect : Defect)
  /-- The datagram ended inside its frame. -/
  | incomplete
  /-- The datagram went on after its frame. -/
  | trailing (count : Nat)
  deriving DecidableEq

/-- The text of a defect. -/
def Defect.message : Defect → String
  | missingContent => "missing <DATAS>"
  | unterminated field => "unterminated <" ++ String.ofList field.name ++ ">"
  | afterContent count => toString count ++ " bytes after </DATAS>"

/-- The text of a fault. -/
def Fault.message : Fault → String
  | unknownStart seen =>
    "unknown frame start: [" ++
      String.intercalate ", " (seen.map fun b => String.ofList (Octets.hexPair b)) ++ "]"
  | malformed defect => "malformed frame: " ++ defect.message
  | incomplete => "incomplete frame"
  | trailing count => "unexpected trailing data: " ++ toString count ++ " bytes"

/-! ## One frame -/

/-- Reads a field that may be absent; the rest of the input follows it. -/
def decodeField (field : Field) (input : Octets) : Except Defect (Option Octets × Octets) :=
  match Octets.dropLead? (openTag field.name) input with
  | none => .ok (none, input)
  | some body =>
    match Octets.cut? (closeTag field.name) body with
    | none => .error (.unterminated field)
    | some (value, rest) => .ok (some value, rest)

/-- Reads what stands between the tags of an authorized package. -/
def decodeBody (body : Octets) : Except Defect Package := do
  let (source, rest) ← decodeField .source body
  let (destination, rest) ← decodeField .destination rest
  match ← decodeField .content rest with
  | (none, _) => .error .missingContent
  | (some content, []) => .ok (.authorized source destination (.ofOctets content))
  | (some _, rest) => .error (.afterContent rest.length)

/-- Whether a buffer is a proper beginning of the opening tag of a name. -/
def isPartialTag (buffer : Octets) (name : List Char) : Bool :=
  buffer.length < (openTag name).length && (openTag name).startsWith buffer

/-- Octets kept of a buffer that begins no frame. -/
def seenLimit : Nat := 8

/-- Reads the frame at the front of a buffer and tells how many octets it takes. No frame
means that the buffer holds only the beginning of one. -/
def decodeFrame (buffer : Octets) : Except Fault (Option (Package × Nat)) :=
  match Octets.dropLead? (openTag helloName) buffer with
  | some body =>
    .ok <| (Octets.cut? (closeTag helloName) body).map fun (payload, _) =>
      (.hello payload, tagPairLength + payload.length)
  | none =>
    match Octets.dropLead? (openTag packetName) buffer with
    | some body =>
      match Octets.cut? (closeTag packetName) body with
      | none => .ok none
      | some (inner, _) =>
        match decodeBody inner with
        | .error defect => .error (.malformed defect)
        | .ok package => .ok (some (package, tagPairLength + inner.length))
    | none =>
      if isPartialTag buffer helloName || isPartialTag buffer packetName then .ok none
      else .error (.unknownStart (buffer.take seenLimit))

theorem pos_of_decodeFrame {buffer : Octets} {package : Package} {used : Nat}
    (h : decodeFrame buffer = .ok (some (package, used))) : 0 < used := by
  unfold decodeFrame at h
  repeat' split at h
  all_goals simp_all [tagPairLength]
  · obtain ⟨_, _, _, rfl⟩ := h
    omega
  · omega

/-! ## Whole buffers -/

/-- The outcome of reading a buffer as far as it goes. -/
structure Decoded where
  /-- The packages found, in buffer order. -/
  packages : List Package := []
  /-- Octets taken from the front: frames and skipped octets. -/
  consumed : Nat := 0
  /-- Octets skipped because they belong to no frame. -/
  discarded : Nat := 0
  deriving DecidableEq

/-- The octet every tag begins with. -/
def tagStart : UInt8 := 0x3c

/-- Octets to skip at the front of a buffer that begins no frame: its first octet, and on to
the next place where a tag may begin. -/
def skipLength (buffer : Octets) : Nat :=
  1 + (buffer.tail.takeWhile (· ≠ tagStart)).length

/-- Reads as many frames as a buffer holds. A frame that is only begun stays in place. -/
def decode (buffer : Octets) : Decoded :=
  if _hne : buffer = [] then {}
  else
    match _h : decodeFrame buffer with
    | .ok none => {}
    | .ok (some (package, used)) =>
      let later := decode (buffer.drop used)
      { later with
        packages := package :: later.packages
        consumed := used + later.consumed }
    | .error _ =>
      let skip := skipLength buffer
      let later := decode (buffer.drop skip)
      { later with
        consumed := skip + later.consumed
        discarded := skip + later.discarded }
termination_by buffer.length
decreasing_by
  · have := pos_of_decodeFrame _h
    have := List.length_pos_iff.2 _hne
    simp
    omega
  · have := List.length_pos_iff.2 _hne
    simp [skipLength]
    omega

/-- Reads a datagram, which holds exactly one frame. -/
def decodeDatagram (datagram : Octets) : Except Fault Package :=
  match decodeFrame datagram with
  | .error fault => .error fault
  | .ok none => .error .incomplete
  | .ok (some (package, used)) =>
    if used = datagram.length then .ok package
    else .error (.trailing (datagram.length - used))

/-! ## Streams -/

/-- Appends a chunk to what is left of a stream, reads it, and keeps what is left now. -/
def feed (left chunk : Octets) : Decoded × Octets :=
  let buffer := left ++ chunk
  let decoded := decode buffer
  (decoded, buffer.drop decoded.consumed)

/-- Reads a stream chunk by chunk: for each chunk the outcome and what is left after it. -/
def feedAll (left : Octets) : List Octets → List (Decoded × Octets)
  | [] => []
  | chunk :: chunks =>
    let step := feed left chunk
    step :: feedAll step.2 chunks

end Frame

end SpaGateway
