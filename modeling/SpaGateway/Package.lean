import SpaGateway.Octets
import SpaGateway.Octets.Text

/-!
# Packages

A package is what one frame carries: a hello with a raw payload, or an authorized package
between two session ids. The content of an authorized package is a keepalive (ping or pong)
or data that some other layer understands.
-/

namespace SpaGateway

/-- What an authorized package carries. -/
inductive Content where
  /-- A keepalive request. -/
  | ping
  /-- A keepalive answer. -/
  | pong
  /-- Any other payload. -/
  | data (bytes : Octets)
  deriving DecidableEq, Inhabited

namespace Content

/-- The octets of a ping. -/
def pingMark : Octets := Octets.ofChars ['A', 'P', 'I', 'N', 'G']

/-- The octets of a pong. -/
def pongMark : Octets := Octets.ofChars ['A', 'P', 'I', 'N', 'G', '.']

/-- Classifies raw octets; keepalives are matched exactly. -/
def ofOctets (bytes : Octets) : Content :=
  if bytes = pingMark then ping
  else if bytes = pongMark then pong
  else data bytes

/-- The raw octets of a content. -/
def toOctets : Content → Octets
  | ping => pingMark
  | pong => pongMark
  | data bytes => bytes

/-- Whether a content only keeps the session alive. -/
def isKeepalive : Content → Bool
  | ping | pong => true
  | data _ => false

/-- A content as messages show it. -/
def describe : Content → String
  | ping => "PING"
  | pong => "PONG"
  | data bytes => Octets.printable bytes

theorem toOctets_ofOctets (bytes : Octets) : (ofOctets bytes).toOctets = bytes := by
  unfold ofOctets
  split
  · simp [toOctets, *]
  · split <;> simp [toOctets, *]

end Content

/-- What one frame carries. -/
inductive Package where
  /-- A handshake package outside any session. -/
  | hello (payload : Octets)
  /-- A package exchanged within a session. -/
  | authorized (source destination : Option Octets) (content : Content)
  deriving DecidableEq, Inhabited

namespace Package

/-- The session id a package comes from. -/
def source? : Package → Option Octets
  | hello _ => none
  | authorized source _ _ => source

/-- The session id a package goes to. -/
def destination? : Package → Option Octets
  | hello _ => none
  | authorized _ destination _ => destination

/-- The content of an authorized package. -/
def content? : Package → Option Content
  | hello _ => none
  | authorized _ _ content => some content

/-- A session id as messages show it; an absent one is a dash. -/
def describeId : Option Octets → String
  | none => "-"
  | some id => id.toTextLossy

/-- A package as messages show it. -/
def describe : Package → String
  | hello payload => "HELLO " ++ payload.printable
  | authorized source destination content =>
    describeId source ++ " -> " ++ describeId destination ++ ": " ++ content.describe

end Package

end SpaGateway
