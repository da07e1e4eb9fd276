import Mathlib.Tactic
import SpaGateway.Proofs.Frame.Image

/-!
# What can stand in a field

A value fits a field if neither the field's closing tag nor the package's occurs in it.  That is
a condition on octets that a sender seldom controls one by one, so this module says what is enough.
A closing tag needs its leading octet `<`, and it needs eight octets in a row: a value without `<`
fits every field, and so does a value that is too short.  An octet of neither tag parts a value
into two that are judged for themselves (`fitsField_append_cons_iff`), so it is enough that such
octets stand closely enough.

A frame is read back exactly if its package is wire-safe (`decodeDatagram_encode_iff`).  The content
may be data that spell a keepalive: the frame is read all the same, and the content is classified
anew (`decodeDatagram_encode_authorized`).  If an id does spell tags, then what is written is the
frame of another package as well (`encode_of_split_destination`), and the reader cannot tell the two
apart.
-/

namespace SpaGateway

namespace Frame

variable {field : Field} {value : Octets}

/-! ## Values without a closing tag -/

/-- Octets of a closing tag with a five-letter name. -/
def closeTagLength : Nat := 8

lemma length_closeTag (field : Field) : (closeTag field.name).length = closeTagLength := by
  cases field <;> rfl

/-- What is shorter than a closing tag fits every field. -/
lemma fitsField_of_length_lt (h : value.length < closeTagLength) : FitsField field value := by
  constructor
  · intro hin
    have hle : closeTagLength ≤ value.length := hin.length_le
    omega
  · intro hin
    have hle := hin.length_le
    rw [length_closeTag] at hle
    omega

/-- What has no octet that tags begin with fits every field. -/
lemma fitsField_of_notMem (h : tagStart ∉ value) : FitsField field value :=
  ⟨ledBy_closeTag_packet.not_infix_of_notMem h, (ledBy_closeTag field).not_infix_of_notMem h⟩

/-- A value that fits may be there. -/
lemma fitsField_of_mem_some (h : FitsField field value) :
    ∀ id ∈ some value, FitsField field id := by
  intro id hid
  obtain rfl := Option.mem_some.1 hid
  exact h

/-- Octets at the front of a value that begin no tag do not matter. -/
lemma fitsField_append_iff {front : Octets} (hfront : tagStart ∉ front) (back : Octets) :
    FitsField field (front ++ back) ↔ FitsField field back := by
  induction front with
  | nil => rfl
  | cons x front ih =>
    obtain ⟨hx, hfront⟩ := not_or.1 (List.mem_cons.not.1 hfront)
    rw [← ih hfront, List.cons_append]
    unfold FitsField
    rw [ledBy_closeTag_packet.infix_cons_iff_of_ne (Ne.symm hx),
      (ledBy_closeTag field).infix_cons_iff_of_ne (Ne.symm hx)]

/-- An octet of neither closing tag parts a value. -/
lemma fitsField_append_cons_iff {x : UInt8} (hpacket : x ∉ closeTag packetName)
    (hfield : x ∉ closeTag field.name) (front back : Octets) :
    FitsField field (front ++ x :: back) ↔ FitsField field front ∧ FitsField field back := by
  unfold FitsField
  rw [ledBy_closeTag_packet.infix_append_cons_iff hpacket,
    (ledBy_closeTag field).infix_append_cons_iff hfield, not_or, not_or]
  exact and_and_and_comm

/-! ## Frames that are read back -/

/-- A package survives the wire exactly if it is wire-safe. -/
theorem decodeDatagram_encode_iff {package : Package} :
    decodeDatagram (encode package) = .ok package ↔ WireSafe package := by
  rw [decodeDatagram_eq_ok_iff]
  exact and_iff_left rfl

/-- **A package whose fields fit is read from its frame**, its content classified by its octets. -/
theorem decodeDatagram_encode_authorized {source destination : Option Octets} {content : Content}
    (hsource : ∀ id ∈ source, FitsField .source id)
    (hdestination : ∀ id ∈ destination, FitsField .destination id)
    (hcontent : FitsField .content content.toOctets) :
    decodeDatagram (encode (.authorized source destination content)) =
      .ok (.authorized source destination (.ofOctets content.toOctets)) := by
  rw [decodeDatagram_eq_ok_iff]
  constructor
  · rw [← Content.toOctets_ofOctets content.toOctets] at hcontent
    exact ⟨hsource, hdestination, hcontent, Content.isCanonical_ofOctets _⟩
  · simp only [encode, Content.toOctets_ofOctets]

/-- A destination that spells the end of its field and the beginning of the content is cut there:
the frame is that of a package with a shorter destination and a longer content. -/
lemma encode_of_split_destination (source : Option Octets) (front back : Octets)
    (content : Content) :
    encode (.authorized source
        (some (front ++ closeTag Field.destination.name ++ openTag Field.content.name ++ back))
        content) =
      encode (.authorized source (some front)
        (.data (back ++ closeTag Field.destination.name ++ openTag Field.content.name ++
          content.toOctets))) := by
  simp [encode, encodeField, enclose, Content.toOctets]

end Frame

end SpaGateway
