import Mathlib.Tactic
import SpaGateway.Frame.Decoder
import SpaGateway.Proofs.Octets.Mark

/-!
# What the frame reader accepts

Nothing is escaped on the wire, so a frame can be read back only if none of its fields holds a
closing tag at which it, or the package around it, would be cut.  `WireSafe` says this of a
package, and it asks that a keepalive is not disguised as data.

The main statement is that the reader accepts exactly the frames of wire-safe packages:
`decodeFrame` finds a package at the front of a buffer if and only if the package is wire-safe
and the buffer begins with its frame, and `decodeDatagram` accepts a datagram if and only if it
*is* such a frame.  Both directions hold for arbitrary octets.

The proof goes field by field.  Each reader of a part is characterised by an `iff` between
what it returns and what its input is made of; the search for the end of the package comes
before all inner searches, and `infix_encodeField_append` shows that it cannot stop across the
border of two fields.
-/

namespace SpaGateway

/-- A content that reading its own octets gives back: data do not spell a keepalive. -/
def Content.IsCanonical (content : Content) : Prop :=
  content ≠ .data pingMark ∧ content ≠ .data pongMark

instance : DecidablePred Content.IsCanonical := fun _ => inferInstanceAs (Decidable (_ ∧ _))

lemma Content.ofOctets_toOctets {content : Content} (h : content.IsCanonical) :
    ofOctets content.toOctets = content := by
  cases content with
  | ping => rfl
  | pong => rfl
  | data bytes =>
    obtain ⟨hping, hpong⟩ := h
    rw [ne_eq, data.injEq] at hping hpong
    rw [toOctets, ofOctets, if_neg hping, if_neg hpong]

lemma Content.isCanonical_ofOctets (bytes : Octets) : (ofOctets bytes).IsCanonical := by
  unfold ofOctets IsCanonical
  split
  · simp
  · split <;> simp_all

namespace Frame

/-- A value that can stand in a field: neither the field nor the package around it ends inside
the value. -/
def FitsField (field : Field) (value : Octets) : Prop :=
  ¬ closeTag packetName <:+: value ∧ ¬ closeTag field.name <:+: value

/-- A package whose frame can be read back. -/
def WireSafe : Package → Prop
  | .hello payload => ¬ closeTag helloName <:+: payload
  | .authorized source destination content =>
    (∀ id ∈ source, FitsField .source id) ∧ (∀ id ∈ destination, FitsField .destination id) ∧
      FitsField .content content.toOctets ∧ content.IsCanonical

instance (field : Field) : DecidablePred (FitsField field) := fun _ =>
  inferInstanceAs (Decidable (_ ∧ _))

instance : DecidablePred WireSafe
  | .hello _ => inferInstanceAs (Decidable (¬ _))
  | .authorized _ _ _ => inferInstanceAs (Decidable (_ ∧ _ ∧ _ ∧ _))

/-! ## Tags -/

lemma ledBy_openTag (field : Field) : Octets.LedBy tagStart (openTag field.name) := by
  cases field <;> exact ⟨_, rfl, by decide⟩

lemma ledBy_closeTag (field : Field) : Octets.LedBy tagStart (closeTag field.name) := by
  cases field <;> exact ⟨_, rfl, by decide⟩

lemma ledBy_closeTag_packet : Octets.LedBy tagStart (closeTag packetName) :=
  ⟨_, rfl, by decide⟩

lemma ledBy_closeTag_hello : Octets.LedBy tagStart (closeTag helloName) :=
  ⟨_, rfl, by decide⟩

/-- A string that begins with the opening tag of one field does not begin with that of
another. -/
lemma not_openTag_prefix {field other : Field} (h : field ≠ other) (s : Octets) :
    ¬ openTag field.name <+: openTag other.name ++ s := by
  intro hpre
  have heq := Octets.take_eq_of_prefix_append hpre
  revert h heq
  cases field <;> cases other <;> decide

lemma not_hello_prefix_packet (s : Octets) :
    ¬ openTag helloName <+: openTag packetName ++ s := by
  intro hpre
  exact absurd (Octets.take_eq_of_prefix_append hpre) (by decide)

lemma not_closeTag_packet_prefix_openTag (field : Field) (s : Octets) :
    ¬ closeTag packetName <+: openTag field.name ++ s := by
  intro hpre
  have heq := Octets.take_eq_of_prefix_append hpre
  revert heq
  cases field <;> decide

lemma not_closeTag_packet_prefix_closeTag (field : Field) (s : Octets) :
    ¬ closeTag packetName <+: closeTag field.name ++ s := by
  intro hpre
  have heq := Octets.take_eq_of_prefix_append hpre
  revert heq
  cases field <;> decide

/-- The end of a package does not show across the border of a field: it occurs in the field's
value or after the field. -/
lemma infix_encodeField_append (field : Field) (value : Option Octets) (rest : Octets) :
    closeTag packetName <:+: encodeField field value ++ rest ↔
      (∃ v ∈ value, closeTag packetName <:+: v) ∨ closeTag packetName <:+: rest := by
  cases value with
  | none => simp [encodeField]
  | some v =>
    obtain ⟨m, hm, -⟩ := ledBy_closeTag field
    calc closeTag packetName <:+: encodeField field (some v) ++ rest
        ↔ closeTag packetName <:+: openTag field.name ++ (v ++ (closeTag field.name ++ rest)) := by
          simp [encodeField, enclose]
      _ ↔ closeTag packetName <:+: v ++ (closeTag field.name ++ rest) :=
          ledBy_closeTag_packet.infix_mark_append_iff (ledBy_openTag field)
            (not_closeTag_packet_prefix_openTag field _)
      _ ↔ closeTag packetName <:+: v ∨ closeTag packetName <:+: closeTag field.name ++ rest := by
          rw [hm, List.cons_append]
          exact ledBy_closeTag_packet.infix_append_iff v _
      _ ↔ closeTag packetName <:+: v ∨ closeTag packetName <:+: rest :=
          or_congr_right (ledBy_closeTag_packet.infix_mark_append_iff (ledBy_closeTag field)
            (not_closeTag_packet_prefix_closeTag field _))
      _ ↔ (∃ u ∈ some v, closeTag packetName <:+: u) ∨ closeTag packetName <:+: rest := by
          simp

/-! ## Fields and bodies -/

/-- Reading a field undoes writing it.  An absent field is recognised by the lack of its opening
tag. -/
lemma decodeField_eq_ok_iff {field : Field} {input rest : Octets} {value : Option Octets} :
    decodeField field input = .ok (value, rest) ↔
      input = encodeField field value ++ rest ∧ (∀ v ∈ value, ¬ closeTag field.name <:+: v) ∧
        (value = none → ¬ openTag field.name <+: input) := by
  unfold decodeField
  cases hopen : Octets.dropLead? (openTag field.name) input with
  | none =>
    have habsent := Octets.dropLead?_eq_none_iff.1 hopen
    cases value with
    | none => simp [encodeField, habsent]
    | some v =>
      suffices input ≠ encodeField field (some v) ++ rest by simp [this]
      rintro rfl
      exact habsent ⟨v ++ closeTag field.name ++ rest, by simp [encodeField, enclose]⟩
  | some body =>
    obtain rfl := Octets.dropLead?_eq_some_iff.1 hopen
    have hclose : ∀ v, Octets.cut? (closeTag field.name) body = some (v, rest) ↔
        body = v ++ closeTag field.name ++ rest ∧ ¬ closeTag field.name <:+: v :=
      fun v => Octets.cut?_eq_some_iff (ledBy_closeTag field)
    cases value with
    | none => cases hcut : Octets.cut? (closeTag field.name) body <;> simp [hcut]
    | some v =>
      have henclose : openTag field.name ++ body = encodeField field (some v) ++ rest ↔
          body = v ++ closeTag field.name ++ rest := by
        simp [encodeField, enclose]
      rw [henclose]
      cases hcut : Octets.cut? (closeTag field.name) body with
      | none => simpa [hcut] using (hclose v).symm
      | some parts => simpa [hcut, Prod.ext_iff] using hclose v

/-- The frame of a field that is present does not begin with the opening tag of another. -/
lemma not_openTag_prefix_encodeField (field : Field) {other : Field} (h : field ≠ other)
    (value rest : Octets) : ¬ openTag field.name <+: encodeField other (some value) ++ rest := by
  simpa [encodeField, enclose] using
    not_openTag_prefix h (value ++ (closeTag other.name ++ rest))

/-- What stands between the tags of an authorized package. -/
def encodeBody (source destination : Option Octets) (content : Content) : Octets :=
  encodeField .source source ++ encodeField .destination destination ++
    encodeField .content (some content.toOctets)

/-- A computation that may fail yields a result through one of its first part. -/
lemma exists_of_bind_eq_ok {ε α β : Type} {x : Except ε α} {f : α → Except ε β} {b : β}
    (h : x >>= f = .ok b) : ∃ a, x = .ok a ∧ f a = .ok b := by
  cases x with
  | error e => cases h
  | ok a => exact ⟨a, rfl, h⟩

/-- The fields of a body end at their own closing tags, and its content is canonical. -/
def BodySafe (source destination : Option Octets) (content : Content) : Prop :=
  (∀ id ∈ source, ¬ closeTag Field.source.name <:+: id) ∧
    (∀ id ∈ destination, ¬ closeTag Field.destination.name <:+: id) ∧
    ¬ closeTag Field.content.name <:+: content.toOctets ∧ content.IsCanonical

lemma decodeBody_encodeBody {source destination : Option Octets} {content : Content}
    (h : BodySafe source destination content) :
    decodeBody (encodeBody source destination content) =
      .ok (.authorized source destination content) := by
  obtain ⟨hsource, hdestination, hcontent, hcanonical⟩ := h
  have readContent : decodeField .content (encodeField .content (some content.toOctets)) =
      .ok (some content.toOctets, []) := by
    rw [decodeField_eq_ok_iff]
    simpa using hcontent
  have readDestination : decodeField .destination (encodeField .destination destination ++
      encodeField .content (some content.toOctets)) =
        .ok (destination, encodeField .content (some content.toOctets)) := by
    refine decodeField_eq_ok_iff.2 ⟨rfl, hdestination, ?_⟩
    rintro rfl
    simpa [encodeField] using
      not_openTag_prefix_encodeField .destination (by decide) content.toOctets []
  have readSource : decodeField .source (encodeBody source destination content) =
      .ok (source, encodeField .destination destination ++
        encodeField .content (some content.toOctets)) := by
    refine decodeField_eq_ok_iff.2 ⟨by simp [encodeBody], hsource, ?_⟩
    rintro rfl
    cases destination with
    | none =>
      simpa [encodeBody, encodeField] using
        not_openTag_prefix_encodeField .source (by decide) content.toOctets []
    | some id =>
      simpa [encodeBody, encodeField] using
        not_openTag_prefix_encodeField .source (by decide) id
          (encodeField .content (some content.toOctets))
  simp [decodeBody, readSource, readDestination, readContent, bind, Except.bind,
    Content.ofOctets_toOctets hcanonical]

lemma exists_of_decodeBody {body : Octets} {package : Package}
    (h : decodeBody body = .ok package) :
    ∃ source destination content, package = .authorized source destination content ∧
      body = encodeBody source destination content ∧ BodySafe source destination content := by
  obtain ⟨⟨source, rest⟩, hsource, h⟩ := exists_of_bind_eq_ok h
  obtain ⟨⟨destination, rest'⟩, hdestination, h⟩ := exists_of_bind_eq_ok h
  obtain ⟨⟨content, rest''⟩, hcontent, hend⟩ := exists_of_bind_eq_ok h
  obtain ⟨rfl, safeSource, -⟩ := decodeField_eq_ok_iff.1 hsource
  obtain ⟨rfl, safeDestination, -⟩ := decodeField_eq_ok_iff.1 hdestination
  obtain ⟨rfl, safeContent, -⟩ := decodeField_eq_ok_iff.1 hcontent
  cases content with
  | none => cases hend
  | some bytes =>
    cases rest'' with
    | cons b rest => cases hend
    | nil =>
      refine ⟨source, destination, .ofOctets bytes, (Except.ok.inj hend).symm, ?_, safeSource,
        safeDestination, ?_, Content.isCanonical_ofOctets bytes⟩
      · simp [encodeBody, Content.toOctets_ofOctets]
      · simpa [Content.toOctets_ofOctets] using safeContent

/-- The octets between the tags of a package are accepted exactly when they are written from
fields none of which ends early. -/
lemma decodeBody_eq_ok_iff {body : Octets} {package : Package} :
    decodeBody body = .ok package ↔
      ∃ source destination content, package = .authorized source destination content ∧
        body = encodeBody source destination content ∧ BodySafe source destination content := by
  constructor
  · exact exists_of_decodeBody
  · rintro ⟨source, destination, content, rfl, rfl, hsafe⟩
    exact decodeBody_encodeBody hsafe

/-- A package is wire-safe when its body is and the package does not end inside the body. -/
lemma wireSafe_authorized_iff {source destination : Option Octets} {content : Content} :
    WireSafe (.authorized source destination content) ↔
      BodySafe source destination content ∧
        ¬ closeTag packetName <:+: encodeBody source destination content := by
  have hborders : closeTag packetName <:+: encodeBody source destination content ↔
      (∃ id ∈ source, closeTag packetName <:+: id) ∨
        (∃ id ∈ destination, closeTag packetName <:+: id) ∨
          closeTag packetName <:+: content.toOctets := by
    have hlast := infix_encodeField_append .content (some content.toOctets) []
    rw [encodeBody, List.append_assoc, infix_encodeField_append, infix_encodeField_append]
    simpa [ledBy_closeTag_packet.ne_nil] using or_congr_right (or_congr_right hlast)
  rw [hborders]
  unfold WireSafe BodySafe FitsField
  constructor
  · rintro ⟨hsource, hdestination, hcontent, hcanonical⟩
    refine ⟨⟨fun id hid => (hsource id hid).2, fun id hid => (hdestination id hid).2,
      hcontent.2, hcanonical⟩, ?_⟩
    rintro (⟨id, hid, hin⟩ | ⟨id, hid, hin⟩ | hin)
    · exact (hsource id hid).1 hin
    · exact (hdestination id hid).1 hin
    · exact hcontent.1 hin
  · rintro ⟨⟨hsource, hdestination, hcontent, hcanonical⟩, hnone⟩
    refine ⟨fun id hid => ⟨?_, hsource id hid⟩, fun id hid => ⟨?_, hdestination id hid⟩,
      ⟨?_, hcontent⟩, hcanonical⟩
    · exact fun hin => hnone (.inl ⟨id, hid, hin⟩)
    · exact fun hin => hnone (.inr (.inl ⟨id, hid, hin⟩))
    · exact fun hin => hnone (.inr (.inr hin))

/-! ## Frames and datagrams -/

/-- The frame of a wire-safe package is read back, whatever follows it. -/
theorem decodeFrame_encode_append {package : Package} (h : WireSafe package) (rest : Octets) :
    decodeFrame (encode package ++ rest) = .ok (some (package, encodedLength package)) := by
  cases package with
  | hello payload =>
    have hopen : Octets.dropLead? (openTag helloName) (encode (.hello payload) ++ rest) =
        some (payload ++ closeTag helloName ++ rest) :=
      Octets.dropLead?_eq_some_iff.2 (by simp [encode, enclose])
    have hclose : Octets.cut? (closeTag helloName) (payload ++ closeTag helloName ++ rest) =
        some (payload, rest) :=
      (Octets.cut?_eq_some_iff ledBy_closeTag_hello).2 ⟨rfl, h⟩
    simp only [decodeFrame, hopen, hclose]
    rfl
  | authorized source destination content =>
    obtain ⟨hsafe, hborder⟩ := wireSafe_authorized_iff.1 h
    set body := encodeBody source destination content with hbody
    have hframe : encode (.authorized source destination content) ++ rest =
        openTag packetName ++ (body ++ closeTag packetName ++ rest) := by
      simp [encode, enclose, hbody, encodeBody]
    have hhello : Octets.dropLead? (openTag helloName)
        (openTag packetName ++ (body ++ closeTag packetName ++ rest)) = none :=
      Octets.dropLead?_eq_none_iff.2 (not_hello_prefix_packet _)
    have hclose : Octets.cut? (closeTag packetName) (body ++ closeTag packetName ++ rest) =
        some (body, rest) :=
      (Octets.cut?_eq_some_iff ledBy_closeTag_packet).2 ⟨rfl, hborder⟩
    have hlength : tagPairLength + body.length =
        encodedLength (.authorized source destination content) := by
      simp only [hbody, encodeBody, List.length_append, length_encodeField, encodedLength]
      omega
    have hread : decodeBody body = .ok (.authorized source destination content) :=
      decodeBody_encodeBody hsafe
    rw [hframe]
    simp only [decodeFrame, hhello, Octets.dropLead?_append, hclose, hread, hlength]

/-- What is read at the front of a buffer is the frame of a wire-safe package. -/
lemma wireSafe_of_decodeFrame {buffer : Octets} {package : Package} {used : Nat}
    (h : decodeFrame buffer = .ok (some (package, used))) :
    WireSafe package ∧ used = encodedLength package ∧ encode package <+: buffer := by
  unfold decodeFrame at h
  split at h
  · rename_i body hopen
    obtain rfl := Octets.dropLead?_eq_some_iff.1 hopen
    obtain ⟨⟨payload, rest⟩, hcut, hread⟩ := Option.map_eq_some_iff.1 (Except.ok.inj h)
    obtain ⟨rfl, rfl⟩ := Prod.mk.inj hread
    obtain ⟨rfl, hsafe⟩ := (Octets.cut?_eq_some_iff ledBy_closeTag_hello).1 hcut
    exact ⟨hsafe, rfl, rest, by simp [encode, enclose]⟩
  · split at h
    · rename_i body hopen
      obtain rfl := Octets.dropLead?_eq_some_iff.1 hopen
      split at h
      · cases h
      · rename_i inner rest hcut
        obtain ⟨rfl, hborder⟩ := (Octets.cut?_eq_some_iff ledBy_closeTag_packet).1 hcut
        split at h
        · cases h
        · rename_i read hbody
          obtain ⟨rfl, rfl⟩ := Prod.mk.inj (Option.some.inj (Except.ok.inj h))
          obtain ⟨source, destination, content, rfl, rfl, hsafe⟩ :=
            decodeBody_eq_ok_iff.1 hbody
          refine ⟨wireSafe_authorized_iff.2 ⟨hsafe, hborder⟩, ?_, rest, ?_⟩
          · simp only [encodeBody, List.length_append, length_encodeField, encodedLength]
            omega
          · simp [encode, enclose, encodeBody]
    · split at h <;> cases h

/-- **A frame at the front of a buffer.**  A package is read, and so many octets taken, exactly
when the package is wire-safe and the buffer begins with its frame of that length. -/
theorem decodeFrame_eq_some_iff {buffer : Octets} {package : Package} {used : Nat} :
    decodeFrame buffer = .ok (some (package, used)) ↔
      WireSafe package ∧ used = encodedLength package ∧ encode package <+: buffer := by
  constructor
  · exact wireSafe_of_decodeFrame
  · rintro ⟨hsafe, rfl, rest, rfl⟩
    exact decodeFrame_encode_append hsafe rest

/-- A datagram is accepted exactly when it is the frame of a wire-safe package and nothing
else. -/
theorem decodeDatagram_eq_ok_iff {datagram : Octets} {package : Package} :
    decodeDatagram datagram = .ok package ↔
      WireSafe package ∧ datagram = encode package := by
  unfold decodeDatagram
  constructor
  · intro h
    split at h
    · cases h
    · cases h
    · rename_i read used hread
      split at h
      · rename_i hused
        obtain rfl := Except.ok.inj h
        obtain ⟨hsafe, rfl, hpre⟩ := decodeFrame_eq_some_iff.1 hread
        have hlength : (encode read).length = datagram.length := by
          rw [length_encode, hused]
        exact ⟨hsafe, (hpre.eq_of_length hlength).symm⟩
      · cases h
  · rintro ⟨hsafe, rfl⟩
    have hread := decodeFrame_encode_append hsafe []
    rw [List.append_nil] at hread
    simp [hread, length_encode]

/-- **The reader accepts exactly the image of the writer**, at the front of a buffer and as a
datagram. -/
theorem decodeFrame_and_decodeDatagram_iff (buffer : Octets) (package : Package) (used : Nat) :
    (decodeFrame buffer = .ok (some (package, used)) ↔
      WireSafe package ∧ used = encodedLength package ∧ encode package <+: buffer) ∧
    (decodeDatagram buffer = .ok package ↔ WireSafe package ∧ buffer = encode package) :=
  ⟨decodeFrame_eq_some_iff, decodeDatagram_eq_ok_iff⟩

end Frame

end SpaGateway
