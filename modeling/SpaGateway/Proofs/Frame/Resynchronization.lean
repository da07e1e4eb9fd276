import Mathlib.Tactic
import SpaGateway.Proofs.Frame.Stream

/-!
# Frames between garbage

Octets that belong to no frame may come before, between and behind the frames of a stream, and the
last frame may not have arrived as a whole.  As long as the garbage holds no `<`, none of this costs
a frame: `Frame.decode_noisy_append` says that every frame is found and that nothing but the garbage
is discarded.

A frame that is cut short anywhere, in a tag or in a field, only waits
(`Frame.decodeFrame_of_isCutShort`).  That needs no look at the place of the cut: what the reader
finds or refuses at the front of a buffer stays found or refused when more octets arrive, and the
whole frame is neither shorter than its beginning nor refused.
-/

namespace SpaGateway

namespace Frame

/-! ## Streams with garbage -/

/-- Garbage, and then frames with garbage behind each of them. -/
def noisy (garbage : Octets) : List (Package × Octets) → Octets
  | [] => garbage
  | (package, behind) :: parts => garbage ++ encode package ++ noisy behind parts

/-- A proper beginning of the frame of a wire-safe package; nothing at all is one, too. -/
def IsCutShort (tail : Octets) : Prop :=
  ∃ package, WireSafe package ∧ tail <+: encode package ∧ tail ≠ encode package

/-- Octets in which no tag begins are skipped, whatever follows them. -/
lemma decode_garbage_append {garbage : Octets} (hgarbage : tagStart ∉ garbage) (s : Octets) :
    decode (garbage ++ s) = .skipped garbage.length ++ decode s := by
  induction garbage with
  | nil => simp [Decoded.skipped]
  | cons b garbage ih =>
    obtain ⟨hb, hgarbage⟩ := not_or.1 (List.mem_cons.not.1 hgarbage)
    obtain ⟨fault, hfault⟩ := exists_error_of_ne_tagStart (Ne.symm hb) (garbage ++ s)
    rw [List.cons_append, decode_cons_of_error hfault, ih hgarbage, List.length_cons,
      Nat.add_comm garbage.length, Decoded.skipped_add, Decoded.append_assoc]

/-- The frame of a wire-safe package is taken, whatever follows it. -/
lemma decode_encode_append {package : Package} (h : WireSafe package) (s : Octets) :
    decode (encode package ++ s) = .frame package (encodedLength package) ++ decode s := by
  rw [decode_of_some (decodeFrame_encode_append h s), ← length_encode, List.drop_left]

/-- **Reading comes through garbage.**  Each frame is found, and only the garbage is discarded. -/
theorem decode_noisy_append {garbage : Octets} (hgarbage : tagStart ∉ garbage)
    {parts : List (Package × Octets)}
    (hparts : ∀ part ∈ parts, WireSafe part.1 ∧ tagStart ∉ part.2) (s : Octets) :
    decode (noisy garbage parts ++ s) =
      { packages := parts.map Prod.fst
        consumed := (noisy garbage parts).length
        discarded := garbage.length + (parts.map fun part => part.2.length).sum } ++ decode s := by
  induction parts generalizing garbage with
  | nil =>
    rw [noisy, decode_garbage_append hgarbage]
    rfl
  | cons part parts ih =>
    obtain ⟨package, behind⟩ := part
    obtain ⟨⟨hsafe, hbehind⟩, hparts⟩ := List.forall_mem_cons.1 hparts
    rw [noisy, List.append_assoc, List.append_assoc, decode_garbage_append hgarbage,
      decode_encode_append hsafe, ih hbehind hparts]
    simp [Decoded.ext_iff', Decoded.skipped, Decoded.frame, length_encode, Nat.add_assoc]

/-! ## Frames that are cut short -/

/-- **A frame that is cut short waits**: it is neither refused nor mistaken for another one. -/
theorem decodeFrame_of_isCutShort {tail : Octets} (h : IsCutShort tail) :
    decodeFrame tail = .ok none := by
  obtain ⟨package, hsafe, ⟨rest, hwhole⟩, hne⟩ := h
  have hread := decodeFrame_encode_append hsafe []
  rw [List.append_nil, ← hwhole] at hread
  match htail : decodeFrame tail with
  | .ok none => rfl
  | .ok (some (found, used)) =>
    -- the whole frame would be read from its beginning, and so be no longer than that
    have hsame := hread.symm.trans (decodeFrame_append_of_some htail rest)
    obtain ⟨rfl, rfl⟩ := Prod.mk.inj (Option.some.inj (Except.ok.inj hsame))
    have hle := used_le_length htail
    rw [← length_encode] at hle
    have hpre : tail <+: encode package := ⟨rest, hwhole⟩
    exact absurd (hpre.eq_of_length_le hle) hne
  | .error fault =>
    obtain ⟨fault', hrefused⟩ := exists_error_of_append htail rest
    cases hread.symm.trans hrefused

/-- **No frame is lost between garbage and a frame that is cut short.**  All frames in front of the
cut are found in order, just the garbage is discarded, and reading stops in front of the frame that
is cut short, which is not refused. -/
theorem decode_noisy_of_isCutShort (garbage : Octets) (parts : List (Package × Octets))
    (tail : Octets) (hgarbage : tagStart ∉ garbage)
    (hparts : ∀ part ∈ parts, WireSafe part.1 ∧ tagStart ∉ part.2) (htail : IsCutShort tail) :
    decodeFrame tail = .ok none ∧
      decode (noisy garbage parts ++ tail) =
        { packages := parts.map Prod.fst
          consumed := (noisy garbage parts).length
          discarded := garbage.length + (parts.map fun part => part.2.length).sum } := by
  have hwaits := decodeFrame_of_isCutShort htail
  refine ⟨hwaits, ?_⟩
  rw [decode_noisy_append hgarbage hparts, decode_of_none hwaits]
  simp [Decoded.ext_iff']

/-- A hello between garbage, and then a package that is cut in the tag of its source. -/
theorem decode_noisy_cut_in_tag :
    let hello := Package.hello (Octets.ofChars ['a', '|', 'b'])
    let parts := [(hello, Octets.ofChars ['>', '/'])]
    let tail := Octets.ofChars ['<', 'P', 'A', 'C', 'K', 'T', '>', '<', 'S']
    tagStart ∉ Octets.ofChars ['!'] ∧ (∀ part ∈ parts, WireSafe part.1 ∧ tagStart ∉ part.2) ∧
      IsCutShort tail ∧
      decode (noisy (Octets.ofChars ['!']) parts ++ tail) =
        { packages := [hello], consumed := 21, discarded := 3 } := by
  intro hello parts tail
  have hgarbage : tagStart ∉ Octets.ofChars ['!'] := by decide
  have hparts : ∀ part ∈ parts, WireSafe part.1 ∧ tagStart ∉ part.2 := by decide
  have htail : IsCutShort tail := ⟨.authorized (some [0x61]) none .ping, by decide⟩
  exact ⟨hgarbage, hparts, htail,
    (decode_noisy_of_isCutShort _ parts tail hgarbage hparts htail).2⟩

end Frame

end SpaGateway
