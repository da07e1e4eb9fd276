import Mathlib.Data.List.TakeWhile
import Mathlib.Tactic
import SpaGateway.Proofs.Frame.Stream

/-!
# What becomes of each octet of a buffer

Reading takes a buffer apart from the front.  Each round of it takes one segment: the frame of a
package, or octets that are skipped because no frame begins there.  `Segmented` says how a buffer is
taken apart, by the decisions of `decodeFrame` and the places of `<` alone, and
`Frame.decode_accounts_for_all` says that `decode` does just that and stops only where the octets
left can still become a frame.

The rounds are those of the reader itself, which skips to the next `<` at once, so the induction
here (`decode_induction_segment`) goes by whole segments and not octet by octet.
-/

namespace SpaGateway

namespace Frame

/-! ## Segments -/

/-- What one round of reading takes from the front of a buffer. -/
inductive Segment where
  /-- The frame of a package. -/
  | frame (package : Package)
  /-- Octets that belong to no frame. -/
  | skipped (octets : Octets)

namespace Segment

/-- The octets that are taken. -/
def octets : Segment → Octets
  | frame package => encode package
  | skipped s => s

/-- The package that is found. -/
def package? : Segment → Option Package
  | frame package => some package
  | skipped _ => none

/-- Number of octets that are lost. -/
def lost : Segment → Nat
  | frame _ => 0
  | skipped s => s.length

end Segment

/-- A buffer is taken apart into segments and a rest.  Each frame is one that `decodeFrame` finds
there.  Octets are skipped only where `decodeFrame` refuses the first of them, and then up to the
next `<` or to the end of the buffer. -/
inductive Segmented : Octets → List Segment → Octets → Prop
  | done (rest : Octets) : Segmented rest [] rest
  | frame {package : Package} {later rest : Octets} {segments : List Segment}
    (found : decodeFrame (encode package ++ later) = .ok (some (package, encodedLength package)))
    (goesOn : Segmented later segments rest) :
    Segmented (encode package ++ later) (.frame package :: segments) rest
  | skipped {b : UInt8} {run later rest : Octets} {segments : List Segment} {fault : Fault}
    (refused : decodeFrame (b :: run ++ later) = .error fault) (unmarked : tagStart ∉ run)
    (stops : ∀ c ∈ later.head?, c = tagStart) (goesOn : Segmented later segments rest) :
    Segmented (b :: run ++ later) (.skipped (b :: run) :: segments) rest

namespace Segmented

variable {buffer rest : Octets} {segments : List Segment}

/-- Nothing is lost on the way, and nothing moves. -/
lemma eq_append (h : Segmented buffer segments rest) :
    buffer = segments.flatMap Segment.octets ++ rest := by
  induction h with
  | done rest => rfl
  | frame found goesOn ih => rw [List.flatMap_cons, List.append_assoc, ← ih, Segment.octets]
  | skipped refused unmarked stops goesOn ih =>
    rw [List.flatMap_cons, List.append_assoc, ← ih, Segment.octets]

/-- Every segment takes at least one octet. -/
lemma length_le (h : Segmented buffer segments rest) :
    segments.length ≤ (segments.flatMap Segment.octets).length := by
  induction h with
  | done rest => exact le_rfl
  | @frame package later rest segments found goesOn ih =>
    have hpos := pos_of_decodeFrame found
    rw [← length_encode] at hpos
    rw [List.length_cons, List.flatMap_cons, List.length_append, Segment.octets]
    omega
  | skipped refused unmarked stops goesOn ih =>
    rw [List.length_cons, List.flatMap_cons, List.length_append, Segment.octets, List.length_cons]
    omega

end Segmented

/-- Octets are lost, or they are those of the packages found. -/
lemma length_flatMap_octets (segments : List Segment) :
    (segments.flatMap Segment.octets).length =
      (segments.map Segment.lost).sum +
        ((segments.filterMap Segment.package?).map encodedLength).sum := by
  induction segments with
  | nil => rfl
  | cons segment segments ih =>
    rw [List.flatMap_cons, List.length_append, List.map_cons, List.sum_cons, ih]
    cases segment with
    | frame package =>
      rw [List.filterMap_cons_some (f := Segment.package?) rfl, List.map_cons, List.sum_cons,
        Segment.octets, Segment.lost, length_encode]
      omega
    | skipped s =>
      rw [List.filterMap_cons_none (f := Segment.package?) rfl, Segment.octets, Segment.lost]
      omega

/-! ## Rounds of reading -/

/-- What is skipped is the first octet and on to the next `<`. -/
lemma skipLength_of_unmarked {run later : Octets} (b : UInt8) (hrun : tagStart ∉ run)
    (hstops : ∀ c ∈ later.head?, c = tagStart) :
    skipLength (b :: run ++ later) = (b :: run).length := by
  have hlater : later.takeWhile (· ≠ tagStart) = [] := by
    cases later with
    | nil => rfl
    | cons c later => simp [hstops c rfl]
  have hpass : ∀ c ∈ run, decide (c ≠ tagStart) = true :=
    fun c hc => decide_eq_true (ne_of_mem_of_not_mem hc hrun)
  rw [skipLength, List.cons_append, List.tail_cons, List.takeWhile_append_of_pos hpass, hlater,
    List.append_nil, List.length_cons, Nat.add_comm]

/-- Induction along the rounds of `decode`: the buffer waits for more, its first frame is taken, or
octets are skipped to the next `<`. -/
@[elab_as_elim]
theorem decode_induction_segment {P : Octets → Prop}
    (waiting : ∀ s, decodeFrame s = .ok none → P s)
    (frame : ∀ package later,
      decodeFrame (encode package ++ later) = .ok (some (package, encodedLength package)) →
      P later → P (encode package ++ later))
    (skip : ∀ b run later fault, decodeFrame (b :: run ++ later) = .error fault →
      tagStart ∉ run → (∀ c ∈ later.head?, c = tagStart) → P later → P (b :: run ++ later))
    (s : Octets) : P s := by
  induction hn : s.length using Nat.strongRecOn generalizing s with
  | ind n ih =>
    subst hn
    match hread : decodeFrame s with
    | .ok none => exact waiting s hread
    | .ok (some (package, used)) =>
      have hpos := pos_of_decodeFrame hread
      obtain ⟨-, rfl, later, rfl⟩ := decodeFrame_eq_some_iff.1 hread
      rw [List.length_append, length_encode] at ih
      exact frame package later hread (ih _ (by omega) later rfl)
    | .error fault =>
      cases s with
      | nil => cases decodeFrame_nil.symm.trans hread
      | cons b s =>
        set run := s.takeWhile (· ≠ tagStart) with hrun
        set later := s.dropWhile (· ≠ tagStart) with hlater
        have hs : s = run ++ later := (List.takeWhile_append_dropWhile).symm
        have hunmarked : tagStart ∉ run := by
          intro hmem
          have hother := List.mem_takeWhile_imp hmem
          simp at hother
        have hstops : ∀ c ∈ later.head?, c = tagStart := by
          intro c hc
          have hfirst := List.head?_dropWhile_not (· ≠ tagStart) s
          rw [← hlater, Option.mem_def.1 hc] at hfirst
          simpa using hfirst
        rw [hs] at hread ih ⊢
        exact skip b run later fault hread hunmarked hstops
          (ih _ (by simp only [List.length_cons, List.length_append]; omega) later rfl)

/-- `decode` takes a buffer apart, and tells what it found and how much was lost. -/
lemma exists_segmented (s : Octets) :
    ∃ segments, Segmented s segments (s.drop (decode s).consumed) ∧
      segments.filterMap Segment.package? = (decode s).packages ∧
      (segments.map Segment.lost).sum = (decode s).discarded := by
  induction s using decode_induction_segment with
  | waiting s hread =>
    rw [decode_of_none hread]
    exact ⟨[], .done s, rfl, rfl⟩
  | frame package later hread ih =>
    obtain ⟨segments, happart, hpackages, hlost⟩ := ih
    have hlength := length_encode package
    rw [decode_of_some hread, ← hlength, List.drop_left]
    refine ⟨.frame package :: segments, ?_, ?_, ?_⟩
    · rw [Decoded.consumed_append, Decoded.consumed_frame, ← List.drop_drop, List.drop_left]
      exact .frame hread happart
    · rw [List.filterMap_cons_some (f := Segment.package?) rfl, hpackages]
      rfl
    · rw [List.map_cons, List.sum_cons, hlost]
      rfl
  | skip b run later fault hread hrun hstops ih =>
    obtain ⟨segments, happart, hpackages, hlost⟩ := ih
    rw [decode_of_error hread, skipLength_of_unmarked b hrun hstops, List.drop_left]
    refine ⟨.skipped (b :: run) :: segments, ?_, ?_, ?_⟩
    · rw [Decoded.consumed_append, Decoded.consumed_skipped, ← List.drop_drop, List.drop_left]
      exact .skipped hread hrun hstops happart
    · rw [List.filterMap_cons_none (f := Segment.package?) rfl, hpackages]
      rfl
    · rw [List.map_cons, List.sum_cons, hlost]
      rfl

/-! ## The account -/

/-- **Reading accounts for every octet.**  The octets consumed are segments one after the other,
each the frame of the next package or octets that are skipped.  There are no more rounds than octets
consumed, and no more of these than octets in the buffer, so reading comes to an end.  What is
consumed is what was discarded and the frames of the packages, and what is left is the beginning of
a frame, or nothing. -/
theorem decode_accounts_for_all (buffer : Octets) :
    let decoded := decode buffer
    (∃ segments, Segmented buffer segments (buffer.drop decoded.consumed) ∧
      buffer.take decoded.consumed = segments.flatMap Segment.octets ∧
      segments.filterMap Segment.package? = decoded.packages ∧
      (segments.map Segment.lost).sum = decoded.discarded ∧
      segments.length ≤ decoded.consumed) ∧
    decoded.consumed ≤ buffer.length ∧
    decoded.consumed = decoded.discarded + (decoded.packages.map encodedLength).sum ∧
    decodeFrame (buffer.drop decoded.consumed) = .ok none := by
  intro decoded
  obtain ⟨segments, happart, hpackages, hlost⟩ := exists_segmented buffer
  have hconsumed : decoded.consumed ≤ buffer.length := consumed_decode_le buffer
  have htaken : buffer.take decoded.consumed = segments.flatMap Segment.octets := by
    have hbuffer := happart.eq_append
    nth_rewrite 1 [← List.take_append_drop decoded.consumed buffer] at hbuffer
    exact List.append_cancel_right hbuffer
  have hlength : decoded.consumed = (segments.flatMap Segment.octets).length := by
    rw [← htaken, List.length_take, min_eq_left hconsumed]
  refine ⟨⟨segments, happart, htaken, hpackages, hlost, ?_⟩, hconsumed, ?_,
    decodeFrame_drop_consumed buffer⟩
  · rw [hlength]
    exact happart.length_le
  · rw [hlength, length_flatMap_octets, hpackages, hlost]

end Frame

end SpaGateway
