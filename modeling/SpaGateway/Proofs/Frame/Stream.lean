import Mathlib.Tactic
import SpaGateway.Proofs.Frame.Image

/-!
# Reading a stream in chunks

A stream of frames arrives in chunks that respect nothing: a cut may fall inside a tag, a field
or a run of octets that belong to no frame.  The main statement, `feedAll_eq_decode`, is that
the cuts do not show: over all chunks the same packages come out, the same numbers of octets are
consumed and discarded, and the same octets are left as when the whole stream is read at once.

Two facts carry it.

* What `decodeFrame` decides about a buffer stays decided when more octets arrive
  (`decodeFrame_append_of_some`, `exists_error_of_append`); only "no frame yet" is open.
* Skipping to the next `<` is skipping one octet and reading on (`decode_cons_of_error`), since a
  buffer that does not begin with `<` begins no frame.  So a skip that ran into the end of a chunk
  and its continuation add up.

From them `decode_append` says what reading `x ++ y` is: reading `x`, and then what was left of it
together with `y`.
-/

namespace SpaGateway

namespace Frame

/-! ## Outcomes -/

/-- Reading one part and then another. -/
instance : Append Decoded where
  append d e :=
    { packages := d.packages ++ e.packages
      consumed := d.consumed + e.consumed
      discarded := d.discarded + e.discarded }

namespace Decoded

/-- One frame was read. -/
def frame (package : Package) (used : Nat) : Decoded := { packages := [package], consumed := used }

/-- Octets were skipped. -/
def skipped (count : Nat) : Decoded := { consumed := count, discarded := count }

variable (d e f : Decoded)

@[simp] lemma packages_append : (d ++ e).packages = d.packages ++ e.packages := rfl

@[simp] lemma consumed_append : (d ++ e).consumed = d.consumed + e.consumed := rfl

@[simp] lemma discarded_append : (d ++ e).discarded = d.discarded + e.discarded := rfl

@[simp] lemma consumed_frame (package : Package) (used : Nat) :
    (frame package used).consumed = used := rfl

@[simp] lemma consumed_skipped (count : Nat) : (skipped count).consumed = count := rfl

lemma ext_iff' : d = e ↔
    d.packages = e.packages ∧ d.consumed = e.consumed ∧ d.discarded = e.discarded := by
  cases d
  cases e
  simp

lemma append_assoc : d ++ e ++ f = d ++ (e ++ f) := by
  simp [ext_iff', Nat.add_assoc]

@[simp] lemma empty_append : ({} : Decoded) ++ d = d := by
  simp [ext_iff']

lemma skipped_add (m n : Nat) : skipped (m + n) = skipped m ++ skipped n := by
  simp [ext_iff', skipped]

end Decoded

/-! ## One step of `decode` -/

lemma decodeFrame_nil : decodeFrame [] = .ok none := by decide

lemma decode_nil : decode [] = {} := by
  rw [decode]
  rfl

lemma decode_of_none {s : Octets} (h : decodeFrame s = .ok none) : decode s = {} := by
  rw [decode]
  split
  · rfl
  · split
    · rfl
    · rename_i heq
      rw [h] at heq
      cases heq
    · rename_i heq
      rw [h] at heq
      cases heq

lemma decode_of_some {s : Octets} {package : Package} {used : Nat}
    (h : decodeFrame s = .ok (some (package, used))) :
    decode s = .frame package used ++ decode (s.drop used) := by
  have hne : s ≠ [] := by
    rintro rfl
    cases decodeFrame_nil.symm.trans h
  rw [decode, dif_neg hne]
  split
  · rename_i heq
    cases h.symm.trans heq
  · rename_i package' used' heq
    obtain ⟨rfl, rfl⟩ := Prod.mk.inj (Option.some.inj (Except.ok.inj (h.symm.trans heq)))
    simp [Decoded.ext_iff', Decoded.frame]
  · rename_i heq
    cases h.symm.trans heq

lemma decode_of_error {s : Octets} {fault : Fault} (h : decodeFrame s = .error fault) :
    decode s = .skipped (skipLength s) ++ decode (s.drop (skipLength s)) := by
  have hne : s ≠ [] := by
    rintro rfl
    cases decodeFrame_nil.symm.trans h
  rw [decode, dif_neg hne]
  split
  · rename_i heq
    cases h.symm.trans heq
  · rename_i heq
    cases h.symm.trans heq
  · simp [Decoded.ext_iff', Decoded.skipped]

/-! ## Buffers that begin no frame -/

lemma isPartialTag_iff {buffer : Octets} {name : List Char} :
    isPartialTag buffer name = true ↔
      buffer <+: openTag name ∧ buffer.length < (openTag name).length := by
  have hstarts : (openTag name).startsWith buffer = true ↔ buffer <+: openTag name := by
    rw [Octets.startsWith, Option.isSome_iff_ne_none, ne_eq, Octets.dropLead?_eq_none_iff, not_not]
  rw [isPartialTag, Bool.and_eq_true, decide_eq_true_iff, hstarts, and_comm]

/-- A buffer that is no beginning of a tag and has no tag at its beginning is refused. -/
lemma decodeFrame_eq_unknownStart {s : Octets}
    (hhello : ¬ openTag helloName <+: s ∧ ¬ s <+: openTag helloName)
    (hpacket : ¬ openTag packetName <+: s ∧ ¬ s <+: openTag packetName) :
    decodeFrame s = .error (.unknownStart (s.take seenLimit)) := by
  have hpartial : ∀ name, ¬ s <+: openTag name → isPartialTag s name = false := by
    intro name hname
    rw [Bool.eq_false_iff, ne_eq, isPartialTag_iff]
    exact fun h => hname h.1
  simp only [decodeFrame, Octets.dropLead?_eq_none_iff.2 hhello.1,
    Octets.dropLead?_eq_none_iff.2 hpacket.1, hpartial _ hhello.2, hpartial _ hpacket.2]
  rfl

/-- A buffer that does not begin with the start of a tag is refused. -/
lemma exists_error_of_ne_tagStart {b : UInt8} (h : b ≠ tagStart) (s : Octets) :
    ∃ fault, decodeFrame (b :: s) = .error fault := by
  have hopen : ∀ name, ¬ openTag name <+: b :: s ∧ ¬ b :: s <+: openTag name := by
    intro name
    constructor
    · intro hpre
      exact h (List.cons_prefix_cons.1 hpre).1.symm
    · intro hpre
      exact h (List.cons_prefix_cons.1 hpre).1
  exact ⟨_, decodeFrame_eq_unknownStart (hopen _) (hopen _)⟩

/-- Octets up to the next start of a tag are skipped. -/
lemma decode_eq_skipped_append (s : Octets) :
    decode s = .skipped (s.takeWhile (· ≠ tagStart)).length ++
      decode (s.drop (s.takeWhile (· ≠ tagStart)).length) := by
  cases s with
  | nil => simp [decode_nil, Decoded.skipped]
  | cons b s =>
    by_cases hb : b = tagStart
    · simp [hb, Decoded.skipped]
    · obtain ⟨fault, hfault⟩ := exists_error_of_ne_tagStart hb s
      rw [decode_of_error hfault]
      simp [skipLength, hb, Nat.add_comm]

/-- A refused octet is skipped by itself; reading goes on right after it. -/
lemma decode_cons_of_error {b : UInt8} {s : Octets} {fault : Fault}
    (h : decodeFrame (b :: s) = .error fault) : decode (b :: s) = .skipped 1 ++ decode s := by
  have hskip : skipLength (b :: s) = (s.takeWhile (· ≠ tagStart)).length + 1 :=
    Nat.add_comm _ _
  rw [decode_of_error h, hskip, List.drop_succ_cons, Nat.add_comm, Decoded.skipped_add,
    Decoded.append_assoc, ← decode_eq_skipped_append]

/-! ## What more octets do not change -/

lemma decodeFrame_append_of_some {s : Octets} {package : Package} {used : Nat}
    (h : decodeFrame s = .ok (some (package, used))) (t : Octets) :
    decodeFrame (s ++ t) = .ok (some (package, used)) := by
  obtain ⟨hsafe, hused, hpre⟩ := decodeFrame_eq_some_iff.1 h
  exact decodeFrame_eq_some_iff.2 ⟨hsafe, hused, hpre.trans (List.prefix_append s t)⟩

lemma used_le_length {s : Octets} {package : Package} {used : Nat}
    (h : decodeFrame s = .ok (some (package, used))) : used ≤ s.length := by
  obtain ⟨-, rfl, hpre⟩ := decodeFrame_eq_some_iff.1 h
  rw [← length_encode]
  exact hpre.length_le

/-- A string that neither begins with a tag nor is a beginning of it stays so when it grows. -/
lemma not_prefix_append {tag s : Octets} (h : ¬ tag <+: s ∧ ¬ s <+: tag) (t : Octets) :
    ¬ tag <+: s ++ t ∧ ¬ s ++ t <+: tag := by
  constructor
  · intro hpre
    rcases List.prefix_or_prefix_of_prefix hpre (List.prefix_append s t) with htag | hs
    · exact h.1 htag
    · exact h.2 hs
  · intro hpre
    exact h.2 ((List.prefix_append s t).trans hpre)

/-- A refused buffer stays refused, for a reason that may name more of it. -/
lemma exists_error_of_append {s : Octets} {fault : Fault} (h : decodeFrame s = .error fault)
    (t : Octets) : ∃ fault', decodeFrame (s ++ t) = .error fault' := by
  unfold decodeFrame at h
  split at h
  · cases h
  · rename_i hhello
    split at h
    · rename_i body hopen
      obtain rfl := Octets.dropLead?_eq_some_iff.1 hopen
      split at h
      · cases h
      · rename_i inner rest hcut
        obtain ⟨rfl, hborder⟩ := (Octets.cut?_eq_some_iff ledBy_closeTag_packet).1 hcut
        split at h
        · -- the package is delimited already, so what follows it does not matter
          rename_i defect hbody
          have hcut' : Octets.cut? (closeTag packetName)
              (inner ++ closeTag packetName ++ (rest ++ t)) = some (inner, rest ++ t) :=
            (Octets.cut?_eq_some_iff ledBy_closeTag_packet).2 ⟨rfl, hborder⟩
          have hhello' : Octets.dropLead? (openTag helloName) (openTag packetName ++
              (inner ++ closeTag packetName ++ (rest ++ t))) = none :=
            Octets.dropLead?_eq_none_iff.2 (not_hello_prefix_packet _)
          refine ⟨.malformed defect, ?_⟩
          rw [show openTag packetName ++ (inner ++ closeTag packetName ++ rest) ++ t =
            openTag packetName ++ (inner ++ closeTag packetName ++ (rest ++ t)) by simp]
          simp only [decodeFrame, hhello', Octets.dropLead?_append, hcut', hbody]
        · cases h
    · rename_i hpacket
      split at h
      · cases h
      · rename_i hpartial
        rw [Bool.or_eq_true, not_or, isPartialTag_iff, isPartialTag_iff] at hpartial
        have hopen : ∀ name, Octets.dropLead? (openTag name) s = none →
            ¬ (s <+: openTag name ∧ s.length < (openTag name).length) →
            ¬ openTag name <+: s ∧ ¬ s <+: openTag name := by
          intro name hnone hlong
          rw [Octets.dropLead?_eq_none_iff] at hnone
          refine ⟨hnone, fun hpre => hlong ⟨hpre, ?_⟩⟩
          refine lt_of_le_of_ne hpre.length_le fun hlength => hnone ?_
          rw [hpre.eq_of_length hlength]
        exact ⟨_, decodeFrame_eq_unknownStart
          (not_prefix_append (hopen _ hhello hpartial.1) t)
          (not_prefix_append (hopen _ hpacket hpartial.2) t)⟩

/-! ## Cutting a stream in two -/

/-- Induction along the steps of `decode`: the buffer waits for more, its first frame is taken, or
its first octet is skipped. -/
@[elab_as_elim]
theorem decode_induction {P : Octets → Prop}
    (waiting : ∀ s, decodeFrame s = .ok none → P s)
    (frame : ∀ s package used, decodeFrame s = .ok (some (package, used)) →
      P (s.drop used) → P s)
    (skip : ∀ b s fault, decodeFrame (b :: s) = .error fault → P s → P (b :: s))
    (s : Octets) : P s := by
  induction hn : s.length using Nat.strongRecOn generalizing s with
  | ind n ih =>
    subst hn
    match hread : decodeFrame s with
    | .ok none => exact waiting s hread
    | .ok (some (package, used)) =>
      have hpos := pos_of_decodeFrame hread
      have hle := used_le_length hread
      have hlength : (s.drop used).length < s.length := by
        rw [List.length_drop]
        omega
      exact frame s package used hread (ih _ hlength _ rfl)
    | .error fault =>
      cases s with
      | nil => cases decodeFrame_nil.symm.trans hread
      | cons b s => exact skip b s fault hread (ih _ (Nat.lt_succ_self _) _ rfl)

lemma consumed_decode_le (s : Octets) : (decode s).consumed ≤ s.length := by
  induction s using decode_induction with
  | waiting s hread => simp [decode_of_none hread]
  | frame s package used hread ih =>
    have hle := used_le_length hread
    rw [List.length_drop] at ih
    rw [decode_of_some hread, Decoded.consumed_append, Decoded.consumed_frame]
    omega
  | skip b s fault hread ih =>
    rw [decode_cons_of_error hread, Decoded.consumed_append, Decoded.consumed_skipped,
      List.length_cons]
    omega

/-- **Reading a string in two parts**: what the first part leaves is read again in front of the
second. -/
theorem decode_append (s t : Octets) :
    decode (s ++ t) = decode s ++ decode (s.drop (decode s).consumed ++ t) := by
  induction s using decode_induction with
  | waiting s hread => simp [decode_of_none hread]
  | frame s package used hread ih =>
    rw [decode_of_some hread, decode_of_some (decodeFrame_append_of_some hread t),
      List.drop_append_of_le_length (used_le_length hread), ih, Decoded.append_assoc]
    simp
  | skip b s fault hread ih =>
    obtain ⟨fault', hread'⟩ := exists_error_of_append hread t
    rw [List.cons_append] at hread' ⊢
    rw [decode_cons_of_error hread, decode_cons_of_error hread', ih, Decoded.append_assoc]
    simp [Nat.add_comm 1]

/-- What reading leaves is the beginning of a frame, or nothing. -/
theorem decodeFrame_drop_consumed (s : Octets) :
    decodeFrame (s.drop (decode s).consumed) = .ok none := by
  induction s using decode_induction with
  | waiting s hread => simpa [decode_of_none hread] using hread
  | frame s package used hread ih => simpa [decode_of_some hread] using ih
  | skip b s fault hread ih => simpa [decode_cons_of_error hread, Nat.add_comm 1] using ih

/-! ## Cutting a stream into chunks -/

/-- The outcomes of several steps taken together. -/
def outcome (steps : List (Decoded × Octets)) : Decoded :=
  steps.foldr (fun step later => step.1 ++ later) {}

/-- What is left after several steps, if `left` was left before them. -/
def leftAfter (left : Octets) (steps : List (Decoded × Octets)) : Octets :=
  (steps.map (·.2)).getLastD left

lemma outcome_eq (steps : List (Decoded × Octets)) :
    outcome steps =
      { packages := steps.flatMap (·.1.packages)
        consumed := (steps.map (·.1.consumed)).sum
        discarded := (steps.map (·.1.discarded)).sum } := by
  induction steps with
  | nil => rfl
  | cons step steps ih =>
    rw [outcome, List.foldr_cons, ← outcome, ih]
    simp [Decoded.ext_iff']

/-- Reading chunk after chunk reads what was left followed by all of them, provided that what
was left does wait for more. -/
lemma feedAll_outcome (chunks : List Octets) {left : Octets} (h : decodeFrame left = .ok none) :
    outcome (feedAll left chunks) = decode (left ++ chunks.flatten) ∧
      leftAfter left (feedAll left chunks) =
        (left ++ chunks.flatten).drop (decode (left ++ chunks.flatten)).consumed := by
  induction chunks generalizing left with
  | nil => simp [feedAll, outcome, leftAfter, decode_of_none h]
  | cons chunk chunks ih =>
    set buffer := left ++ chunk with hbuffer
    set rest := buffer.drop (decode buffer).consumed with hrest
    obtain ⟨hread, hleft⟩ := ih (decodeFrame_drop_consumed buffer)
    have hwhole : left ++ (chunk :: chunks).flatten = buffer ++ chunks.flatten := by
      simp [hbuffer]
    have hsteps : feedAll left (chunk :: chunks) =
        (decode buffer, rest) :: feedAll rest chunks := rfl
    have hdecode := decode_append buffer chunks.flatten
    rw [hwhole, hsteps, hdecode]
    constructor
    · rw [outcome, List.foldr_cons, ← outcome, hread]
    · rw [leftAfter, List.map_cons, List.getLastD_cons, ← leftAfter, hleft, ← hrest,
        Decoded.consumed_append, ← List.drop_drop,
        List.drop_append_of_le_length (consumed_decode_le buffer)]

/-- **The cuts of a stream do not show.**  However a stream is cut into chunks, reading them one
by one yields the packages of the whole stream in order, consumes and discards as many octets, and
leaves the same ones. -/
theorem feedAll_eq_decode (chunks : List Octets) :
    let steps := feedAll [] chunks
    let whole := decode chunks.flatten
    steps.flatMap (·.1.packages) = whole.packages ∧
      (steps.map (·.1.consumed)).sum = whole.consumed ∧
      (steps.map (·.1.discarded)).sum = whole.discarded ∧
      (steps.map (·.2)).getLastD [] = chunks.flatten.drop whole.consumed := by
  obtain ⟨hread, hleft⟩ := feedAll_outcome chunks decodeFrame_nil
  rw [List.nil_append, outcome_eq] at hread
  rw [List.nil_append, leftAfter] at hleft
  exact ⟨congrArg (·.packages) hread, congrArg (·.consumed) hread,
    congrArg (·.discarded) hread, hleft⟩

end Frame

end SpaGateway
