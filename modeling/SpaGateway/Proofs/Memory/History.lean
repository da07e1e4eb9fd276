import Mathlib.Tactic
import SpaGateway.Proofs.Memory.Update
import SpaGateway.Proofs.Payload.Bijection

/-!
# What an image holds, by the calls that made it

An image is made from an empty one by updates, some of which are refused, and is cleared now and
then.  What a cell holds can be told from these calls without the image: `lastGiven?` goes back
through them, up to the last clear, to the latest update that was accepted and covers the cell
(`lastGiven?_eq_some_iff`).

`cells_foldl_after` says that the image is this function, cell by cell.  Everything that can be read
of an image follows (`reads_reflect_last_writes`).
-/

namespace SpaGateway

/-- What the owner of an image can do to it. -/
inductive MemoryCall where
  | apply (address : UInt16) (data : Octets)
  | clear
  deriving DecidableEq

namespace MemoryCall

/-- Whether a call on an image of a size is carried out. -/
def isAccepted (size : Nat) : MemoryCall → Bool
  | apply address data => address.toNat + data.length ≤ size
  | clear => true

/-- The octet that a call writes into the cell at an index, in an image of a size. -/
def given? (size index : Nat) : MemoryCall → Option UInt8
  | apply address data =>
    if address.toNat + data.length ≤ size ∧ address.toNat ≤ index then data[index - address.toNat]?
    else none
  | clear => none

end MemoryCall

/-- The octet that the latest accepted update that covers a cell gave it, since the last clear. -/
def lastGiven? (size : Nat) (calls : List MemoryCall) (index : Nat) : Option UInt8 :=
  (calls.reverse.takeWhile (· ≠ .clear)).findSome? (·.given? size index)

section

variable {size index : Nat} {calls : List MemoryCall}

@[simp] lemma lastGiven?_nil : lastGiven? size [] index = none := rfl

@[simp] lemma lastGiven?_concat_clear :
    lastGiven? size (calls ++ [.clear]) index = none := by
  simp [lastGiven?]

@[simp] lemma lastGiven?_concat_apply (address : UInt16) (data : Octets) :
    lastGiven? size (calls ++ [.apply address data]) index =
      (MemoryCall.given? size index (.apply address data)).or (lastGiven? size calls index) := by
  simp only [lastGiven?, List.reverse_append, List.reverse_singleton, List.singleton_append]
  rw [List.takeWhile_cons_of_pos (by simp), List.findSome?_cons]
  cases MemoryCall.given? size index (.apply address data) <;> rfl

/-- An update that runs past the end gives nothing. -/
lemma MemoryCall.given?_apply_of_lt {address : UInt16} {data : Octets}
    (h : size < address.toNat + data.length) :
    given? size index (.apply address data) = none :=
  if_neg fun hcovers => absurd hcovers.1 (not_le.2 h)

/-- An update that fits gives each of its octets to the cell that it stands over. -/
lemma MemoryCall.given?_apply_of_le {address : UInt16} {data : Octets}
    (h : address.toNat + data.length ≤ size) :
    given? size index (.apply address data) =
      if address.toNat ≤ index then data[index - address.toNat]? else none := by
  simp only [given?, h, true_and]

/-- Only cells of the image are given anything. -/
lemma MemoryCall.lt_of_given? {call : MemoryCall} {b : UInt8}
    (h : call.given? size index = some b) : index < size := by
  cases call with
  | clear => cases h
  | apply address data =>
    rw [given?] at h
    split at h
    · obtain ⟨hk, -⟩ := List.getElem?_eq_some_iff.1 h
      omega
    · cases h

/-- Of the calls that write into a cell, the last one counts, and none before a clear. -/
theorem lastGiven?_eq_some_iff {b : UInt8} :
    lastGiven? size calls index = some b ↔
      ∃ earlier call later, calls = earlier ++ call :: later ∧ call.given? size index = some b ∧
        ∀ next ∈ later, next ≠ .clear ∧ next.given? size index = none := by
  induction calls using List.reverseRecOn with
  | nil => simp
  | append_singleton calls last ih =>
    have hlast : lastGiven? size (calls ++ [last]) index = some b ↔
        last.given? size index = some b ∨
          (last ≠ .clear ∧ last.given? size index = none) ∧
            lastGiven? size calls index = some b := by
      cases last with
      | clear => simp [MemoryCall.given?]
      | apply address data => simp [Option.or_eq_some_iff]
    rw [hlast, ih]
    constructor
    · rintro (hgiven | ⟨hnone, earlier, call, later, rfl, hgiven, hlater⟩)
      · exact ⟨calls, last, [], rfl, hgiven, by simp⟩
      · refine ⟨earlier, call, later ++ [last], by simp, hgiven, fun next hnext => ?_⟩
        rcases List.mem_append.1 hnext with hnext | hnext
        · exact hlater next hnext
        · rwa [List.mem_singleton.1 hnext]
    · rintro ⟨earlier, call, later, hcalls, hgiven, hlater⟩
      rcases List.eq_nil_or_concat later with rfl | ⟨later, next, rfl⟩
      · obtain ⟨-, hsame⟩ := List.append_inj' hcalls rfl
        rw [List.singleton_inj.1 hsame]
        exact .inl hgiven
      · rw [List.concat_eq_append] at hcalls hlater
        rw [← List.cons_append, ← List.append_assoc] at hcalls
        obtain ⟨hrest, hsame⟩ := List.append_inj' hcalls rfl
        rw [List.singleton_inj.1 hsame]
        refine .inr ⟨hlater next (by simp), earlier, call, later, hrest, hgiven, ?_⟩
        exact fun next hnext => hlater next (List.mem_append_left _ hnext)

lemma lt_of_lastGiven? {b : UInt8} (h : lastGiven? size calls index = some b) : index < size := by
  obtain ⟨call, -, hcall⟩ := List.exists_of_findSome?_eq_some h
  exact MemoryCall.lt_of_given? hcall

end

namespace MemoryImage

/-- The image after a call. -/
def after (image : MemoryImage) : MemoryCall → MemoryImage
  | .apply address data => image.updated address data
  | .clear => image.clear

@[simp] lemma size_after (image : MemoryImage) (call : MemoryCall) :
    (image.after call).size = image.size := by
  cases call with
  | apply => exact size_updated _ _ _
  | clear => exact size_empty _

@[simp] lemma size_foldl_after (image : MemoryImage) (calls : List MemoryCall) :
    (calls.foldl after image).size = image.size := by
  induction calls generalizing image with
  | nil => rfl
  | cons call calls ih => rw [List.foldl_cons, ih, size_after]

/-- Whether an update is accepted depends on the size of the image only. -/
lemma isOk_apply (image : MemoryImage) (address : UInt16) (data : Octets) :
    (image.apply address data).isOk = MemoryCall.isAccepted image.size (.apply address data) := by
  rw [MemoryCall.isAccepted]
  rcases Nat.lt_or_ge image.size (address.toNat + data.length) with hpast | hfits
  · rw [apply_of_lt hpast, decide_eq_false (not_le.2 hpast)]
    rfl
  · rw [apply_of_le hfits, decide_eq_true hfits]
    rfl

/-- A call that is not carried out leaves the image as it was. -/
lemma after_of_not_isAccepted {image : MemoryImage} {call : MemoryCall}
    (h : call.isAccepted image.size = false) : image.after call = image := by
  cases call with
  | apply address data =>
    exact updated_of_lt (not_le.1 (of_decide_eq_false h))
  | clear => cases h

/-- Calls that are not carried out might as well not be made. -/
lemma foldl_after_filter (image : MemoryImage) (calls : List MemoryCall) :
    (calls.filter (·.isAccepted image.size)).foldl after image = calls.foldl after image := by
  induction calls generalizing image with
  | nil => rfl
  | cons call calls ih =>
    have hrest := ih (image.after call)
    rw [size_after] at hrest
    cases haccepted : call.isAccepted image.size with
    | true => rw [List.filter_cons_of_pos haccepted, List.foldl_cons, List.foldl_cons, hrest]
    | false =>
      rw [List.filter_cons_of_neg (by simp [haccepted]), List.foldl_cons, ← hrest,
        after_of_not_isAccepted haccepted]

/-- What the last call gave, or else what was there before. -/
lemma getElem?_foldl_after (size : Nat) (calls : List MemoryCall) (index : Nat) :
    (calls.foldl after (empty size)).cells[index]? =
      if index < size then some (lastGiven? size calls index) else none := by
  induction calls using List.reverseRecOn with
  | nil => simp [empty, List.getElem?_replicate]
  | append_singleton calls call ih =>
    set image := calls.foldl after (empty size) with himage
    have hsize : image.size = size := by simp [himage]
    rw [List.foldl_append]
    change (image.after call).cells[index]? = _
    cases call with
    | clear =>
      rw [after, clear, hsize, lastGiven?_concat_clear, empty, List.getElem?_replicate]
    | apply address data =>
      rw [after, lastGiven?_concat_apply]
      rcases Nat.lt_or_ge size (address.toNat + data.length) with hpast | hfits
      · rw [updated_of_lt (hsize.trans_lt hpast), MemoryCall.given?_apply_of_lt hpast,
          Option.none_or, ih]
      · rw [getElem?_updated (hfits.trans_eq hsize.symm), MemoryCall.given?_apply_of_le hfits]
        by_cases hcovers : address.toNat ≤ index ∧ index < address.toNat + data.length
        · obtain ⟨b, hb⟩ : ∃ b, data[index - address.toNat]? = some b :=
            ⟨_, List.getElem?_eq_getElem (by omega)⟩
          rw [if_pos hcovers, if_pos (by omega : index < size), if_pos hcovers.1, hb]
          rfl
        · have hnone :
              (if address.toNat ≤ index then data[index - address.toNat]? else none) = none := by
            split
            · exact List.getElem?_eq_none (by omega)
            · rfl
          rw [if_neg hcovers, ih, hnone, Option.none_or]

/-- Each cell holds what it was last given. -/
theorem cells_foldl_after (size : Nat) (calls : List MemoryCall) :
    (calls.foldl after (empty size)).cells = (List.range size).map (lastGiven? size calls) := by
  refine List.ext_getElem? fun index => ?_
  rw [getElem?_foldl_after, List.getElem?_map]
  rcases Nat.lt_or_ge index size with hindex | hindex
  · rw [if_pos hindex, List.getElem?_range hindex]
    rfl
  · rw [if_neg hindex.not_gt, List.getElem?_eq_none (by rwa [List.length_range])]
    rfl

/-! ## Reads -/

section

variable {size : Nat} {calls : List MemoryCall} {address : UInt16} {width : Width}

/-- A read inside the image takes what was given last, octet by octet. -/
lemma read?_foldl_after_eq_some_iff {octets : Octets} :
    (calls.foldl after (empty size)).read? address width = some octets ↔
      address.toNat + width.length ≤ size ∧ octets.length = width.length ∧
        ∀ k < width.length, octets[k]? = lastGiven? size calls (address.toNat + k) := by
  rw [read?_eq_some_iff, size_foldl_after, size_empty]
  refine and_congr_right fun hinside => and_congr_right fun hlength => ?_
  refine forall_congr' fun k => forall_congr' fun hk => ?_
  obtain ⟨b, hb⟩ : ∃ b, octets[k]? = some b := ⟨_, List.getElem?_eq_getElem (by omega)⟩
  rw [getElem?_foldl_after, if_pos (by omega), hb, Option.map_some, Option.some.injEq, eq_comm]

/-- A read gives something if it stays inside the image and all that it covers was given. -/
lemma isSome_read?_foldl_after_iff :
    ((calls.foldl after (empty size)).read? address width).isSome = true ↔
      address.toNat + width.length ≤ size ∧
        ∀ k < width.length, (lastGiven? size calls (address.toNat + k)).isSome = true := by
  rw [Option.isSome_iff_exists]
  constructor
  · rintro ⟨octets, hread⟩
    obtain ⟨hinside, hlength, hgiven⟩ := read?_foldl_after_eq_some_iff.1 hread
    refine ⟨hinside, fun k hk => ?_⟩
    rwa [← hgiven k hk, isSome_getElem?, hlength]
  · rintro ⟨hinside, hgiven⟩
    refine ⟨(List.range width.length).map fun k =>
      (lastGiven? size calls (address.toNat + k)).getD 0, ?_⟩
    rw [read?_foldl_after_eq_some_iff]
    refine ⟨hinside, by simp, fun k hk => ?_⟩
    obtain ⟨b, hb⟩ := Option.isSome_iff_exists.1 (hgiven k hk)
    rw [List.getElem?_map, List.getElem?_range hk, Option.map_some, hb, Option.getD_some]

/-- A word is read from the two octets that were last given from its address on. -/
lemma readWord?_foldl_after_eq_some_iff {word : UInt16} :
    (calls.foldl after (empty size)).readWord? address = some word ↔
      ∃ high low, lastGiven? size calls address.toNat = some high ∧
        lastGiven? size calls (address.toNat + 1) = some low ∧
        word.toNat = high.toNat * 256 + low.toNat := by
  have hword : (calls.foldl after (empty size)).readWord? address = some word ↔
      ∃ high low, (calls.foldl after (empty size)).read? address .word = some [high, low] ∧
        Octets.toWord high low = word := by
    unfold readWord?
    constructor
    · intro h
      split at h
      · exact ⟨_, _, by assumption, Option.some.inj h⟩
      · cases h
    · rintro ⟨high, low, hread, rfl⟩
      rw [hread]
  rw [hword]
  refine exists_congr fun high => exists_congr fun low => ?_
  rw [read?_foldl_after_eq_some_iff]
  constructor
  · rintro ⟨⟨-, -, hgiven⟩, rfl⟩
    exact ⟨(hgiven 0 (by decide)).symm, (hgiven 1 (by decide)).symm, Octets.toNat_toWord _ _⟩
  · rintro ⟨hhigh, hlow, hvalue⟩
    have hinside := lt_of_lastGiven? hlow
    refine ⟨⟨hinside, rfl, fun k hk => ?_⟩, ?_⟩
    · obtain rfl | rfl : k = 0 ∨ k = 1 := by
        change k < 2 at hk
        omega
      · exact hhigh.symm
      · exact hlow.symm
    · exact UInt16.toNat_inj.1 ((Octets.toNat_toWord _ _).trans hvalue.symm)

end

/-- An image is complete if it knows as many cells as it has. -/
lemma isComplete_iff_knownCount (image : MemoryImage) :
    image.isComplete = true ↔ image.knownCount = image.size := by
  rw [isComplete, knownCount, size, List.all_eq_true, List.countP_eq_length]

/-- **Reads give, octet by octet, what was written last.**  Take an image of any size, and any calls
on it.  A read gives something exactly if it stays inside the image and each octet of it was covered
by an update that was accepted after the last clear, and then the octets are those of the latest
such updates; a word is the big-endian value of its two octets.  The number of known octets is the
number of covered ones, and the image is complete when that is its size.  An update is refused if it
does not fit, and calls that were refused have no part in any of this: without them, the image is
the same. -/
theorem reads_reflect_last_writes (size : Nat) (calls : List MemoryCall) :
    let image := calls.foldl after (empty size)
    let given := lastGiven? size calls
    (∀ address width,
      ((image.read? address width).isSome = true ↔
        address.toNat + width.length ≤ size ∧
          ∀ k < width.length, (given (address.toNat + k)).isSome = true) ∧
      ∀ octets, image.read? address width = some octets →
        octets.length = width.length ∧
          ∀ k < width.length, octets[k]? = given (address.toNat + k)) ∧
    (∀ address word,
      image.readWord? address = some word ↔
        ∃ high low, given address.toNat = some high ∧ given (address.toNat + 1) = some low ∧
          word.toNat = high.toNat * 256 + low.toNat) ∧
    image.knownCount = (List.range size).countP (fun index => (given index).isSome) ∧
    (image.isComplete = true ↔ image.knownCount = size) ∧
    (∀ address data,
      (image.apply address data).isOk = MemoryCall.isAccepted size (.apply address data)) ∧
    (calls.filter (·.isAccepted size)).foldl after (empty size) = image := by
  intro image given
  have hsize : image.size = size := (size_foldl_after _ _).trans (size_empty size)
  refine ⟨fun address width => ⟨isSome_read?_foldl_after_iff, fun octets hread => ?_⟩,
    fun address word => readWord?_foldl_after_eq_some_iff, ?_, ?_,
    fun address data => ?_, ?_⟩
  · exact (read?_foldl_after_eq_some_iff.1 hread).2
  · rw [knownCount, cells_foldl_after, List.countP_map]
    rfl
  · rw [isComplete_iff_knownCount, hsize]
  · rw [isOk_apply, hsize]
  · have hfilter := foldl_after_filter (empty size) calls
    rwa [size_empty] at hfilter

/-- Two updates overlap, a third one runs past the end. -/
example :
    let image := [.apply 0 [1, 2, 3], .apply 2 [4, 5], .apply 4 [6, 7]].foldl after (empty 5)
    image.read? 0 (.range 4) = some [1, 2, 4, 5] ∧ image.read? 3 .word = none := by
  decide

end MemoryImage

end SpaGateway
