import Mathlib.Tactic
import SpaGateway.Memory

/-!
# Updates of the memory image and their replay

`MemoryImage.apply` does two things in one pass: it writes an update into the image, or refuses it,
and it lists the runs of cells that changed.  This module separates them.

* `absorb` is the first one alone, said without a pass: an update that fits is written, one that
  runs past the end leaves the image as it was.  `apply_eq` says that `apply` does just that.
* `replay` applies a list of changes to an image that somebody else keeps.  `replay_apply` shows
  that the changes of an update carry all of it: whoever replays them on the image before the
  update gets the image after it, and no change is refused on the way.

Addresses of changes are words, so the second fact is about images of at most 65536 cells.
-/

namespace SpaGateway

/-- Octets and the index where they belong. -/
structure MemoryUpdate where
  position : Nat
  data : Octets
  deriving DecidableEq, Inhabited

namespace MemoryUpdate

/-- The index after the last octet. -/
def stop (u : MemoryUpdate) : Nat := u.position + u.data.length

/-- Whether an update covers an index. -/
def Covers (u : MemoryUpdate) (index : Nat) : Prop := u.position ≤ index ∧ index < u.stop

instance (u : MemoryUpdate) (index : Nat) : Decidable (u.Covers index) :=
  inferInstanceAs (Decidable (_ ∧ _))

end MemoryUpdate

namespace MemoryImage

/-! ## Writing -/

/-- The image with an update written, if it stays inside; else the image as it was. -/
def absorb (image : MemoryImage) (u : MemoryUpdate) : MemoryImage :=
  if u.stop ≤ image.size then image.overwrite u.position u.data else image

@[simp] lemma size_empty (n : Nat) : (empty n).size = n := by
  simp [empty, size]

lemma size_overwrite {image : MemoryImage} {index : Nat} {data : Octets}
    (h : index + data.length ≤ image.size) : (image.overwrite index data).size = image.size := by
  unfold size at *
  simp only [overwrite, List.length_append, List.length_take, List.length_map, List.length_drop]
  omega

@[simp] lemma size_absorb (image : MemoryImage) (u : MemoryUpdate) :
    (image.absorb u).size = image.size := by
  unfold absorb
  split
  · exact size_overwrite (by assumption)
  · rfl

@[simp] lemma size_foldl_absorb (updates : List MemoryUpdate) (image : MemoryImage) :
    (updates.foldl absorb image).size = image.size := by
  induction updates generalizing image with
  | nil => rfl
  | cons u updates ih => rw [List.foldl_cons, ih, size_absorb]

lemma apply_of_le {image : MemoryImage} {address : UInt16} {data : Octets}
    (h : address.toNat + data.length ≤ image.size) :
    image.apply address data =
      .ok (image.overwrite address.toNat data,
        changedRuns address.toNat [] (image.cells.drop address.toNat) data) := by
  rw [apply, if_neg (by omega)]

lemma apply_of_lt {image : MemoryImage} {address : UInt16} {data : Octets}
    (h : image.size < address.toNat + data.length) :
    image.apply address data = .error ⟨address, data.length, image.size⟩ := by
  rw [apply, if_pos h]

/-- Applying an update absorbs it, and refuses it exactly when it runs past the end. -/
theorem apply_eq (image : MemoryImage) (address : UInt16) (data : Octets) :
    (∃ changes, image.apply address data = .ok (image.absorb ⟨address.toNat, data⟩, changes)) ∨
      (∃ e, image.apply address data = .error e) ∧
        image.size < address.toNat + data.length ∧ image.absorb ⟨address.toNat, data⟩ = image := by
  rcases Nat.lt_or_ge image.size (address.toNat + data.length) with h | h
  · exact .inr ⟨⟨_, apply_of_lt h⟩, h, if_neg (by simp only [MemoryUpdate.stop]; omega)⟩
  · have hstop : (⟨address.toNat, data⟩ : MemoryUpdate).stop ≤ image.size := h
    left
    rw [absorb, if_pos hstop]
    exact ⟨_, apply_of_le h⟩

/-- The image after an update: the new one, or the old one if the update was refused. -/
def updated (image : MemoryImage) (address : UInt16) (data : Octets) : MemoryImage :=
  match image.apply address data with
  | .ok (image', _) => image'
  | .error _ => image

lemma updated_eq_absorb (image : MemoryImage) (address : UInt16) (data : Octets) :
    image.updated address data = image.absorb ⟨address.toNat, data⟩ := by
  rcases image.apply_eq address data with ⟨changes, happly⟩ | ⟨⟨e, happly⟩, -, habsorb⟩
  · rw [updated, happly]
  · rw [updated, happly, habsorb]

/-! ## What an image knows -/

/-- Whether the cell at an index exists and is known. -/
def Knows (image : MemoryImage) (index : Nat) : Prop := ∃ b, image.cells[index]? = some (some b)

/-- A complete image knows all of its cells. -/
lemma isComplete_iff {image : MemoryImage} :
    image.isComplete = true ↔ ∀ index < image.size, image.Knows index := by
  rw [isComplete, List.all_eq_true]
  constructor
  · intro h index hindex
    obtain ⟨b, hb⟩ := Option.isSome_iff_exists.1 (h _ (List.getElem_mem hindex))
    exact ⟨b, by rw [List.getElem?_eq_getElem hindex, hb]⟩
  · intro h cell hcell
    obtain ⟨index, hindex, rfl⟩ := List.getElem_of_mem hcell
    obtain ⟨b, hb⟩ := h index hindex
    rw [List.getElem?_eq_getElem hindex, Option.some.injEq] at hb
    rw [hb, Option.isSome_some]

lemma getElem?_overwrite {image : MemoryImage} {start : Nat} {data : Octets}
    (h : start + data.length ≤ image.size) (index : Nat) :
    (image.overwrite start data).cells[index]? =
      if start ≤ index ∧ index < start + data.length then data[index - start]?.map some
      else image.cells[index]? := by
  unfold size at h
  have htake : (image.cells.take start).length = start := by
    rw [List.length_take]
    omega
  rw [overwrite, List.append_assoc]
  rcases Nat.lt_or_ge index start with hbefore | hbefore
  · rw [List.getElem?_append_left (by omega), List.getElem?_take_of_lt hbefore, if_neg (by omega)]
  · rw [List.getElem?_append_right (by omega), htake]
    rcases Nat.lt_or_ge index (start + data.length) with hinside | hafter
    · rw [List.getElem?_append_left (by rw [List.length_map]; omega), List.getElem?_map,
        if_pos ⟨hbefore, hinside⟩]
    · rw [List.getElem?_append_right (by rw [List.length_map]; omega), List.getElem?_drop,
        List.length_map, if_neg (by omega)]
      congr 1
      omega

@[simp] lemma size_updated (image : MemoryImage) (address : UInt16) (data : Octets) :
    (image.updated address data).size = image.size := by
  rw [updated_eq_absorb, size_absorb]

/-- What an update that fits leaves in the image. -/
lemma getElem?_updated {image : MemoryImage} {address : UInt16} {data : Octets}
    (hfits : address.toNat + data.length ≤ image.size) (index : Nat) :
    (image.updated address data).cells[index]? =
      if address.toNat ≤ index ∧ index < address.toNat + data.length then
        data[index - address.toNat]?.map some
      else image.cells[index]? := by
  rw [updated, apply_of_le hfits]
  exact getElem?_overwrite hfits index

/-- An update that runs past the end leaves all as it was. -/
lemma updated_of_lt {image : MemoryImage} {address : UInt16} {data : Octets}
    (hpast : image.size < address.toNat + data.length) : image.updated address data = image := by
  rw [updated, apply_of_lt hpast]

/-- What was known stays known. -/
lemma Knows.absorb {image : MemoryImage} {index : Nat} (h : image.Knows index)
    (u : MemoryUpdate) : (image.absorb u).Knows index := by
  unfold MemoryImage.absorb
  split
  · rename_i hfits
    unfold Knows
    rw [getElem?_overwrite hfits]
    split
    · have hindex : index - u.position < u.data.length := by omega
      exact ⟨u.data.get ⟨_, hindex⟩, by rw [List.getElem?_eq_getElem hindex]; rfl⟩
    · exact h
  · exact h

/-- What is written is known. -/
lemma knows_absorb {image : MemoryImage} {u : MemoryUpdate} {index : Nat}
    (hfits : u.stop ≤ image.size) (hcovers : u.Covers index) :
    (image.absorb u).Knows index := by
  obtain ⟨hstart, hstop⟩ := hcovers
  have hindex : index - u.position < u.data.length := by
    unfold MemoryUpdate.stop at hstop
    omega
  refine ⟨u.data.get ⟨index - u.position, hindex⟩, ?_⟩
  rw [absorb, if_pos hfits, getElem?_overwrite hfits, if_pos ⟨hstart, hstop⟩,
    List.getElem?_eq_getElem hindex]
  rfl

/-- Cells are read together if all of them are known. -/
lemma mapM_id_eq_some_iff {cells : List (Option UInt8)} {octets : Octets} :
    cells.mapM id = some octets ↔ cells = octets.map some := by
  induction cells generalizing octets with
  | nil => cases octets <;> simp
  | cons cell cells ih =>
    have hcons : (cell :: cells).mapM id = some octets ↔
        ∃ b, cell = some b ∧ ∃ later, cells.mapM id = some later ∧ b :: later = octets := by
      simp [List.mapM_cons, Option.bind_eq_some_iff]
    rw [hcons]
    cases octets with
    | nil => simp
    | cons b octets => simp [ih]

/-- A read stays inside the image, and gives the octets of its cells, which are all known. -/
lemma read?_eq_some_iff {image : MemoryImage} {address : UInt16} {width : Width} {octets : Octets} :
    image.read? address width = some octets ↔
      address.toNat + width.length ≤ image.size ∧ octets.length = width.length ∧
        ∀ k < width.length, image.cells[address.toNat + k]? = octets[k]?.map some := by
  rw [read?]
  rcases Nat.lt_or_ge image.size (address.toNat + width.length) with houtside | hinside
  · rw [if_pos houtside]
    simp [houtside.not_ge]
  · rw [if_neg hinside.not_gt, mapM_id_eq_some_iff]
    have hlength : ((image.cells.drop address.toNat).take width.length).length = width.length := by
      unfold size at hinside
      rw [List.length_take, List.length_drop]
      omega
    constructor
    · intro hcells
      refine ⟨hinside, ?_, fun k hk => ?_⟩
      · rw [← hlength, hcells, List.length_map]
      · rw [← List.getElem?_map, ← hcells, List.getElem?_take_of_lt hk, List.getElem?_drop]
    · rintro ⟨-, hoctets, hcells⟩
      refine List.ext_getElem? fun k => ?_
      rcases Nat.lt_or_ge k width.length with hk | hk
      · rw [List.getElem?_take_of_lt hk, List.getElem?_drop, hcells k hk, List.getElem?_map]
      · rw [List.getElem?_eq_none (hlength.le.trans hk),
          List.getElem?_eq_none (by rw [List.length_map, hoctets]; exact hk)]

/-! ## Replaying changes -/

/-- Applies changes one after the other. -/
def replay (image : MemoryImage) (changes : List MemoryChange) : Except OutOfBounds MemoryImage :=
  changes.foldlM (fun image change => (image.apply change.address change.data).map (·.1)) image

@[simp] lemma replay_nil (image : MemoryImage) : image.replay [] = .ok image := rfl

lemma replay_append {image image' : MemoryImage} {first second : List MemoryChange}
    (h : image.replay first = .ok image') :
    image.replay (first ++ second) = image'.replay second := by
  rw [replay, List.foldlM_append, ← replay, h]
  rfl

/-- One change of a run is replayed on the cells that it overwrites. -/
lemma replay_changeAt_cons {done old cells : List (Option UInt8)} {run : Octets}
    (hrun : run.length = old.length) (hsize : done.length < 65536) (later : List MemoryChange) :
    replay ⟨done ++ old ++ cells⟩ (changeAt done.length run :: later) =
      replay ⟨done ++ run.map some ++ cells⟩ later := by
  have haddress : (done.length.toUInt16).toNat = done.length := by
    simp [Nat.mod_eq_of_lt hsize]
  have hfits : (done.length.toUInt16).toNat + run.length ≤
      (⟨done ++ old ++ cells⟩ : MemoryImage).size := by
    simp only [haddress, hrun, size, List.length_append]
    omega
  have hwritten : (⟨done ++ old ++ cells⟩ : MemoryImage).overwrite done.length run =
      ⟨done ++ run.map some ++ cells⟩ := by
    simp [overwrite, hrun, List.append_assoc, List.drop_append]
  simp only [replay, List.foldlM_cons, changeAt, apply_of_le hfits, haddress, hwritten]
  rfl

/-- The pass over an update keeps three parts of the image apart: the cells that are done, those of
the pending run, which a replay has not overwritten yet, and the cells to come. -/
lemma replay_changedRuns (data : Octets) (done old cells : List (Option UInt8)) (run : Octets)
    (hrun : run.length = old.length) (hdata : data.length ≤ cells.length)
    (hsize : (done ++ old ++ cells).length ≤ 65536) :
    replay ⟨done ++ old ++ cells⟩ (changedRuns (done.length + old.length) run cells data) =
      .ok ⟨done ++ run.reverse.map some ++ data.map some ++ cells.drop data.length⟩ := by
  have hback : done.length + old.length - run.length = done.length := by omega
  induction data generalizing done old cells run with
  | nil =>
    rw [changedRuns]
    · cases run with
      | nil =>
        obtain rfl : old = [] := List.eq_nil_of_length_eq_zero hrun.symm
        simp
      | cons b run =>
        rw [if_neg (List.cons_ne_nil b run), hback, replay_changeAt_cons (by simpa using hrun)]
        · simp
        · simp only [List.length_append, List.length_cons] at hsize hrun
          omega
    · simp
  | cons b data ih =>
    cases cells with
    | nil => simp at hdata
    | cons cell cells =>
      rw [List.length_cons, List.length_cons, Nat.add_le_add_iff_right] at hdata
      simp only [List.length_append, List.length_cons] at hsize
      rw [changedRuns]
      by_cases hcell : cell = some b
      · -- the pending run ends here, and the cell itself is done as it stands
        have hlater := ih (done ++ run.reverse.map some ++ [some b]) [] cells [] rfl hdata
          (by simp; omega) (by simp)
        have hindex : (done ++ run.reverse.map some ++ [some b]).length +
            ([] : List (Option UInt8)).length = done.length + old.length + 1 := by
          simp only [List.length_append, List.length_map, List.length_reverse, List.length_cons,
            List.length_nil]
          omega
        rw [hindex] at hlater
        rw [if_pos hcell]
        by_cases hempty : run = []
        · obtain rfl : old = [] := List.eq_nil_of_length_eq_zero (by simpa [hempty] using hrun.symm)
          simpa [hempty, hcell] using hlater
        · rw [if_neg hempty, hback, replay_changeAt_cons (by simpa using hrun) (by omega)]
          simpa [hcell] using hlater
      · have hlater := ih done (old ++ [cell]) cells (b :: run) (by simpa using hrun)
          hdata (by simp; omega) (by simp; omega)
        rw [if_neg hcell]
        simpa [Nat.add_assoc] using hlater

/-- **The changes of an update carry all of it.** -/
theorem replay_apply {image image' : MemoryImage} {address : UInt16} {data : Octets}
    {changes : List MemoryChange} (hsize : image.size ≤ 65536)
    (h : image.apply address data = .ok (image', changes)) :
    image.replay changes = .ok image' := by
  rcases Nat.lt_or_ge image.size (address.toNat + data.length) with hlt | hle
  · cases (apply_of_lt hlt).symm.trans h
  · obtain ⟨rfl, rfl⟩ := Prod.mk.inj (Except.ok.inj ((apply_of_le hle).symm.trans h))
    unfold size at hsize hle
    have hlength : (image.cells.take address.toNat).length = address.toNat := by
      rw [List.length_take]
      omega
    have hreplay := replay_changedRuns data (image.cells.take address.toNat) []
      (image.cells.drop address.toNat) [] rfl (by simp; omega) (by simpa using hsize)
    simpa [hlength, overwrite, List.drop_drop] using hreplay

end MemoryImage

end SpaGateway
