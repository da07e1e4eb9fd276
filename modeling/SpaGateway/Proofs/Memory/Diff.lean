import Mathlib.Tactic
import SpaGateway.Proofs.Memory.Update

/-!
# The changes of one update

`MemoryImage.apply` lists what an update changes in one pass that keeps the run under way.  This
module says what the list is without the pass: its entries are the maximal runs of cells that were
unknown or held another octet, and each entry shows what the cells of its run hold now.

`ListsRuns` is the loop's invariant.  It is about any property of indices, so that the run under way
is part of it: before an index the cells of the run count as changed, from the index on the
comparison decides (`listsRuns_changedRuns`).  That the runs are maximal follows from the order of
the list alone, since between two of them there is always a gap (`ListsRuns.isMaximalRun_iff`).
-/

namespace SpaGateway

/-! ## Runs -/

/-- A run of consecutive indices with a property that cannot be extended on either side. -/
structure IsMaximalRun (P : Nat → Prop) (start stop : Nat) : Prop where
  start_lt : start < stop
  holds : ∀ index, start ≤ index → index < stop → P index
  not_before : ∀ index, index + 1 = start → ¬ P index
  not_after : ¬ P stop

namespace MemoryChange

/-- The index of the first octet. -/
def start (c : MemoryChange) : Nat := c.address.toNat

/-- The index after the last octet. -/
def stop (c : MemoryChange) : Nat := c.start + c.data.length

/-- A change that is not empty, of the width that it announces. -/
structure IsProper (c : MemoryChange) : Prop where
  ne_nil : c.data ≠ []
  width_eq : c.width.length = c.data.length

lemma IsProper.start_lt_stop {c : MemoryChange} (h : c.IsProper) : c.start < c.stop :=
  Nat.lt_add_of_pos_right (List.length_pos_iff.2 h.ne_nil)

end MemoryChange

lemma Width.length_ofLength {n : Nat} (h : n ≤ 65535) : (ofLength n).length = n := by
  unfold ofLength
  split
  · exact (‹n = 1›).symm
  · split
    · exact (‹n = 2›).symm
    · rw [length, min_eq_left h, Nat.toUInt16_eq, UInt16.toNat_ofNat', Nat.mod_eq_of_lt (by omega)]

namespace MemoryImage

/-- Changes in order, with a gap between any two, that begin at an index at the earliest.  Together
they cover the indices with a property, and each shows the octets that belong there. -/
structure ListsRuns (P : Nat → Prop) (octet? : Nat → Option UInt8) (first : Nat)
    (changes : List MemoryChange) : Prop where
  pairwise : changes.Pairwise fun c c' => c.stop < c'.start
  first_le : ∀ c ∈ changes, first ≤ c.start
  isProper : ∀ c ∈ changes, c.IsProper
  shows : ∀ c ∈ changes, ∀ k < c.data.length, octet? (c.start + k) = c.data[k]?
  covers_iff : ∀ index, P index ↔ ∃ c ∈ changes, c.start ≤ index ∧ index < c.stop

namespace ListsRuns

variable {P : Nat → Prop} {octet? : Nat → Option UInt8} {first : Nat} {changes : List MemoryChange}

lemma nil (h : ∀ index, ¬ P index) : ListsRuns P octet? first [] where
  pairwise := .nil
  first_le := by simp
  isProper := by simp
  shows := by simp
  covers_iff := by simpa using h

/-- One more run in front of the others, with a gap after it. -/
lemma cons {Q : Nat → Prop} {next : Nat} (h : ListsRuns Q octet? next changes) {c : MemoryChange}
    (hproper : c.IsProper) (hshows : ∀ k < c.data.length, octet? (c.start + k) = c.data[k]?)
    (hfirst : first ≤ c.start) (hnext : c.stop < next)
    (hP : ∀ index, P index ↔ c.start ≤ index ∧ index < c.stop ∨ Q index) :
    ListsRuns P octet? first (c :: changes) where
  pairwise := List.pairwise_cons.2 ⟨fun c' hc' => hnext.trans_le (h.first_le c' hc'), h.pairwise⟩
  first_le := by
    have hstart := hproper.start_lt_stop
    refine List.forall_mem_cons.2 ⟨hfirst, fun c' hc' => ?_⟩
    have hlater := h.first_le c' hc'
    omega
  isProper := List.forall_mem_cons.2 ⟨hproper, h.isProper⟩
  shows := List.forall_mem_cons.2 ⟨hshows, h.shows⟩
  covers_iff index := by rw [hP, h.covers_iff, List.exists_mem_cons_iff]

/-- Only the property and the octets from the first index on matter. -/
lemma congr {P' : Nat → Prop} {octet?' : Nat → Option UInt8} {first' : Nat}
    (h : ListsRuns P octet? first changes) (hP : ∀ index, P' index ↔ P index)
    (hoctet : ∀ index, first ≤ index → octet?' index = octet? index) (hfirst : first' ≤ first) :
    ListsRuns P' octet?' first' changes where
  pairwise := h.pairwise
  first_le c hc := hfirst.trans (h.first_le c hc)
  isProper := h.isProper
  shows c hc k hk := by
    have hstart := h.first_le c hc
    rw [hoctet _ (by omega), h.shows c hc k hk]
  covers_iff index := (hP index).trans (h.covers_iff index)

/-- Between two different runs of the list there is a gap. -/
lemma apart (h : ListsRuns P octet? first changes) {c c' : MemoryChange} (hc : c ∈ changes)
    (hc' : c' ∈ changes) (hne : c ≠ c') : c.stop < c'.start ∨ c'.stop < c.start := by
  have : Std.Symm fun c c' : MemoryChange => c.stop < c'.start ∨ c'.stop < c.start :=
    ⟨fun _ _ => Or.symm⟩
  exact List.Pairwise.forall (R := fun c c' : MemoryChange => c.stop < c'.start ∨ c'.stop < c.start)
    (h.pairwise.imp Or.inl) hc hc' hne

/-- An index at most one step away from a run and covered by the list is covered by that run. -/
lemma covered_of_near (h : ListsRuns P octet? first changes) {c : MemoryChange} (hc : c ∈ changes)
    {index : Nat} (hP : P index) (hbefore : c.start ≤ index + 1) (hafter : index ≤ c.stop) :
    c.start ≤ index ∧ index < c.stop := by
  obtain ⟨c', hc', hstart, hstop⟩ := (h.covers_iff index).1 hP
  by_cases hne : c = c'
  · exact hne ▸ ⟨hstart, hstop⟩
  · have hgap := h.apart hc hc' hne
    omega

/-- Nothing right before or right after a run of the list has the property. -/
lemma isMaximalRun (h : ListsRuns P octet? first changes) {c : MemoryChange} (hc : c ∈ changes) :
    IsMaximalRun P c.start c.stop where
  start_lt := (h.isProper c hc).start_lt_stop
  holds index hstart hstop := (h.covers_iff index).2 ⟨c, hc, hstart, hstop⟩
  not_before index hbefore hP := by
    have hinside := h.covered_of_near hc hP hbefore.ge (by
      have hlt := (h.isProper c hc).start_lt_stop
      omega)
    omega
  not_after hP := by
    have hinside := h.covered_of_near hc hP (by
      have hlt := (h.isProper c hc).start_lt_stop
      omega) le_rfl
    omega

/-- **The runs of the list are exactly the maximal ones.** -/
theorem isMaximalRun_iff (h : ListsRuns P octet? first changes) (start stop : Nat) :
    IsMaximalRun P start stop ↔ ∃ c ∈ changes, c.start = start ∧ c.stop = stop := by
  constructor
  · rintro ⟨hlt, hholds, hbefore, hafter⟩
    obtain ⟨c, hc, hstart, hstop⟩ := (h.covers_iff start).1 (hholds start le_rfl hlt)
    have hmaximal := h.isMaximalRun hc
    -- neither of two maximal runs that meet reaches beyond the other
    have hstart' : ¬ c.start < start := fun hlt' =>
      hbefore (start - 1) (by omega) (hmaximal.holds (start - 1) (by omega) (by omega))
    have hstop' : ¬ c.stop < stop := fun hlt' =>
      hmaximal.not_after (hholds c.stop hstop.le hlt')
    have hstop'' : ¬ stop < c.stop := fun hlt' =>
      hafter (hmaximal.holds stop (hstart.trans hlt.le) hlt')
    exact ⟨c, hc, by omega, by omega⟩
  · rintro ⟨c, hc, rfl, rfl⟩
    exact h.isMaximalRun hc

end ListsRuns

/-! ## The pass over an update -/

/-- Whether the octet with a number is not what the cell with that number holds. -/
def Differs (cells : List (Option UInt8)) (data : Octets) (k : Nat) : Prop :=
  ∃ b, data[k]? = some b ∧ cells[k]? ≠ some (some b)

@[simp] lemma differs_cons_zero {cell : Option UInt8} {cells : List (Option UInt8)} {b : UInt8}
    {data : Octets} : Differs (cell :: cells) (b :: data) 0 ↔ cell ≠ some b := by
  simp [Differs]

@[simp] lemma differs_cons_succ {cell : Option UInt8} {cells : List (Option UInt8)} {b : UInt8}
    {data : Octets} {k : Nat} :
    Differs (cell :: cells) (b :: data) (k + 1) ↔ Differs cells data k := by
  simp [Differs]

/-- A run that has come to its end is one change. -/
lemma changeAt_reverse_spec {index : Nat} {run : Octets} (hrun : run ≠ [])
    (hlength : run.length ≤ index) (hsize : index ≤ 65535) :
    let c := changeAt (index - run.length) run.reverse
    c.IsProper ∧ c.start = index - run.length ∧ c.stop = index := by
  intro c
  have hstart : c.start = index - run.length := by
    change ((index - run.length).toUInt16).toNat = index - run.length
    rw [Nat.toUInt16_eq, UInt16.toNat_ofNat', Nat.mod_eq_of_lt (by omega)]
  refine ⟨⟨by simpa [c, changeAt] using hrun, Width.length_ofLength ?_⟩, hstart, ?_⟩
  · rw [List.length_reverse]
    omega
  · change c.start + run.reverse.length = index
    rw [hstart, List.length_reverse, Nat.sub_add_cancel hlength]

/-- The first cell is looked at by itself. -/
lemma differs_cons_iff {cell : Option UInt8} {cells : List (Option UInt8)} {b : UInt8}
    {data : Octets} {index i : Nat} :
    index ≤ i ∧ Differs (cell :: cells) (b :: data) (i - index) ↔
      i = index ∧ cell ≠ some b ∨ index + 1 ≤ i ∧ Differs cells data (i - (index + 1)) := by
  rcases Nat.lt_trichotomy i index with hbefore | rfl | hafter
  · constructor <;> intro hdiffers <;> omega
  · simp
  · obtain ⟨k, rfl⟩ := Nat.exists_eq_add_of_lt hafter
    have hcell : index + k + 1 - index = k + 1 := by omega
    have hlater : index + k + 1 - (index + 1) = k := by omega
    rw [hcell, hlater, differs_cons_succ]
    constructor
    · exact fun hdiffers => .inr ⟨by omega, hdiffers.2⟩
    · rintro (⟨hfirst, -⟩ | hdiffers)
      · omega
      · exact ⟨by omega, hdiffers.2⟩

/-- **The invariant of the pass.**  Its list covers the cells of the run under way and, from the
index on, those that differ. -/
theorem listsRuns_changedRuns (data : Octets) (index : Nat) (run : Octets)
    (cells : List (Option UInt8)) (hrun : run.length ≤ index)
    (hdata : data.length ≤ cells.length) (hsize : index + data.length ≤ 65535) :
    ListsRuns
      (fun i => index - run.length ≤ i ∧ i < index ∨ index ≤ i ∧ Differs cells data (i - index))
      (fun i => (run.reverse ++ data)[i - (index - run.length)]?) (index - run.length)
      (changedRuns index run cells data) := by
  induction data generalizing index run cells with
  | nil =>
    have hnone (i : Nat) : ¬ Differs cells [] i := by simp [Differs]
    rw [changedRuns]
    · split
      · rename_i hempty
        exact .nil fun i => by simp [hempty, hnone]
      · rename_i hopen
        obtain ⟨hproper, hstart, hstop⟩ := changeAt_reverse_spec hopen hrun hsize
        have hend : ListsRuns (fun _ => False)
            (fun i => (run.reverse ++ [])[i - (index - run.length)]?) (index + 1) [] :=
          .nil fun _ => id
        refine hend.cons hproper (fun k hk => ?_) hstart.ge ?_ fun i => ?_
        · rw [hstart, Nat.add_sub_cancel_left, List.append_nil]
          rfl
        · rw [hstop]
          exact Nat.lt_succ_self index
        · rw [hstart, hstop]
          simp [hnone]
    · simp
  | cons b data ih =>
    cases cells with
    | nil => simp at hdata
    | cons cell cells =>
      simp only [List.length_cons, Nat.add_le_add_iff_right] at hdata hsize
      rw [changedRuns]
      by_cases hcell : cell = some b
      · -- the run under way ends in front of this cell, which is a gap
        rw [if_pos hcell]
        have hlater : ListsRuns (fun i => index + 1 ≤ i ∧ Differs cells data (i - (index + 1)))
            (fun i => (run.reverse ++ b :: data)[i - (index - run.length)]?) (index + 1)
            (changedRuns (index + 1) [] cells data) := by
          have hrest := ih (index + 1) [] cells (Nat.zero_le _) hdata (by omega)
          rw [List.length_nil, Nat.sub_zero] at hrest
          refine hrest.congr (fun i => by simp) (fun i hi => ?_) le_rfl
          obtain ⟨k, rfl⟩ := Nat.exists_eq_add_of_le hi
          have hwhole : index + 1 + k - (index - run.length) = run.reverse.length + (k + 1) := by
            rw [List.length_reverse]
            omega
          rw [hwhole, List.getElem?_append_right (Nat.le_add_right _ _), Nat.add_sub_cancel_left,
            List.getElem?_cons_succ, Nat.add_sub_cancel_left]
          rfl
        by_cases hempty : run = []
        · subst hempty
          rw [if_pos rfl]
          exact hlater.congr (fun i => by simp [differs_cons_iff, hcell]) (fun _ _ => rfl) (by simp)
        · rw [if_neg hempty]
          obtain ⟨hproper, hstart, hstop⟩ := changeAt_reverse_spec hempty hrun (by omega)
          refine hlater.cons hproper (fun k hk => ?_) hstart.ge ?_ fun i => ?_
          · rw [hstart, Nat.add_sub_cancel_left]
            exact List.getElem?_append_left hk
          · rw [hstop]
            exact Nat.lt_succ_self index
          · rw [hstart, hstop, differs_cons_iff]
            simp [hcell]
      · rw [if_neg hcell]
        have hlater := ih (index + 1) (b :: run) cells (by simpa using hrun) hdata (by omega)
        rw [List.length_cons, Nat.add_sub_add_right] at hlater
        refine hlater.congr (fun i => ?_) (fun i hi => ?_) le_rfl
        · rw [differs_cons_iff]
          by_cases hi : i = index
          · simp [hi, hcell]
          · have hpending : i < index ↔ i < index + 1 := by omega
            rw [hpending]
            simp [hi]
        · simp

/-! ## Updates -/

/-- Whether an update tells something new of a cell: it was unknown, or held another octet. -/
def IsNews (image : MemoryImage) (address : UInt16) (data : Octets) (index : Nat) : Prop :=
  address.toNat ≤ index ∧ ∃ b, data[index - address.toNat]? = some b ∧
    (image.cells[index]? = some none ∨ ∃ old, image.cells[index]? = some (some old) ∧ old ≠ b)

section

variable {image : MemoryImage} {address : UInt16} {data : Octets}

lemma isNews_iff (hfits : address.toNat + data.length ≤ image.size) (index : Nat) :
    image.IsNews address data index ↔ address.toNat ≤ index ∧
      Differs (image.cells.drop address.toNat) data (index - address.toNat) := by
  refine and_congr_right fun hstart => exists_congr fun b => and_congr_right fun hb => ?_
  rw [List.getElem?_drop, Nat.add_sub_cancel' hstart]
  obtain ⟨hk, -⟩ := List.getElem?_eq_some_iff.1 hb
  have hindex : index < image.cells.length := by
    unfold size at hfits
    omega
  rw [List.getElem?_eq_getElem hindex]
  cases image.cells[index] <;> simp

/-- News is told of cells that the update covers. -/
lemma IsNews.index_lt {index : Nat} (h : image.IsNews address data index) :
    index < address.toNat + data.length := by
  obtain ⟨hstart, b, hb, -⟩ := h
  obtain ⟨hk, -⟩ := List.getElem?_eq_some_iff.1 hb
  omega

lemma apply_eq_ok (hfits : address.toNat + data.length ≤ image.size) :
    image.apply address data = .ok (image.updated address data,
      changedRuns address.toNat [] (image.cells.drop address.toNat) data) := by
  rw [updated, apply_of_le hfits]

/-- Once an update has been written, it says nothing new. -/
lemma not_isNews_updated (hfits : address.toNat + data.length ≤ image.size) (index : Nat) :
    ¬ (image.updated address data).IsNews address data index := by
  rintro ⟨hstart, b, hb, hnews⟩
  obtain ⟨hk, -⟩ := List.getElem?_eq_some_iff.1 hb
  rw [getElem?_updated hfits, if_pos ⟨hstart, by omega⟩, hb] at hnews
  simp at hnews

/-- The list that the pass makes is that of the runs of news. -/
lemma listsRuns_apply (hsize : image.size ≤ 65535)
    (hfits : address.toNat + data.length ≤ image.size) :
    ListsRuns (image.IsNews address data) (fun index => data[index - address.toNat]?)
      address.toNat (changedRuns address.toNat [] (image.cells.drop address.toNat) data) := by
  have hdrop : data.length ≤ (image.cells.drop address.toNat).length := by
    unfold size at hfits
    rw [List.length_drop]
    omega
  refine (listsRuns_changedRuns data address.toNat [] _ (Nat.zero_le _) hdrop (by omega)).congr
    (fun index => ?_) (fun _ _ => rfl) le_rfl
  rw [isNews_iff hfits]
  simp

/-- Applying an update again changes nothing. -/
lemma apply_updated (hsize : image.size ≤ 65535)
    (hfits : address.toNat + data.length ≤ image.size) :
    (image.updated address data).apply address data = .ok (image.updated address data, []) := by
  have hfits' : address.toNat + data.length ≤ (image.updated address data).size :=
    hfits.trans_eq (size_updated image address data).symm
  have hruns := listsRuns_apply ((size_updated image address data).trans_le hsize) hfits'
  have hnone : changedRuns address.toNat []
      ((image.updated address data).cells.drop address.toNat) data = [] := by
    refine List.eq_nil_iff_forall_not_mem.2 fun c hc => ?_
    have hmaximal := hruns.isMaximalRun hc
    exact not_isNews_updated hfits c.start (hmaximal.holds c.start le_rfl hmaximal.start_lt)
  have hsame : (image.updated address data).updated address data = image.updated address data := by
    refine congrArg MemoryImage.mk (List.ext_getElem? fun index => ?_)
    change ((image.updated address data).updated address data).cells[index]? =
      (image.updated address data).cells[index]?
    rw [getElem?_updated hfits', getElem?_updated hfits]
    split <;> rfl
  rw [apply_eq_ok hfits', hsame, hnone]

/-- A run of news shows what the image holds there afterwards. -/
lemma read?_updated (hfits : address.toNat + data.length ≤ image.size) {changes : List MemoryChange}
    (hruns : ListsRuns (image.IsNews address data) (fun index => data[index - address.toNat]?)
      address.toNat changes) {c : MemoryChange} (hc : c ∈ changes) :
    (image.updated address data).read? c.address c.width = some c.data := by
  have hproper := hruns.isProper c hc
  have hmaximal := hruns.isMaximalRun hc
  have hlt := hproper.start_lt_stop
  have hfirst := hruns.first_le c hc
  have hlast := (hmaximal.holds (c.stop - 1) (by omega) (by omega)).index_lt
  have hstop : c.address.toNat + c.data.length = c.stop := rfl
  rw [read?_eq_some_iff, hproper.width_eq, size_updated]
  refine ⟨by omega, rfl, fun k hk => ?_⟩
  have hinside : address.toNat ≤ c.address.toNat + k ∧
      c.address.toNat + k < address.toNat + data.length := by
    have hstart : c.address.toNat = c.start := rfl
    omega
  rw [getElem?_updated hfits, if_pos hinside, ← hruns.shows c hc k hk]
  rfl

/-- **The changes of an update are the maximal runs of what it tells anew.**  An update that runs
past the end is refused and leaves the image as it was.  Any other is written and changes nothing
beside it, and its changes are exactly the maximal runs of cells that were unknown or held another
octet, in address order, each with what the image holds there afterwards.  So applying it again
changes nothing. -/
theorem changes_eq_maximal_runs (hsize : image.size ≤ 65535) (address : UInt16) (data : Octets) :
    let after := image.updated address data
    (image.size < address.toNat + data.length →
      image.apply address data = .error ⟨address, data.length, image.size⟩ ∧ after = image) ∧
    (address.toNat + data.length ≤ image.size →
      ∃ changes, image.apply address data = .ok (after, changes) ∧
        (∀ index, after.cells[index]? =
          if address.toNat ≤ index ∧ index < address.toNat + data.length then
            data[index - address.toNat]?.map some
          else image.cells[index]?) ∧
        changes.Pairwise (fun c c' => c.stop < c'.start) ∧
        (∀ c ∈ changes, c.data ≠ [] ∧ c.width.length = c.data.length ∧
          after.read? c.address c.width = some c.data) ∧
        (∀ start stop, IsMaximalRun (image.IsNews address data) start stop ↔
          ∃ c ∈ changes, c.start = start ∧ c.stop = stop) ∧
        after.apply address data = .ok (after, [])) := by
  refine ⟨fun hpast => ?_, fun hfits => ?_⟩
  · exact ⟨apply_of_lt hpast, updated_of_lt hpast⟩
  · have hruns := listsRuns_apply hsize hfits
    refine ⟨_, apply_eq_ok hfits, getElem?_updated hfits, hruns.pairwise, fun c hc => ?_,
      hruns.isMaximalRun_iff, apply_updated hsize hfits⟩
    have hproper := hruns.isProper c hc
    exact ⟨hproper.ne_nil, hproper.width_eq, read?_updated hfits hruns hc⟩

end

/-- An update of five cells tells something new of the second one, which was unknown, and of the
last two. -/
theorem two_runs_of_update :
    let image : MemoryImage := ⟨[some 1, none, some 3, some 4, none]⟩
    let changes : List MemoryChange := [⟨1, .octet, [2]⟩, ⟨3, .word, [9, 5]⟩]
    image.size ≤ 65535 ∧ image.apply 0 [1, 2, 3, 9, 5] =
        .ok (⟨[some 1, some 2, some 3, some 9, some 5]⟩, changes) ∧
      IsMaximalRun (image.IsNews 0 [1, 2, 3, 9, 5]) 3 5 := by
  intro image changes
  have hsize : image.size ≤ 65535 := by decide
  obtain ⟨-, hwritten⟩ := changes_eq_maximal_runs hsize 0 [1, 2, 3, 9, 5]
  obtain ⟨listed, happly, -, -, -, hruns, -⟩ := hwritten (by decide)
  have happly' : image.apply 0 [1, 2, 3, 9, 5] =
      .ok (⟨[some 1, some 2, some 3, some 9, some 5]⟩, changes) := by decide
  obtain ⟨-, rfl⟩ := Prod.mk.inj (Except.ok.inj (happly.symm.trans happly'))
  exact ⟨hsize, happly', (hruns 3 5).2 ⟨⟨3, .word, [9, 5]⟩, by decide, rfl, rfl⟩⟩

end MemoryImage

end SpaGateway
