import Mathlib.Tactic
import SpaGateway.Proofs.Memory.Update

/-!
# A memory cut into chunks

A device sends its memory in consecutive chunks.  `Partition` says how a memory is cut, and
`Partition.start` where each chunk belongs.  An image reflects a memory if all that it knows is
right (`MemoryImage.Reflects`).  It goes on reflecting it when it absorbs a chunk of the memory
where that belongs, and an image that reflects a memory and knows every cell is the memory.
-/

namespace SpaGateway

/-- A memory cut into consecutive chunks, each of a length that a packet can announce. -/
structure Partition (memory : Octets) where
  chunks : List Octets
  ne_nil : ∀ chunk ∈ chunks, chunk ≠ []
  length_le : ∀ chunk ∈ chunks, chunk.length ≤ 255
  flatten_eq : chunks.flatten = memory

namespace Partition

variable {memory : Octets} (p : Partition memory) {i : Nat} {data : Octets}

/-- Where a chunk begins: after all chunks before it. -/
def start (i : Nat) : Nat := (p.chunks.take i).flatten.length

@[simp] lemma start_zero : p.start 0 = 0 := rfl

variable {p}

/-- What stands before a chunk, the chunk, and what comes after it. -/
lemma exists_split (h : p.chunks[i]? = some data) :
    ∃ before later, before.length = p.start i ∧ memory = before ++ data ++ later := by
  obtain ⟨hi, rfl⟩ := List.getElem?_eq_some_iff.1 h
  refine ⟨(p.chunks.take i).flatten, (p.chunks.drop (i + 1)).flatten, rfl, ?_⟩
  calc memory
      = (p.chunks.take i ++ p.chunks.drop i).flatten := by rw [List.take_append_drop, p.flatten_eq]
    _ = (p.chunks.take i).flatten ++ p.chunks[i] ++ (p.chunks.drop (i + 1)).flatten := by
      rw [List.drop_eq_getElem_cons hi, List.flatten_append, List.flatten_cons, List.append_assoc]

lemma start_succ (h : p.chunks[i]? = some data) : p.start (i + 1) = p.start i + data.length := by
  rw [start, start, List.take_add_one, h, List.flatten_append]
  simp

lemma start_add_le (h : p.chunks[i]? = some data) : p.start i + data.length ≤ memory.length := by
  obtain ⟨before, later, hstart, hmemory⟩ := exists_split h
  have hlength := congrArg List.length hmemory
  rw [List.length_append, List.length_append] at hlength
  omega

lemma getElem?_start_add (h : p.chunks[i]? = some data) {offset : Nat}
    (hoffset : offset < data.length) : memory[p.start i + offset]? = data[offset]? := by
  obtain ⟨before, later, hstart, hmemory⟩ := exists_split h
  calc memory[p.start i + offset]?
      = (before ++ (data ++ later))[before.length + offset]? := by
        rw [hstart, ← List.append_assoc, ← hmemory]
    _ = data[offset]? := by
        rw [List.getElem?_append_right (Nat.le_add_right _ _), Nat.add_sub_cancel_left,
          List.getElem?_append_left hoffset]

/-- A chunk begins before the end. -/
lemma start_lt (h : i < p.chunks.length) : p.start i < memory.length := by
  have hchunk : p.chunks[i]? = some p.chunks[i] := List.getElem?_eq_getElem h
  have hle := start_add_le hchunk
  have hpos := List.length_pos_iff.2 (p.ne_nil _ (List.getElem_mem h))
  omega

/-- After the last chunk comes the end. -/
@[simp] lemma start_length : p.start p.chunks.length = memory.length := by
  rw [start, List.take_length, p.flatten_eq]

/-- Only a chunk can begin before the end. -/
lemma lt_of_start_lt (h : p.start i < memory.length) : i < p.chunks.length := by
  by_contra! hlast
  rw [start, List.take_of_length_le hlast, p.flatten_eq] at h
  exact lt_irrefl _ h

end Partition

/-! ## Faithful images -/

namespace MemoryImage

/-- An image reflects a memory if it has its size and all that it knows is right. -/
structure Reflects (image : MemoryImage) (memory : Octets) : Prop where
  size_eq : image.size = memory.length
  faithful : ∀ (index : Nat) (b : UInt8), image.cells[index]? = some (some b) →
    memory[index]? = some b

variable {image : MemoryImage} {memory : Octets}

lemma reflects_empty (memory : Octets) : (empty memory.length).Reflects memory := by
  refine ⟨size_empty _, fun index b hknown => ?_⟩
  rw [empty, List.getElem?_replicate] at hknown
  split at hknown <;> cases hknown

/-- Where it belongs, a chunk writes what the memory holds there. -/
lemma getElem?_absorb_chunk (hsize : image.size = memory.length) {p : Partition memory} {i : Nat}
    {data : Octets} (hchunk : p.chunks[i]? = some data) (index : Nat) :
    (image.absorb ⟨p.start i, data⟩).cells[index]? =
      if p.start i ≤ index ∧ index < p.start i + data.length then memory[index]?.map some
      else image.cells[index]? := by
  have hfits : (⟨p.start i, data⟩ : MemoryUpdate).stop ≤ image.size :=
    (Partition.start_add_le hchunk).trans hsize.ge
  rw [MemoryImage.absorb, if_pos hfits, getElem?_overwrite hfits]
  dsimp only
  split
  · rename_i hcovers
    obtain ⟨hstart, hstop⟩ := hcovers
    have hoffset : index - p.start i < data.length := by omega
    have hright := Partition.getElem?_start_add hchunk hoffset
    rw [Nat.add_sub_of_le hstart] at hright
    rw [hright]
  · rfl

/-- What a chunk writes where it belongs is right. -/
lemma Reflects.absorb (h : image.Reflects memory) {p : Partition memory} {i : Nat} {data : Octets}
    (hchunk : p.chunks[i]? = some data) : (image.absorb ⟨p.start i, data⟩).Reflects memory := by
  refine ⟨(size_absorb _ _).trans h.size_eq, fun index b hknown => ?_⟩
  rw [getElem?_absorb_chunk h.size_eq hchunk] at hknown
  split at hknown
  · simpa using hknown
  · exact h.faithful index b hknown

/-- A faithful image that knows every cell is the memory. -/
lemma Reflects.cells_eq (h : image.Reflects memory)
    (hknown : ∀ index < memory.length, image.Knows index) : image.cells = memory.map some := by
  have hsize : image.cells.length = memory.length := h.size_eq
  refine List.ext_getElem? fun index => ?_
  rw [List.getElem?_map]
  rcases Nat.lt_or_ge index memory.length with hinside | houtside
  · obtain ⟨b, hb⟩ := hknown index hinside
    rw [hb, h.faithful index b hb]
    rfl
  · rw [List.getElem?_eq_none (hsize.le.trans houtside), List.getElem?_eq_none houtside]
    rfl

/-- The beginning of an image is that of a memory, up to an index. -/
def HoldsUpTo (image : MemoryImage) (memory : Octets) (stop : Nat) : Prop :=
  ∀ index < stop, image.cells[index]? = memory[index]?.map some

/-- The chunk that comes next takes the beginning further. -/
lemma HoldsUpTo.absorb {p : Partition memory} {i : Nat} (h : image.HoldsUpTo memory (p.start i))
    (hsize : image.size = memory.length) {data : Octets} (hchunk : p.chunks[i]? = some data) :
    (image.absorb ⟨p.start i, data⟩).HoldsUpTo memory (p.start (i + 1)) := by
  intro index hindex
  rw [Partition.start_succ hchunk] at hindex
  rw [getElem?_absorb_chunk hsize hchunk]
  split
  · rfl
  · exact h index (by omega)

/-- An image that holds all of a memory is the memory. -/
lemma HoldsUpTo.cells_eq (h : image.HoldsUpTo memory memory.length)
    (hsize : image.size = memory.length) : image.cells = memory.map some := by
  have hlength : image.cells.length = memory.length := hsize
  refine List.ext_getElem? fun index => ?_
  rw [List.getElem?_map]
  rcases Nat.lt_or_ge index memory.length with hinside | houtside
  · exact h index hinside
  · rw [List.getElem?_eq_none (hlength.le.trans houtside), List.getElem?_eq_none houtside]
    rfl

end MemoryImage

end SpaGateway
