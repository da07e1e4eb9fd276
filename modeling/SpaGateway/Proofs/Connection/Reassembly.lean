import Mathlib.Tactic
import SpaGateway.Proofs.Connection.Mirror
import SpaGateway.Proofs.Memory.Partition

/-!
# Downloads over a bad network

Chunks of a download are lost, doubled and overtaken, and chunks of an older download come late.  A
chunk says its number and the number of the next one, an octet each, and no more: where its data
belong is known to the connection alone.

A device that cuts its memory into at most 256 chunks numbers them all differently, and cuts it the
same way each time.  Then the number that the connection waits for says where the chunk with that
number belongs, whichever download it comes from.  `Partition.InSync` is this invariant, and
`Host.image_reflects_memory` draws from it that the image is never wrong, that no update is refused
and that a download is reported only when the image is the memory.
-/

namespace SpaGateway

namespace Partition

variable {memory : Octets} (p : Partition memory)

/-- Whether a chunk is one of the partition, with its number and the next one. -/
def Numbers (seq next : UInt8) (data : Octets) : Prop :=
  ∃ i, p.chunks[i]? = some data ∧ seq = i.toUInt8 ∧ next = (i + 1).toUInt8

/-- Whether a package may come from a device that sends this partition when it is asked for a
download, and no push. -/
def Admits : Package → Prop
  | .authorized _ _ (.data payload) =>
    match Payload.parse? payload with
    | some (.statusPush _) => False
    | some (.statusChunk seq next data) => p.Numbers seq next data
    | _ => True
  | _ => True

/-- The image reflects the memory, and a download under way knows all that comes before the chunk
that it waits for. -/
structure InSync (v : MemoryView) : Prop where
  reflects : v.image.Reflects memory
  progress : ∀ q ∈ v.progress, ∃ i < 256, q = (i.toUInt8, p.start i) ∧
    ∀ index < p.start i, v.image.Knows index

end Partition

/-! ## What a step takes -/

namespace Connection

variable {c : Connection} {memory : Octets} {p : Partition memory}

/-- A device that does not push makes no pushed updates. -/
lemma pushed_eq_nil {input : Input} (h : ∀ package, input = .package package → p.Admits package) :
    c.pushed input = [] := by
  unfold pushed
  split
  · rename_i source destination payload
    have hadmits := h _ rfl
    rw [Partition.Admits] at hadmits
    have hnone : pushUpdates payload = [] := by
      unfold pushUpdates
      split
      · rename_i hparse
        rw [hparse] at hadmits
        exact hadmits.elim
      · rfl
    rw [hnone, ite_self]
  · rfl

/-- The chunk that is waited for is taken as a chunk. -/
lemma view_react_chunk (m : Moment) {source destination : Option Octets} {payload : Octets}
    {next : UInt8} {data : Octets} {download : Download}
    (haccepts : c.session.accepts destination = true) (hdownload : c.download = some download)
    (hoffset : download.offset < 65536)
    (hparse : Payload.parse? payload = some (.statusChunk download.expected next data)) :
    let written := (c.view []).write ⟨download.offset, data⟩
    let offset := download.offset + data.length
    (c.react m (.package (.authorized source destination (.data payload)))).view =
      if c.image.size ≤ offset then
        { written with
          progress := none
          notes := written.notes ++ if m.now + c.fullStateInterval < clockEnd then
            [.feed .downloadComplete] else [] }
      else { written with progress := some (next, offset) } := by
  intro written offset
  have hown : c.foreignData? (.authorized source destination (.data payload)) = none := by
    cases destination <;> simp_all [foreignData?, Session.accepts, Session.isOther]
  rw [react, onPackage, hown]
  dsimp only
  rw [Session.handle, Session.handleAuthorized_of_accepts haccepts, Turn.applySession,
    Turn.view_publish]
  set t : Turn := Turn.update { connection := c } ({ · with
    session := { c.session with lastActivity := m.now } })
  have hdata : t.onData m payload = t.takeChunk m download.expected next data := by
    rw [Turn.onData, hparse]
  have htake := t.view_takeChunk m hdownload hoffset next data
  rw [← hdata] at htake
  exact htake

end Connection

/-! ## One step of a download -/

namespace Partition

variable {memory : Octets} {p : Partition memory} {v v' : MemoryView}

/-- The outcome of a step: the image is still in sync, no update was refused, and a download was
reported only if the image is the memory. -/
structure Sound (p : Partition memory) (v : MemoryView) : Prop where
  inSync : p.InSync v
  inBounds : ∀ address length, .feed (.outOfBounds address length) ∉ v.notes
  isWhole : .feed .downloadComplete ∈ v.notes → v.image.cells = memory.map some

/-- Without chunks there is nothing that could go wrong. -/
lemma InSync.sound_of_none (hv : p.InSync v) (hnotes : v.notes = []) (h : MemoryStep v [] none v') :
    p.Sound v' := by
  generalize hpushed : ([] : List MemoryUpdate) = pushed at h
  cases h with
  | rest => exact ⟨hv, by simp [hnotes], by simp [hnotes]⟩
  | abandon => exact ⟨⟨hv.reflects, by simp⟩, by simp [hnotes], by simp [hnotes]⟩
  | request package fault =>
    refine ⟨⟨hv.reflects, ?_⟩, by simp [MemoryView.request, hnotes],
      by simp [MemoryView.request, hnotes]⟩
    rintro q ⟨rfl⟩
    exact ⟨0, by omega, rfl, by simp⟩
  | push changes =>
    rw [← hpushed]
    exact ⟨hv, by simp [hnotes], by simp [hnotes]⟩

/-- The number that is waited for tells which chunk has come, and that it belongs where the
download stands. -/
lemma InSync.exists_index (hv : p.InSync v) (hcount : p.chunks.length ≤ 256) {expected : UInt8}
    {offset : Nat} (hprogress : v.progress = some (expected, offset)) {next : UInt8} {data : Octets}
    (hnumbers : p.Numbers expected next data) :
    ∃ i, p.chunks[i]? = some data ∧ next = (i + 1).toUInt8 ∧ offset = p.start i ∧
      ∀ index < p.start i, v.image.Knows index := by
  obtain ⟨j, hchunk, hj, hnext⟩ := hnumbers
  obtain ⟨i, hi, hstands, hknown⟩ := hv.progress _ hprogress
  obtain ⟨hexpected, hoffset⟩ := Prod.mk.inj hstands
  obtain ⟨hlt, -⟩ := List.getElem?_eq_some_iff.1 hchunk
  have hsame : i = j := by
    have hoctets := congrArg UInt8.toNat (hexpected.symm.trans hj)
    rw [UInt8.toNat_ofNat', UInt8.toNat_ofNat'] at hoctets
    omega
  subst hsame
  exact ⟨i, hchunk, hnext, hoffset, hknown⟩

/-- A chunk that is written where it belongs takes the image a chunk further. -/
lemma InSync.write (hv : p.InSync v) {i : Nat} {data : Octets} (hchunk : p.chunks[i]? = some data)
    (hknown : ∀ index < p.start i, v.image.Knows index) :
    (v.write ⟨p.start i, data⟩).image.Reflects memory ∧
      ∀ index < p.start (i + 1), (v.write ⟨p.start i, data⟩).image.Knows index := by
  refine ⟨hv.reflects.absorb hchunk, fun index hindex => ?_⟩
  rw [start_succ hchunk] at hindex
  rcases Nat.lt_or_ge index (p.start i) with hbefore | hafter
  · exact (hknown index hbefore).absorb _
  · exact MemoryImage.knows_absorb ((start_add_le hchunk).trans hv.reflects.size_eq.ge)
      ⟨hafter, hindex⟩

/-- It is not refused. -/
lemma InSync.exists_of_mem_news (hv : p.InSync v) (hsize : memory.length < 65536) {i : Nat}
    {data : Octets} (hchunk : p.chunks[i]? = some data) :
    ∀ x ∈ MemoryView.news v.image ⟨p.start i, data⟩, ∃ change, x = .feed (.changed change) := by
  have hle := start_add_le hchunk
  have haddress : (p.start i).toUInt16.toNat = p.start i := by
    rw [UInt16.toNat_ofNat']
    omega
  have hfits : (p.start i).toUInt16.toNat + data.length ≤ v.image.size := by
    rw [haddress, hv.reflects.size_eq]
    exact hle
  intro x hx
  rw [MemoryView.news, MemoryImage.apply_of_le hfits] at hx
  obtain ⟨change, -, rfl⟩ := List.mem_map.1 hx
  exact ⟨change, rfl⟩

/-- The chunk that is waited for takes the download a chunk further, or to its end. -/
lemma InSync.sound_of_chunk (hv : p.InSync v) (hnotes : v.notes = [])
    (hcount : p.chunks.length ≤ 256) (hsize : memory.length < 65536) {expected next : UInt8}
    {offset : Nat} (hprogress : v.progress = some (expected, offset)) {data : Octets}
    (hnumbers : p.Numbers expected next data) {told : List Effect}
    (htold : ∀ x ∈ told, x = .feed .downloadComplete) :
    p.Sound (if v.image.size ≤ offset + data.length then
      { v.write ⟨offset, data⟩ with
        progress := none
        notes := (v.write ⟨offset, data⟩).notes ++ told }
      else { v.write ⟨offset, data⟩ with progress := some (next, offset + data.length) }) := by
  obtain ⟨i, hchunk, rfl, rfl, hknown⟩ := hv.exists_index hcount hprogress hnumbers
  obtain ⟨hreflects, hfurther⟩ := hv.write hchunk hknown
  have hnews : ∀ x ∈ (v.write ⟨p.start i, data⟩).notes, ∃ change, x = .feed (.changed change) := by
    rw [MemoryView.write, hnotes, List.nil_append]
    exact hv.exists_of_mem_news hsize hchunk
  rw [← start_succ hchunk, hv.reflects.size_eq]
  split
  · rename_i hdone
    refine ⟨⟨hreflects, by simp⟩, fun address length hrefused => ?_, fun _ => ?_⟩
    · rcases List.mem_append.1 hrefused with hrefused | hrefused
      · obtain ⟨change, hchange⟩ := hnews _ hrefused
        cases hchange
      · cases htold _ hrefused
    · exact hreflects.cells_eq fun index hindex => hfurther index (hindex.trans_le hdone)
  · rename_i hopen
    refine ⟨⟨hreflects, ?_⟩, fun address length hrefused => ?_, fun hreport => ?_⟩
    · rintro q ⟨rfl⟩
      have hi : i + 1 < p.chunks.length := lt_of_start_lt (not_le.1 hopen)
      exact ⟨i + 1, by omega, rfl, hfurther⟩
    · obtain ⟨change, hchange⟩ := hnews _ hrefused
      cases hchange
    · obtain ⟨change, hchange⟩ := hnews _ hreport
      cases hchange

end Partition

/-! ## Runs -/

namespace Host

variable {memory : Octets} {p : Partition memory}

/-- **A step of a run keeps the image in sync** with a device whose packages it gets. -/
theorem Entry.sound {e : Entry} (he : (e.before.connection.view []).IsAddressable)
    (hcount : p.chunks.length ≤ 256)
    (hadmits : ∀ package, e.happening.occasion = .arrive package → p.Admits package)
    (hsync : p.InSync (e.before.connection.view [])) :
    p.Sound (e.after.connection.view (e.effects.filter Effect.isMemoryNote)) := by
  have hsize : memory.length < 65536 := hsync.reflects.size_eq ▸ he.size_lt
  have hstep := e.memoryStep he
  cases hchunk : e.chunk? with
  | none =>
    have hpushed : e.pushed = [] := by
      unfold Entry.pushed
      cases hinput : e.input? with
      | none => rfl
      | some input =>
        refine Connection.pushed_eq_nil fun package hpackage => hadmits package ?_
        exact Entry.occasion_of_input? (hinput.trans (congrArg some hpackage))
    rw [hpushed, hchunk] at hstep
    exact hsync.sound_of_none rfl hstep
  | some u =>
    obtain ⟨input, hinput, hchunk⟩ := Option.bind_eq_some_iff.1 hchunk
    obtain ⟨source, destination, payload, next, download, rfl, haccepts, hdownload, hparse, -⟩ :=
      Connection.exists_of_chunk? hchunk
    have hnumbers : p.Numbers download.expected next u.data := by
      have harrived := hadmits _ (Entry.occasion_of_input? hinput)
      rwa [Partition.Admits, hparse] at harrived
    have hprogress : (e.before.connection.view []).progress =
        some (download.expected, download.offset) :=
      Connection.progress_view_eq_some_iff.2 ⟨download, hdownload, rfl, rfl⟩
    have hoffset : download.offset < 65536 := by
      have hle := he.progress_le _ hprogress
      have hlt := he.size_lt
      dsimp only at hle
      omega
    rw [e.view_after, turn, hinput]
    dsimp only
    rw [Connection.view_react_chunk e.happening.moment haccepts hdownload hoffset hparse]
    refine hsync.sound_of_chunk rfl hcount hsize hprogress hnumbers ?_
    split <;> simp

/-- Over a run the image stays in sync. -/
lemma sound_run (hcount : p.chunks.length ≤ 256) (happenings : List Happening)
    (hadmits : ∀ happening ∈ happenings, ∀ package,
      happening.occasion = .arrive package → p.Admits package)
    {h : Host} (hh : (h.connection.view []).IsAddressable)
    (hsync : p.InSync (h.connection.view [])) :
    p.InSync ((h.run happenings).connection.view []) ∧ ∀ e ∈ h.history happenings,
      p.Sound (e.after.connection.view (e.effects.filter Effect.isMemoryNote)) := by
  induction happenings generalizing h with
  | nil => exact ⟨hsync, by simp [history]⟩
  | cons happening happenings ih =>
    rw [List.forall_mem_cons] at hadmits
    set e : Entry := ⟨h, happening⟩
    have hsound := Entry.sound (e := e) hh hcount hadmits.1 hsync
    have hafter : p.InSync (e.after.connection.view []) :=
      ⟨hsound.inSync.reflects, hsound.inSync.progress⟩
    obtain ⟨hend, hrest⟩ := ih hadmits.2 (e.isAddressable_after hh) hafter
    exact ⟨hend, List.forall_mem_cons.2 ⟨hsound, hrest⟩⟩

/-- **Downloads are sound over a bad network.**  A device cuts its memory into at most 256 chunks
and numbers them, and it does not push.  Whatever of this arrives, in whatever order, how often and
how late, and whatever else happens to the connection: all that the image knows is right, no update
is refused, and whenever a download is reported to be complete the image is the memory. -/
theorem image_reflects_memory (config : GatewayConfig) (size : UInt16) (key : Octets) (m : Moment)
    {memory : Octets} (p : Partition memory) (hsize : memory.length = size.toNat)
    (hcount : p.chunks.length ≤ 256) (happenings : List Happening)
    (hadmits : ∀ happening ∈ happenings, ∀ package,
      happening.occasion = .arrive package → p.Admits package) :
    ∃ h, startAt { config with memorySize := some size } key m = .ok h ∧
      (∀ (index : Nat) (b : UInt8),
        (h.run happenings).connection.image.cells[index]? = some (some b) →
          memory[index]? = some b) ∧
      (∀ address length, .feed (.outOfBounds address length) ∉ (h.run happenings).log) ∧
      ∀ e ∈ h.history happenings, .feed .downloadComplete ∈ e.effects →
        e.after.connection.image.cells = memory.map some := by
  have hmemory : ({ config with memorySize := some size } : GatewayConfig).memorySize = some size :=
    rfl
  obtain ⟨h, hstart, himage, hdownload, answers, hlog, hall⟩ := startAt_eq_ok hmemory key m
  have hh : (h.connection.view []).IsAddressable := isAddressable_of_empty himage hdownload
  have hsync : p.InSync (h.connection.view []) := by
    refine ⟨?_, by simp [Connection.view, hdownload]⟩
    rw [Connection.view, himage, ← hsize]
    exact MemoryImage.reflects_empty memory
  obtain ⟨hend, hsteps⟩ := sound_run hcount happenings hadmits hh hsync
  refine ⟨h, hstart, hend.reflects.faithful, fun address length hrefused => ?_,
    fun e he hreport => (hsteps e he).isWhole (List.mem_filter.2 ⟨hreport, rfl⟩)⟩
  rw [log_run, hlog, List.mem_append, List.mem_cons, List.mem_flatMap] at hrefused
  rcases hrefused with (hfirst | hanswer) | ⟨e, he, hrefused⟩
  · cases hfirst
  · exact hall _ hanswer
  · exact (hsteps e he).inBounds address length (List.mem_filter.2 ⟨hrefused, rfl⟩)

/-- The second chunk overtakes the first, which comes twice: the download is complete when the
second comes again. -/
theorem image_of_overtaken_chunks :
    let chunk (seq next : UInt8) (data : Octets) : Happening :=
      ⟨.arrive (.authorized none none (.data (Payload.statusChunk seq next data).compose)),
        { now := 0 }⟩
    let happenings : List Happening :=
      [⟨.arrive (.hello (Octets.ofChars ['i', 'd', '|', 's', 'p', 'a'])), { now := 0 }⟩,
        chunk 1 2 [3, 4], chunk 0 1 [1, 2], chunk 0 1 [1, 2], chunk 1 2 [3, 4]]
    ∃ h, startAt { memorySize := some 4 } [] { now := 0 } = .ok h ∧
      ∃ earlier e, h.history happenings = earlier ++ [e] ∧
        .feed .downloadComplete ∈ e.effects ∧
        e.after.connection.image.cells = [1, 2, 3, 4].map some := by
  intro chunk happenings
  let p : Partition [1, 2, 3, 4] := ⟨[[1, 2], [3, 4]], by decide, by decide, rfl⟩
  have hfirst : p.Admits (.authorized none none (.data (Payload.statusChunk 0 1 [1, 2]).compose)) :=
    ⟨0, rfl, rfl, rfl⟩
  have hsecond : p.Admits
      (.authorized none none (.data (Payload.statusChunk 1 2 [3, 4]).compose)) :=
    ⟨1, rfl, rfl, rfl⟩
  have hadmits : ∀ happening ∈ happenings, ∀ package,
      happening.occasion = .arrive package → p.Admits package := by
    simp only [happenings, chunk, List.forall_mem_cons, Occasion.arrive.injEq, forall_eq']
    exact ⟨trivial, hsecond, hfirst, hfirst, hsecond, by simp⟩
  obtain ⟨h, hstart, -, -, hwhole⟩ := image_reflects_memory {} 4 [] { now := 0 } p rfl (by decide)
    happenings hadmits
  obtain rfl := Except.ok.inj hstart
  refine ⟨_, hstart, [_, _, _, _], _, rfl, ?report, hwhole _ ?mem ?report⟩
  case report => decide +kernel
  case mem => exact List.mem_append_right [_, _, _, _] (List.mem_singleton_self _)

end Host

end SpaGateway
