import Mathlib.Tactic
import SpaGateway.Proofs.Connection.Mirror

/-!
# When a download is complete

A download goes on until its chunks have come to the end of the image, and is then reported to be
complete.  The chunks are counted by their lengths.  A chunk that runs past the end is refused as a
whole, yet it counts, so the report may come while the end of the image is still missing.

`FilledTo` says what the chunks of a download have achieved when they stand at an index, and
`underway_run` that over every run the download under way is filled to where it stands by the
chunks since its request.  `isComplete_of_report_iff` gives the exact condition under which the
report is true: the last chunk ends with the image, or there is no cell to be written.
-/

namespace SpaGateway

/-! ## How far chunks have come -/

/-- Chunks fill an image up to an index: none of them runs past it, and all before it is covered by
them and known to the image. -/
structure MemoryImage.FilledTo (image : MemoryImage) (chunks : List MemoryUpdate) (stop : Nat) :
    Prop where
  stop_le : ∀ u ∈ chunks, u.stop ≤ stop
  covered : ∀ index < stop, ∃ u ∈ chunks, u.Covers index
  known : ∀ index < stop, image.Knows index

namespace MemoryImage

variable {image : MemoryImage} {chunks : List MemoryUpdate} {stop : Nat}

lemma filledTo_nil (image : MemoryImage) : image.FilledTo [] 0 :=
  ⟨by simp, by simp, by simp⟩

lemma FilledTo.absorb (h : image.FilledTo chunks stop) (u : MemoryUpdate) :
    (image.absorb u).FilledTo chunks stop :=
  ⟨h.stop_le, h.covered, fun index hindex => (h.known index hindex).absorb u⟩

lemma FilledTo.foldl_absorb (h : image.FilledTo chunks stop) (updates : List MemoryUpdate) :
    (updates.foldl MemoryImage.absorb image).FilledTo chunks stop := by
  induction updates generalizing image with
  | nil => exact h
  | cons u updates ih => exact ih (h.absorb u)

/-- A chunk that fits takes the image a step further. -/
lemma FilledTo.append (h : image.FilledTo chunks stop) {data : Octets}
    (hfits : stop + data.length ≤ image.size) :
    (image.absorb ⟨stop, data⟩).FilledTo (chunks ++ [⟨stop, data⟩]) (stop + data.length) := by
  refine ⟨?_, ?_, ?_⟩
  · intro u hu
    rcases List.mem_append.1 hu with hu | hu
    · exact (h.stop_le u hu).trans (Nat.le_add_right _ _)
    · obtain rfl := List.mem_singleton.1 hu
      exact le_rfl
  · intro index hindex
    rcases Nat.lt_or_ge index stop with hbefore | hafter
    · obtain ⟨u, hu, hcovers⟩ := h.covered index hbefore
      exact ⟨u, List.mem_append_left _ hu, hcovers⟩
    · exact ⟨_, List.mem_append_right _ (List.mem_singleton_self _), hafter, hindex⟩
  · intro index hindex
    rcases Nat.lt_or_ge index stop with hbefore | hafter
    · exact (h.known index hbefore).absorb _
    · exact knows_absorb hfits ⟨hafter, hindex⟩

/-- A chunk that comes to the end of the image completes it if it fits, or if there was nothing to
complete. -/
lemma FilledTo.isComplete_absorb_iff (h : image.FilledTo chunks stop)
    (hstop : stop = 0 ∨ stop < image.size) {data : Octets}
    (hdone : image.size ≤ stop + data.length) :
    ((image.absorb ⟨stop, data⟩).isComplete = true ∧
        ∀ index < image.size, ∃ u ∈ chunks ++ [⟨stop, data⟩],
          u.stop ≤ image.size ∧ u.Covers index) ↔
      stop + data.length ≤ image.size ∨ image.size = 0 := by
  constructor
  · rintro ⟨-, hwritten⟩
    by_contra! hneither
    obtain ⟨hoverrun, hpos⟩ := hneither
    -- where the last chunk begins, no earlier one has come, and it was refused itself
    obtain ⟨u, hu, hfits, -, hcovers⟩ := hwritten stop (by omega)
    rcases List.mem_append.1 hu with hu | hu
    · exact absurd (h.stop_le u hu) (by omega)
    · obtain rfl := List.mem_singleton.1 hu
      exact absurd hfits (by simpa [MemoryUpdate.stop] using hoverrun)
  · rintro (hfits | hzero)
    · have hfilled := h.append hfits
      refine ⟨isComplete_iff.2 fun index hindex => hfilled.known index ?_, ?_⟩
      · rw [size_absorb] at hindex
        omega
      · intro index hindex
        obtain ⟨u, hu, hcovers⟩ := hfilled.covered index (by omega)
        exact ⟨u, hu, (hfilled.stop_le u hu).trans hfits, hcovers⟩
    · refine ⟨isComplete_iff.2 fun index hindex => ?_, fun index hindex => ?_⟩
      · rw [size_absorb] at hindex
        omega
      · omega

end MemoryImage

/-! ## One step of a download -/

/-- Whether a download is requested among some effects. -/
def RequestsDownload (effects : List Effect) : Prop :=
  ∃ package fault, Effect.send .download package fault ∈ effects

/-- Whether an effect tells of an update. -/
def Effect.IsNews : Effect → Prop
  | feed (.changed _) | feed (.outOfBounds _ _) => True
  | _ => False

lemma not_requestsDownload_of_isNews {effects : List Effect} (h : ∀ x ∈ effects, x.IsNews) :
    ¬ RequestsDownload effects := by
  rintro ⟨package, fault, hmem⟩
  exact h _ hmem

namespace MemoryView

lemma isNews_of_mem_write {v : MemoryView} (hv : ∀ x ∈ v.notes, x.IsNews) (u : MemoryUpdate) :
    ∀ x ∈ (v.write u).notes, x.IsNews := by
  intro x hx
  rcases List.mem_append.1 hx with hx | hx
  · exact hv x hx
  · unfold news at hx
    split at hx
    · obtain ⟨change, -, rfl⟩ := List.mem_map.1 hx
      trivial
    · obtain rfl := List.mem_singleton.1 hx
      trivial

lemma isNews_of_mem_foldl_write (updates : List MemoryUpdate) {v : MemoryView}
    (hv : ∀ x ∈ v.notes, x.IsNews) : ∀ x ∈ (updates.foldl write v).notes, x.IsNews := by
  induction updates generalizing v with
  | nil => exact hv
  | cons u updates ih => exact ih (isNews_of_mem_write hv u)

end MemoryView

namespace MemoryStep

variable {v v' : MemoryView} {pushed : List MemoryUpdate} {chunk? : Option MemoryUpdate}

/-- If a download is under way after a step, then it was requested in the step, or it was under way
before and the step took it as far as its chunk goes. -/
lemma progress_cases (h : MemoryStep v pushed chunk? v') (hv : v.notes = [])
    {expected' : UInt8} {offset' : Nat} (hprogress : v'.progress = some (expected', offset')) :
    RequestsDownload v'.notes ∧ offset' = 0 ∨
      ¬ RequestsDownload v'.notes ∧ ∃ expected offset, v.progress = some (expected, offset) ∧
        ∀ chunks, v.image.FilledTo chunks offset →
          v'.image.FilledTo (chunks ++ chunk?.toList) offset' := by
  have hnews : ∀ x ∈ v.notes, x.IsNews := by simp [hv]
  cases h with
  | rest =>
    refine .inr ⟨not_requestsDownload_of_isNews hnews, _, _, hprogress, fun chunks hfilled => ?_⟩
    simpa using hfilled
  | abandon | lastChunk => cases hprogress
  | request package fault =>
    obtain ⟨-, rfl⟩ : 0 = expected' ∧ 0 = offset' := by
      simpa [MemoryView.request] using hprogress
    exact .inl ⟨⟨package, fault, by simp [MemoryView.request]⟩, rfl⟩
  | push changes =>
    rw [MemoryView.progress_foldl_write] at hprogress
    refine .inr ⟨not_requestsDownload_of_isNews (MemoryView.isNews_of_mem_foldl_write _ hnews),
      _, _, hprogress, fun chunks hfilled => ?_⟩
    have himage := (MemoryStep.push (v := v) changes).image_eq
    rw [himage, Option.toList_none, List.append_nil, List.append_nil]
    exact hfilled.foldl_absorb _
  | @chunk expected offset next data progress_eq isOpen =>
    obtain ⟨-, rfl⟩ : next = expected' ∧ offset + data.length = offset' := by
      simpa using hprogress
    refine .inr ⟨not_requestsDownload_of_isNews (MemoryView.isNews_of_mem_write hnews _),
      expected, offset, progress_eq, fun chunks hfilled => ?_⟩
    exact hfilled.append isOpen.le

/-- A download that is requested begins at the start. -/
lemma progress_of_requestsDownload (h : MemoryStep v pushed chunk? v') (hv : v.notes = [])
    (hrequest : RequestsDownload v'.notes) : v'.progress = some (0, 0) := by
  have hnews : ∀ x ∈ v.notes, x.IsNews := by simp [hv]
  cases h with
  | rest | abandon => exact (not_requestsDownload_of_isNews hnews hrequest).elim
  | request => rfl
  | push =>
    refine (not_requestsDownload_of_isNews ?_ hrequest).elim
    exact MemoryView.isNews_of_mem_foldl_write _ hnews
  | chunk =>
    refine (not_requestsDownload_of_isNews ?_ hrequest).elim
    exact MemoryView.isNews_of_mem_write hnews _
  | lastChunk data _ _ told_eq =>
    obtain ⟨package, fault, hmem⟩ := hrequest
    rcases List.mem_append.1 hmem with hmem | hmem
    · exact (MemoryView.isNews_of_mem_write hnews _ _ hmem).elim
    · rcases told_eq with rfl | rfl <;> simp at hmem

/-- A download is reported with its last chunk only. -/
lemma eq_of_report (h : MemoryStep v pushed chunk? v') (hv : v.notes = [])
    (hreport : .feed .downloadComplete ∈ v'.notes) :
    ∃ expected offset data, v.progress = some (expected, offset) ∧
      chunk? = some ⟨offset, data⟩ ∧ v.image.size ≤ offset + data.length ∧
      v'.image = v.image.absorb ⟨offset, data⟩ := by
  have hnews : ∀ x ∈ v.notes, x.IsNews := by simp [hv]
  cases h with
  | rest => exact (hnews _ hreport).elim
  | abandon => exact (hnews _ hreport).elim
  | request => simp [MemoryView.request, hv] at hreport
  | push => exact (MemoryView.isNews_of_mem_foldl_write _ hnews _ hreport).elim
  | chunk => exact (MemoryView.isNews_of_mem_write hnews _ _ hreport).elim
  | lastChunk data progress_eq isDone => exact ⟨_, _, data, progress_eq, rfl, isDone, rfl⟩

end MemoryStep

/-! ## Downloads in a run -/

namespace Host

/-- `since` are the steps after the last request of a download in the past. -/
def AfterRequest (past since : List Entry) : Prop :=
  ∃ before request, past = before ++ request :: since ∧ RequestsDownload request.effects ∧
    ∀ e ∈ since, ¬ RequestsDownload e.effects

lemma AfterRequest.append {past since : List Entry} (h : AfterRequest past since) {e : Entry}
    (he : ¬ RequestsDownload e.effects) : AfterRequest (past ++ [e]) (since ++ [e]) := by
  obtain ⟨before, request, rfl, hrequest, hnone⟩ := h
  refine ⟨before, request, by simp, hrequest, ?_⟩
  intro x hx
  rcases List.mem_append.1 hx with hx | hx
  · exact hnone x hx
  · rwa [List.mem_singleton.1 hx]

lemma afterRequest_of_requests (past : List Entry) {e : Entry} (he : RequestsDownload e.effects) :
    AfterRequest (past ++ [e]) [] :=
  ⟨past, e, rfl, he, by simp⟩

/-- The download under way, if there is one, was requested in the past, and the chunks since then
have filled the image up to where it stands. -/
def Underway (past : List Entry) (c : Connection) : Prop :=
  ∀ d ∈ c.download, ∃ since, AfterRequest past since ∧
    c.image.FilledTo (since.filterMap Entry.chunk?) d.offset

lemma requestsDownload_filter {effects : List Effect} :
    RequestsDownload (effects.filter Effect.isMemoryNote) ↔ RequestsDownload effects := by
  simp [RequestsDownload, Effect.isMemoryNote]

/-- Each step goes on from where the download stands. -/
lemma underway_append {past : List Entry} {e : Entry}
    (he : (e.before.connection.view []).IsAddressable) (h : Underway past e.before.connection) :
    Underway (past ++ [e]) e.after.connection := by
  intro d' hd'
  have hprogress : (e.after.connection.view (e.effects.filter Effect.isMemoryNote)).progress =
      some (d'.expected, d'.offset) :=
    Connection.progress_view_eq_some_iff.2 ⟨d', hd', rfl, rfl⟩
  rcases (e.memoryStep he).progress_cases rfl hprogress with
    ⟨hrequest, hoffset⟩ | ⟨hnone, expected, offset, hbefore, hfill⟩
  · refine ⟨[], afterRequest_of_requests past (requestsDownload_filter.1 hrequest), ?_⟩
    rw [hoffset]
    exact MemoryImage.filledTo_nil _
  · obtain ⟨d, hd, -, rfl⟩ := Connection.progress_view_eq_some_iff.1 hbefore
    obtain ⟨since, hsince, hfilled⟩ := h d hd
    refine ⟨since ++ [e], hsince.append (mt requestsDownload_filter.2 hnone), ?_⟩
    have hchunks : (since ++ [e]).filterMap Entry.chunk? =
        since.filterMap Entry.chunk? ++ e.chunk?.toList := by
      cases hchunk : e.chunk? <;> simp [hchunk]
    rw [hchunks]
    exact hfill _ hfilled

/-- **Over every run, the chunks since its request have filled the image up to where the download
stands.** -/
theorem underway_run {h : Host} (hh : (h.connection.view []).IsAddressable)
    (hdownload : h.connection.download = none) (happenings : List Happening) :
    Underway (h.history happenings) (h.run happenings).connection := by
  induction happenings using List.reverseRecOn with
  | nil => simp [Underway, history, hdownload]
  | append_singleton happenings happening ih =>
    rw [history_concat, run_append]
    exact underway_append (e := ⟨h.run happenings, happening⟩) (isAddressable_run hh happenings) ih

/-- **When the report of a download is true.**  Whenever a download is reported complete, there is
the request that started it and the chunk that ended it.  The image is complete, and every cell
of it was written by a chunk since that request, exactly if that last chunk does not run past the
end, or there are no cells at all. -/
theorem isComplete_of_report_iff (config : GatewayConfig) (size : UInt16) (key : Octets)
    (m : Moment) (happenings : List Happening) {h : Host}
    (hstart : startAt { config with memorySize := some size } key m = .ok h)
    {earlier later : List Entry} {e : Entry}
    (hhistory : h.history happenings = earlier ++ e :: later)
    (hreport : .feed .downloadComplete ∈ e.effects) :
    ∃ since last, AfterRequest earlier since ∧ e.chunk? = some last ∧
      ((e.after.connection.image.isComplete ∧
          ∀ index < size.toNat, ∃ u ∈ since.filterMap Entry.chunk? ++ [last],
            u.stop ≤ size.toNat ∧ u.Covers index) ↔
        last.stop ≤ size.toNat ∨ size = 0) := by
  obtain ⟨h', hstart', himage, hdownload, -⟩ := startAt_eq_ok
    (show ({ config with memorySize := some size } : GatewayConfig).memorySize = some size from rfl)
    key m
  obtain rfl := Except.ok.inj (hstart.symm.trans hstart')
  have hh : (h.connection.view []).IsAddressable := isAddressable_of_empty himage hdownload
  obtain ⟨past, rfl, hbefore⟩ := exists_of_history_eq hhistory
  have haddressable := isAddressable_run hh past
  have hunderway := underway_run hh hdownload past
  have hsize : (h.run past).connection.image.size = size.toNat := by
    rw [(image_run_and_replay past hh).1, MemoryImage.size_foldl_absorb, himage,
      MemoryImage.size_empty]
  rw [← hbefore] at haddressable hunderway hsize
  obtain ⟨expected, offset, data, hprogress, hchunk, hdone, hafter⟩ :=
    (e.memoryStep haddressable).eq_of_report rfl (List.mem_filter.2 ⟨hreport, rfl⟩)
  obtain ⟨d, hd, -, rfl⟩ := Connection.progress_view_eq_some_iff.1 hprogress
  obtain ⟨since, hsince, hfilled⟩ := hunderway d hd
  have hzero : size.toNat = 0 ↔ size = 0 := by
    rw [← UInt16.toNat_inj]
    rfl
  refine ⟨since, ⟨d.offset, data⟩, hsince, hchunk, ?_⟩
  have hafter' : e.after.connection.image =
      e.before.connection.image.absorb ⟨d.offset, data⟩ := hafter
  rw [hafter', ← hzero, ← hsize]
  exact hfilled.isComplete_absorb_iff (haddressable.progress_le _ hprogress) hdone

/-- A spa answers the hello, and then sends one chunk. -/
def answerAndChunk (data : Octets) : List Happening :=
  [⟨.arrive (.hello (Octets.ofChars ['i', 'd', '|', 's', 'p', 'a'])), { now := 0 }⟩,
    ⟨.arrive (.authorized none none (.data (Payload.statusChunk 0 0 data).compose)), { now := 0 }⟩]

/-- A chunk that fits completes the image. -/
theorem isComplete_of_fitting_chunk :
    ∃ h, startAt { memorySize := some 4 } [] { now := 0 } = .ok h ∧
      ∃ earlier e, h.history (answerAndChunk [1, 2, 3, 4]) = earlier ++ [e] ∧
        .feed .downloadComplete ∈ e.effects ∧ e.after.connection.image.isComplete = true := by
  refine ⟨_, rfl, [_], _, rfl, by decide +kernel, ?_⟩
  obtain ⟨since, last, -, hlast, hiff⟩ := isComplete_of_report_iff {} 4 [] { now := 0 }
    (answerAndChunk [1, 2, 3, 4]) rfl (List.singleton_append ..).symm (by decide +kernel)
  have hfits : last.stop ≤ 4 := by
    cases hlast
    decide
  exact (hiff.2 (.inl hfits)).1

/-- A chunk that runs past the end is refused, and the download is still reported complete. -/
theorem not_isComplete_of_overrunning_chunk :
    ∃ h, startAt { memorySize := some 4 } [] { now := 0 } = .ok h ∧
      ∃ e ∈ h.history (answerAndChunk [1, 2, 3, 4, 5, 6]),
        .feed .downloadComplete ∈ e.effects ∧ e.after.connection.image.isComplete = false ∧
          e.after.connection.image = .empty 4 := by
  refine ⟨_, rfl, _, List.mem_cons_of_mem _ List.mem_cons_self, ?_, ?_, ?_⟩
  · decide +kernel
  · decide +kernel
  · decide +kernel

end Host

end SpaGateway
