import Mathlib.Tactic
import SpaGateway.Proofs.Connection.MemoryView
import SpaGateway.Proofs.Connection.Run

/-!
# The image of a connection over a run

A connection keeps a memory image, and its feed tells what changed in it.  Over every run, the image
is what the updates of the packages make of an empty one, in the order of their arrival, and the
feed tells all of it: whoever applies the changes that were fed gets the same image.

Both go by induction over the steps of a run.  Each of them is one of the steps of `MemoryStep`
(`Entry.memoryStep`), which absorbs its updates (`MemoryStep.image_eq`) and tells of them
(`MemoryStep.tells`).
-/

namespace SpaGateway

/-! ## The updates of a step -/

namespace Host.Entry

variable (e : Host.Entry)

/-- The updates of a step that takes a push. -/
def pushed : List MemoryUpdate :=
  match e.input? with
  | some input => e.before.connection.pushed input
  | none => []

/-- The update of a step that takes a chunk. -/
def chunk? : Option MemoryUpdate := e.input?.bind e.before.connection.chunk?

/-- The updates of a step, in order. -/
def updates : List MemoryUpdate := e.pushed ++ e.chunk?.toList

end Host.Entry

namespace Effect

/-- The change of the image that was fed, if this was one. -/
def change? : Effect → Option MemoryChange
  | feed (.changed change) => some change
  | _ => none

lemma filterMap_change?_filter (effects : List Effect) :
    (effects.filter isMemoryNote).filterMap change? = effects.filterMap change? := by
  rw [List.filterMap_filter]
  congr 1
  funext effect
  rcases effect with ⟨purpose, -, -⟩ | event | -
  · cases purpose <;> rfl
  · cases event <;> rfl
  · rfl

lemma IsAnswer.isQueueWork {effect : Effect} (h : effect.IsAnswer) : effect.IsQueueWork := by
  cases effect with
  | answer => trivial
  | send | feed => exact h.elim

end Effect

/-! ## What the feed tells -/

/-- `v'` continues `v`, and whoever applies the changes that were told in between to the image of
`v` gets that of `v'`. -/
def MemoryView.Tells (v v' : MemoryView) : Prop :=
  ∃ told, v'.notes = v.notes ++ told ∧
    v.image.replay (told.filterMap Effect.change?) = .ok v'.image

namespace MemoryView

variable {v v' v'' : MemoryView}

lemma tells_of_quiet (himage : v'.image = v.image) {told : List Effect}
    (hnotes : v'.notes = v.notes ++ told) (htold : told.filterMap Effect.change? = []) :
    v.Tells v' :=
  ⟨told, hnotes, by rw [htold, himage, MemoryImage.replay_nil]⟩

lemma Tells.trans (h : v.Tells v') (h' : v'.Tells v'') : v.Tells v'' := by
  obtain ⟨told, hnotes, hreplay⟩ := h
  obtain ⟨told', hnotes', hreplay'⟩ := h'
  refine ⟨told ++ told', by rw [hnotes', hnotes, List.append_assoc], ?_⟩
  rw [List.filterMap_append, MemoryImage.replay_append hreplay, hreplay']

lemma tells_write (v : MemoryView) {u : MemoryUpdate} (hsize : v.image.size < 65536)
    (hposition : u.position < 65536) : v.Tells (v.write u) := by
  refine ⟨news v.image u, rfl, ?_⟩
  have haddress : u.position.toUInt16.toNat = u.position := by
    simp [Nat.mod_eq_of_lt hposition]
  rcases v.image.apply_eq u.position.toUInt16 u.data with
    ⟨changes, happly⟩ | ⟨⟨e, happly⟩, -, habsorb⟩
  · have hchanges : (changes.map fun change => Effect.feed (.changed change)).filterMap
        Effect.change? = changes := by
      rw [List.filterMap_map]
      exact List.filterMap_some
    rw [news, happly, hchanges, MemoryImage.replay_apply hsize.le happly, haddress]
    rfl
  · rw [haddress] at habsorb
    rw [news, happly, write, habsorb]
    rfl

lemma tells_foldl_write (v : MemoryView) {updates : List MemoryUpdate}
    (hsize : v.image.size < 65536) (hpositions : ∀ u ∈ updates, u.position < 65536) :
    v.Tells (updates.foldl write v) := by
  induction updates generalizing v with
  | nil => exact tells_of_quiet rfl (List.append_nil _).symm rfl
  | cons u updates ih =>
    rw [List.forall_mem_cons] at hpositions
    refine (v.tells_write hsize hpositions.1).trans (ih _ ?_ hpositions.2)
    rwa [write, MemoryImage.size_absorb]

end MemoryView

namespace MemoryStep

variable {v v' : MemoryView} {pushed : List MemoryUpdate} {chunk? : Option MemoryUpdate}

/-- A step absorbs its updates, whatever else it does. -/
lemma image_eq (h : MemoryStep v pushed chunk? v') :
    v'.image = (pushed ++ chunk?.toList).foldl MemoryImage.absorb v.image := by
  have hwrite (updates : List MemoryUpdate) (v : MemoryView) :
      (updates.foldl MemoryView.write v).image = updates.foldl MemoryImage.absorb v.image := by
    induction updates generalizing v with
    | nil => rfl
    | cons u updates ih => rw [List.foldl_cons, ih, List.foldl_cons, MemoryView.write]
  cases h with
  | push => rw [hwrite, Option.toList_none, List.append_nil]
  | rest | abandon | request | chunk | lastChunk => rfl

lemma tells (h : MemoryStep v pushed chunk? v') (hv : v.IsAddressable) : v.Tells v' := by
  have hchunk {expected : UInt8} {offset : Nat} (data : Octets)
      (hprogress : v.progress = some (expected, offset)) : v.Tells (v.write ⟨offset, data⟩) := by
    refine v.tells_write hv.size_lt ?_
    have hle := hv.progress_le _ hprogress
    have hsize := hv.size_lt
    dsimp only at hle ⊢
    omega
  cases h with
  | rest => exact MemoryView.tells_of_quiet rfl (List.append_nil _).symm rfl
  | abandon => exact MemoryView.tells_of_quiet rfl (List.append_nil _).symm rfl
  | request => exact MemoryView.tells_of_quiet rfl rfl rfl
  | push changes =>
    refine v.tells_foldl_write hv.size_lt ?_
    simpa [StatusChange.update] using fun change _ => change.position.toNat_lt
  | chunk next data progress_eq =>
    exact (hchunk data progress_eq).trans
      (MemoryView.tells_of_quiet rfl (List.append_nil _).symm rfl)
  | lastChunk data progress_eq isDone told_eq =>
    refine (hchunk data progress_eq).trans (MemoryView.tells_of_quiet rfl rfl ?_)
    rcases told_eq with rfl | rfl <;> rfl

end MemoryStep

/-! ## Whole runs -/

namespace Host

/-- What a step does to the image is what the turn of the connection does. -/
lemma Entry.view_after (e : Entry) :
    e.after.connection.view (e.effects.filter Effect.isMemoryNote) = e.turn.view := by
  obtain ⟨⟨queue, translator, hc⟩, answers, heffects, hall⟩ := e.spec
  have hanswers : answers.filter Effect.isMemoryNote = [] :=
    Effect.filter_isMemoryNote_of_isQueueWork fun x hx => (hall x hx).isQueueWork
  rw [hc, heffects, List.filter_append, hanswers, List.append_nil]
  rfl

/-- A step of a run is one of the memory steps, with the updates that count. -/
theorem Entry.memoryStep (e : Entry) (he : (e.before.connection.view []).IsAddressable) :
    MemoryStep (e.before.connection.view []) e.pushed e.chunk?
      (e.after.connection.view (e.effects.filter Effect.isMemoryNote)) := by
  rw [e.view_after, turn, pushed, chunk?]
  cases e.input? with
  | none => exact .rest
  | some input => exact Connection.memoryStep_react _ _ he input

lemma Entry.isAddressable_after {e : Entry} (he : (e.before.connection.view []).IsAddressable) :
    (e.after.connection.view []).IsAddressable := by
  obtain ⟨hsize, hprogress⟩ := (e.memoryStep he).isAddressable he
  exact ⟨hsize, hprogress⟩

lemma isAddressable_run {h : Host} (hh : (h.connection.view []).IsAddressable)
    (happenings : List Happening) : ((h.run happenings).connection.view []).IsAddressable := by
  induction happenings generalizing h with
  | nil => exact hh
  | cons happening happenings ih =>
    exact ih (Entry.isAddressable_after (e := ⟨h, happening⟩) hh)

/-- A chunk belongs where the image can be addressed. -/
lemma Entry.position_lt_of_chunk? {e : Entry} (he : (e.before.connection.view []).IsAddressable)
    {u : MemoryUpdate} (hchunk : e.chunk? = some u) : u.position < 65536 := by
  obtain ⟨input, -, hchunk⟩ := Option.bind_eq_some_iff.1 hchunk
  obtain ⟨source, destination, payload, next, download, -, -, hdownload, -, hu⟩ :=
    Connection.exists_of_chunk? hchunk
  have hposition : u.position = download.offset := congrArg MemoryUpdate.position hu
  have hle := he.progress_le (download.expected, download.offset)
    (Connection.progress_view_eq_some_iff.2 ⟨download, hdownload, rfl, rfl⟩)
  have hsize := he.size_lt
  dsimp only at hle
  omega

/-- The feed of a step tells what the step did to the image. -/
lemma Entry.replay_eq {e : Entry} (he : (e.before.connection.view []).IsAddressable) :
    e.before.connection.image.replay (e.effects.filterMap Effect.change?) =
      .ok e.after.connection.image := by
  obtain ⟨told, htold, hreplay⟩ := (e.memoryStep he).tells he
  have htold' : e.effects.filter Effect.isMemoryNote = told := htold
  rw [← Effect.filterMap_change?_filter, htold']
  exact hreplay

/-- What a run does to the image, from wherever it starts. -/
lemma image_run_and_replay (happenings : List Happening) {h : Host}
    (hh : (h.connection.view []).IsAddressable) :
    (h.run happenings).connection.image =
        ((h.history happenings).flatMap Entry.updates).foldl MemoryImage.absorb
          h.connection.image ∧
      h.connection.image.replay
          (((h.history happenings).flatMap Entry.effects).filterMap Effect.change?) =
        .ok (h.run happenings).connection.image := by
  induction happenings generalizing h with
  | nil => exact ⟨rfl, rfl⟩
  | cons happening happenings ih =>
    set e : Entry := ⟨h, happening⟩
    obtain ⟨himage, hreplay⟩ := ih (e.isAddressable_after hh)
    have hafter : e.after.connection.image =
        e.updates.foldl MemoryImage.absorb h.connection.image := (e.memoryStep hh).image_eq
    have hhistory : h.history (happening :: happenings) = e :: e.after.history happenings := rfl
    rw [hhistory, List.flatMap_cons, List.flatMap_cons, List.foldl_append, List.filterMap_append,
      MemoryImage.replay_append (e.replay_eq hh), ← hafter]
    exact ⟨himage, hreplay⟩

/-- A run starts with an image that can be addressed. -/
lemma isAddressable_of_empty {c : Connection} {size : UInt16}
    (himage : c.image = .empty size.toNat) (hdownload : c.download = none) :
    (c.view []).IsAddressable :=
  ⟨by simpa [Connection.view, himage] using size.toNat_lt, by simp [Connection.view, hdownload]⟩

/-- **The image and the feed agree with the traffic.**  Over every run of a connection, of whatever
memory size, the image is what the updates that count make of an empty image, each one skipped that
runs past the end, and whoever replays the changes that the feed tells on an empty image gets it
too. -/
theorem image_eq_foldl_absorb_and_replay (config : GatewayConfig) (size : UInt16) (key : Octets)
    (m : Moment) (happenings : List Happening) :
    ∃ h, startAt { config with memorySize := some size } key m = .ok h ∧
      (h.run happenings).connection.image =
        ((h.history happenings).flatMap Entry.updates).foldl MemoryImage.absorb
          (.empty size.toNat) ∧
      (MemoryImage.empty size.toNat).replay ((h.run happenings).log.filterMap Effect.change?) =
        .ok (h.run happenings).connection.image := by
  have hsize : ({ config with memorySize := some size } : GatewayConfig).memorySize = some size :=
    rfl
  obtain ⟨h, hstart, himage, hdownload, answers, hlog, hall⟩ := startAt_eq_ok hsize key m
  refine ⟨h, hstart, ?_⟩
  have hh : (h.connection.view []).IsAddressable := isAddressable_of_empty himage hdownload
  have hanswers : answers.filterMap Effect.change? = [] := by
    rw [← Effect.filterMap_change?_filter,
      Effect.filter_isMemoryNote_of_isQueueWork fun x hx => (hall x hx).isQueueWork]
    rfl
  have hfirst : h.log.filterMap Effect.change? = [] := by
    rw [hlog, List.filterMap_cons, hanswers]
    rfl
  rw [log_run, List.filterMap_append, hfirst, List.nil_append, ← himage]
  exact image_run_and_replay happenings hh

end Host

end SpaGateway
