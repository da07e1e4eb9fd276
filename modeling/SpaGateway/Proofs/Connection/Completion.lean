import Mathlib.Tactic
import SpaGateway.Proofs.Connection.Download
import SpaGateway.Proofs.Connection.Invariant
import SpaGateway.Proofs.Memory.Partition

/-!
# Downloads that get their chunks in order

A device cuts its memory into chunks, as many as it likes, and sends them in order when it is asked
for a download.  The numbers of the chunks are octets, so they come round again.  Other things
happen in between, as long as they leave the image and the download alone (`Entry.IsBeside`).

`Host.Awaits` says how far such a download has come: the beginning of the image is that of the
memory, and the chunk that comes next is waited for where it belongs.  A chunk that comes leads from
one to the next (`Awaits.after_chunk`) or, if it is the last, to the end.  The end is told unless
the next full download would be due beyond the clock's end, which `Host.download_completes_iff` says
exactly.
-/

namespace SpaGateway

/-! ## Steps of a download -/

namespace SyncStep

variable {c : Connection} {m : Moment} {v : SyncView} {d : Download}

/-- While a download is under way, only its chunks, an expiry, a stall and the close change it. -/
lemma download_eq {input : Input} (h : SyncStep c m input v)
    (hphase : c.session.phase = .authorized) (hdownload : c.download = some d)
    (hchunk : c.chunk? input = none) (hlasts : .expired ∉ v.events)
    (htimer : input = .timer → m.now < d.deadline) (hclose : input ≠ .close) :
    v.download = c.download ∧ .downloadComplete ∉ v.events := by
  cases h with
  | rest _ hnews => exact ⟨rfl, fun htold => by cases hnews _ htold⟩
  | version => exact ⟨rfl, by simp [Connection.syncView]⟩
  | authorize _ _ hphase' | timeOut hphase' => cases hphase.symm.trans hphase'
  | chunk haccepts hdownload' hparse =>
    cases hchunk.symm.trans (Connection.chunk?_of_parse? _ haccepts hdownload' hparse)
  | lastChunk haccepts hdownload' hparse =>
    cases hchunk.symm.trans (Connection.chunk?_of_parse? _ haccepts hdownload' hparse)
  | fallSilent => exact (hlasts List.mem_cons_self).elim
  | request _ hdue =>
    have hopen := htimer rfl
    rcases hdue with ⟨d', hd', hstalled⟩ | ⟨hnone, -⟩
    · obtain rfl := Option.some.inj (hdownload.symm.trans hd')
      omega
    · cases hdownload.symm.trans hnone
  | close => exact (hclose rfl).elim

/-- The chunk that is waited for takes the download further, or ends it. -/
lemma eq_of_chunk {source destination : Option Octets} {payload data : Octets} {next : UInt8}
    (h : SyncStep c m (.package (.authorized source destination (.data payload))) v)
    (haccepts : c.session.accepts destination = true) (hdownload : c.download = some d)
    (hparse : Payload.parse? payload = some (.statusChunk d.expected next data)) :
    ∃ news, (∀ x ∈ news, x.isNews = true) ∧
      v = if c.image.size ≤ d.offset + data.length then
        ((c.syncView news).finish m.now).feed
          (if m.now + c.fullStateInterval < clockEnd then [.downloadComplete] else [])
      else
        { c.syncView news with
          download := some ⟨next, d.offset + data.length, m.now + Connection.stallTimeout⟩ } := by
  have hchunk := Connection.chunk?_of_parse? source haccepts hdownload hparse
  cases h with
  | rest hnone | version _ hnone => cases hnone.symm.trans hchunk
  | @chunk _ _ _ data' d' next' news _ hdownload' hparse' hopen hnews =>
    obtain rfl := Option.some.inj (hdownload.symm.trans hdownload')
    obtain ⟨rfl, rfl⟩ : next = next' ∧ data = data' := by
      simpa using hparse.symm.trans hparse'
    exact ⟨news, hnews, (if_neg (not_le.2 hopen)).symm⟩
  | @lastChunk _ _ _ data' d' next' news _ hdownload' hparse' hdone hnews =>
    obtain rfl := Option.some.inj (hdownload.symm.trans hdownload')
    obtain ⟨rfl, rfl⟩ : next = next' ∧ data = data' := by
      simpa using hparse.symm.trans hparse'
    exact ⟨news, hnews, (if_pos hdone).symm⟩

end SyncStep

namespace Host

variable {memory : Octets} {p : Partition memory}

/-! ## What happens during a download -/

/-- A step that concerns neither the image nor the download under way. -/
structure Entry.IsBeside (e : Entry) : Prop where
  /-- It does not bring the chunk that is waited for. -/
  chunk?_eq : e.chunk? = none
  /-- It does not change the image. -/
  pushed_eq : e.pushed.foldl MemoryImage.absorb e.before.connection.image =
    e.before.connection.image
  /-- The session does not expire. -/
  lasts : .expired ∉ e.events
  /-- If the timer fires, then not because the download has stalled. -/
  inTime : e.happening.occasion = .timer →
    ∀ d ∈ e.before.connection.download, e.happening.moment.now < d.deadline
  /-- The connection is not stopped. -/
  goesOn : e.happening.occasion ≠ .stop

/-- A step that brings a chunk of a partition: the package is meant for the session, and bears the
number of the chunk and the next one. -/
def Entry.Brings (e : Entry) (p : Partition memory) (i : Nat) (data : Octets) : Prop :=
  p.chunks[i]? = some data ∧ ∃ source destination payload,
    e.input? = some (.package (.authorized source destination (.data payload))) ∧
      e.before.connection.session.isOther destination = false ∧
      Payload.parse? payload = some (.statusChunk i.toUInt8 (i + 1).toUInt8 data)

/-- In a run from a host, the chunks of a partition come in order from the one with a number on, and
the last one ends the run. -/
inductive Delivers (p : Partition memory) : Nat → Host → List Happening → Prop
  | last {i : Nat} {h : Host} {happening : Happening} {data : Octets}
    (brings : Entry.Brings ⟨h, happening⟩ p i data) (isLast : i + 1 = p.chunks.length) :
    Delivers p i h [happening]
  | next {i : Nat} {h : Host} {happening : Happening} {data : Octets} {rest : List Happening}
    (brings : Entry.Brings ⟨h, happening⟩ p i data)
    (delivers : Delivers p (i + 1) (h.happen happening) rest) :
    Delivers p i h (happening :: rest)
  | beside {i : Nat} {h : Host} {happening : Happening} {rest : List Happening}
    (isBeside : Entry.IsBeside ⟨h, happening⟩) (delivers : Delivers p i (h.happen happening) rest) :
    Delivers p i h (happening :: rest)

/-- A host whose download waits for a chunk of a partition, all before it being in the image. -/
structure Awaits (p : Partition memory) (i : Nat) (h : Host) : Prop where
  isOnSchedule : h.IsOnSchedule
  isAddressable : (h.connection.view []).IsAddressable
  size_eq : h.connection.image.size = memory.length
  holds : h.connection.image.HoldsUpTo memory (p.start i)
  download : ∃ d, h.connection.download = some d ∧ d.expected = i.toUInt8 ∧ d.offset = p.start i

namespace Awaits

variable {i : Nat} {e : Entry}

/-- While it runs, the connection is authorized. -/
lemma phase_eq {h : Host} (ha : Awaits p i h) (hrunning : h.isRunning = true) :
    h.connection.session.phase = .authorized := by
  by_contra hphase
  obtain ⟨hnone, -⟩ := (ha.isOnSchedule hrunning).1.idle hphase
  obtain ⟨d, hd, -⟩ := ha.download
  cases hnone.symm.trans hd

/-- What concerns neither the image nor the download leaves them alone, and ends no download. -/
lemma after_beside (ha : Awaits p i e.before) (he : e.IsBeside) :
    Awaits p i e.after ∧ .downloadComplete ∉ e.events := by
  have himage : e.after.connection.image = e.before.connection.image := by
    have hstep := (e.memoryStep ha.isAddressable).image_eq
    rw [he.chunk?_eq, Option.toList_none, List.append_nil] at hstep
    exact hstep.trans he.pushed_eq
  have hdownload : e.after.connection.download = e.before.connection.download ∧
      .downloadComplete ∉ e.events := by
    cases hinput : e.input? with
    | none =>
      have hview := e.syncView_after_of_input?_eq_none hinput
      have hnothing : e.events = [] := congrArg SyncView.events hview
      exact ⟨congrArg SyncView.download hview, by simp [hnothing]⟩
    | some input =>
      obtain ⟨d, hd, -⟩ := ha.download
      have hchunk : e.before.connection.chunk? input = none := by
        simpa [Entry.chunk?, hinput] using he.chunk?_eq
      refine (e.syncStep hinput).download_eq (ha.phase_eq (e.after_of_input? hinput).1) hd hchunk
        he.lasts ?_ ?_
      · rintro rfl
        exact he.inTime (Entry.occasion_of_input? hinput) d hd
      · rintro rfl
        exact he.goesOn (Entry.occasion_of_input? hinput)
  refine ⟨⟨Entry.isOnSchedule_after ha.isOnSchedule, Entry.isAddressable_after ha.isAddressable,
    ?_, ?_, ?_⟩, hdownload.2⟩
  · rw [himage, ha.size_eq]
  · rw [himage]
    exact ha.holds
  · rw [hdownload.1]
    exact ha.download

/-- The chunk that comes next is written where it belongs, and takes the download further or ends
it. -/
lemma view_after_chunk (ha : Awaits p i e.before) {data : Octets} (hb : e.Brings p i data) :
    e.after.connection.image = e.before.connection.image.absorb ⟨p.start i, data⟩ ∧
      ∃ news, (∀ x ∈ news, x.isNews = true) ∧
        e.after.connection.syncView e.events =
          if memory.length ≤ p.start (i + 1) then
            ((e.before.connection.syncView news).finish e.happening.moment.now).feed
              (if e.happening.moment.now + e.before.connection.fullStateInterval <
                clockEnd then [.downloadComplete] else [])
          else
            { e.before.connection.syncView news with
              download := some ⟨(i + 1).toUInt8, p.start (i + 1),
                e.happening.moment.now + Connection.stallTimeout⟩ } := by
  obtain ⟨hchunk, source, destination, payload, hinput, hother, hparse⟩ := hb
  obtain ⟨d, hd, hexpected, hoffset⟩ := ha.download
  have hphase := ha.phase_eq (e.after_of_input? hinput).1
  have haccepts : e.before.connection.session.accepts destination = true := by
    simp [Session.accepts, Session.isAuthorized, hphase, hother]
  rw [← hexpected] at hparse
  constructor
  · have hstep := (e.memoryStep ha.isAddressable).image_eq
    have hcounts : e.chunk? = some ⟨p.start i, data⟩ := by
      rw [Entry.chunk?, hinput, ← hoffset]
      exact Connection.chunk?_of_parse? source haccepts hd hparse
    have hpushed : e.pushed = [] := by
      rw [Entry.pushed, hinput]
      exact Connection.pushed_of_parse? hparse
    rw [hcounts, hpushed] at hstep
    exact hstep
  · obtain ⟨news, hnews, hview⟩ := (e.syncStep hinput).eq_of_chunk haccepts hd hparse
    rw [hoffset, ← Partition.start_succ hchunk, ha.size_eq] at hview
    exact ⟨news, hnews, hview⟩

/-- A chunk after which more are to come leads to the next one. -/
lemma after_chunk (ha : Awaits p i e.before) {data : Octets} (hb : e.Brings p i data)
    (hmore : i + 1 < p.chunks.length) :
    Awaits p (i + 1) e.after ∧ .downloadComplete ∉ e.events := by
  obtain ⟨himage, news, hnews, hview⟩ := ha.view_after_chunk hb
  rw [if_neg (not_le.2 (Partition.start_lt hmore))] at hview
  have hevents : e.events = news := congrArg SyncView.events hview
  refine ⟨⟨Entry.isOnSchedule_after ha.isOnSchedule, Entry.isAddressable_after ha.isAddressable,
    ?_, ?_, _, congrArg SyncView.download hview, rfl, rfl⟩, ?_⟩
  · rw [himage, MemoryImage.size_absorb, ha.size_eq]
  · rw [himage]
    exact ha.holds.absorb ha.size_eq hb.1
  · rw [hevents]
    exact fun htold => by cases hnews _ htold

end Awaits

/-! ## The end of a download -/

/-- A step with which a download of a memory ends.  Between full downloads an interval passes. -/
structure Entry.Completes (e : Entry) (memory : Octets) (interval : Nat) : Prop where
  /-- The image is the memory. -/
  cells_eq : e.after.connection.image.cells = memory.map some
  download_eq : e.after.connection.download = none
  /-- The end is told, once, and the next download has its time, exactly if the clock reaches that
  time. -/
  told_iff : e.events.count .downloadComplete = 1 ∧
      e.after.connection.nextFullDownload = some (e.happening.moment.now + interval) ↔
    e.happening.moment.now + interval < clockEnd

/-- With the last chunk the download ends. -/
lemma Awaits.completes {i : Nat} {e : Entry} (ha : Awaits p i e.before) {data : Octets}
    (hb : e.Brings p i data) (hlast : i + 1 = p.chunks.length) :
    e.Completes memory e.before.connection.fullStateInterval := by
  obtain ⟨himage, news, hnews, hview⟩ := ha.view_after_chunk hb
  have hend : p.start (i + 1) = memory.length := by rw [hlast, Partition.start_length]
  rw [if_pos hend.ge] at hview
  have hnever : news.count .downloadComplete = 0 :=
    List.count_eq_zero.2 fun htold => by cases hnews _ htold
  have hnext : e.after.connection.nextFullDownload =
      some (e.happening.moment.now + e.before.connection.fullStateInterval) :=
    congrArg SyncView.nextFull hview
  have hevents : e.events = news ++
      if e.happening.moment.now + e.before.connection.fullStateInterval < clockEnd then
        [.downloadComplete] else [] :=
    congrArg SyncView.events hview
  refine ⟨?_, congrArg SyncView.download hview, ?_⟩
  · rw [himage]
    refine MemoryImage.HoldsUpTo.cells_eq ?_ ((MemoryImage.size_absorb _ _).trans ha.size_eq)
    rw [← hend]
    exact ha.holds.absorb ha.size_eq hb.1
  · rw [hnext, hevents, List.count_append, hnever]
    split <;> simp [*]

/-- Steps of which the last one, and no other, completes a download of the memory: it brings the
last chunk. -/
def CompletesAtLast (p : Partition memory) (interval : Nat) (steps : List Entry) : Prop :=
  ∃ earlier last, steps = earlier ++ [last] ∧
    (∃ i data, i + 1 = p.chunks.length ∧ last.Brings p i data) ∧
    (∀ e ∈ earlier, .downloadComplete ∉ e.events) ∧ last.Completes memory interval

lemma CompletesAtLast.cons {interval : Nat} {steps : List Entry}
    (h : CompletesAtLast p interval steps) {e : Entry} (he : .downloadComplete ∉ e.events) :
    CompletesAtLast p interval (e :: steps) := by
  obtain ⟨earlier, last, rfl, hbrings, hnone, hcompletes⟩ := h
  exact ⟨e :: earlier, last, rfl, hbrings, List.forall_mem_cons.2 ⟨he, hnone⟩, hcompletes⟩

namespace Delivers

variable {i : Nat} {h : Host} {happenings : List Happening}

lemma lt_length (hd : Delivers p i h happenings) : i < p.chunks.length := by
  induction hd with
  | last brings | next brings => exact (List.getElem?_eq_some_iff.1 brings.1).1
  | beside _ _ ih => exact ih

/-- **A download that gets its chunks in order ends with the last one**, and not before. -/
theorem completesAtLast (hd : Delivers p i h happenings) (ha : Awaits p i h) :
    CompletesAtLast p h.connection.fullStateInterval (h.history happenings) := by
  induction hd with
  | @last i h happening data brings isLast =>
    exact ⟨[], ⟨h, happening⟩, rfl, ⟨i, data, isLast, brings⟩, by simp, ha.completes brings isLast⟩
  | @next i h happening data rest brings delivers ih =>
    obtain ⟨hnext, hquiet⟩ := ha.after_chunk brings delivers.lt_length
    have hrest := ih hnext
    rw [h.interval_happen] at hrest
    exact hrest.cons hquiet
  | @beside i h happening rest isBeside delivers ih =>
    obtain ⟨hstill, hquiet⟩ := ha.after_beside isBeside
    have hrest := ih hstill
    rw [h.interval_happen] at hrest
    exact hrest.cons hquiet

end Delivers

/-- When a download has just been requested, the first chunk is waited for. -/
lemma awaits_of_afterRequest {config : GatewayConfig} {size : UInt16}
    (hmemorySize : config.memorySize = some size) {key : Octets} {m : Moment} {h : Host}
    (hstart : startAt config key m = .ok h) (hsize : memory.length = size.toNat)
    {past : List Happening} (hrequest : AfterRequest (h.history past) []) :
    Awaits p 0 (h.run past) := by
  obtain ⟨h', hstart', himage, hpublished, hview⟩ := startAt_eq_ok_and_syncView hmemorySize key m
  obtain rfl := Except.ok.inj (hstart.symm.trans hstart')
  have hdownload : h.connection.download = none := congrArg SyncView.download hview
  have hh : (h.connection.view []).IsAddressable := isAddressable_of_empty himage hdownload
  obtain ⟨before, request, hhistory, hrequests, -⟩ := hrequest
  obtain ⟨earlier, hearlier, hbefore⟩ := exists_of_history_eq hhistory
  have hprogress : (request.after.connection.view
      (request.effects.filter Effect.isMemoryNote)).progress = some (0, 0) := by
    refine (request.memoryStep ?_).progress_of_requestsDownload rfl
      (requestsDownload_filter.2 hrequests)
    rw [hbefore]
    exact isAddressable_run hh earlier
  obtain ⟨d, hd, hexpected, hoffset⟩ := Connection.progress_view_eq_some_iff.1 hprogress
  rw [← run_of_history_eq hhistory] at hd
  refine ⟨isOnSchedule_run (isOnSchedule_of_syncView hpublished hview) past,
    isAddressable_run hh past, ?_, by simp [MemoryImage.HoldsUpTo], d, hd, hexpected, hoffset⟩
  rw [(image_run_and_replay past hh).1, MemoryImage.size_foldl_absorb, himage,
    MemoryImage.size_empty, hsize]

/-- **A download that gets its chunks in order completes.**  A device cuts its memory into chunks of
1 to 255 octets, any number of them, and numbers them by octets that come round again.  If they
arrive in order after a request, and what happens in between leaves the image and the download
alone, then the download ends with the last chunk and not before, and the image is the memory.  The
end is told, and the next full download due an interval later, exactly if the clock reaches the time
for that. -/
theorem download_completes_iff (config : GatewayConfig) (size : UInt16) (key : Octets) (m : Moment)
    {memory : Octets} (p : Partition memory) (hsize : memory.length = size.toNat) {h : Host}
    (hstart : startAt { config with memorySize := some size } key m = .ok h)
    {past : List Happening} (hrequest : AfterRequest (h.history past) [])
    {happenings : List Happening} (hdelivers : Delivers p 0 (h.run past) happenings) :
    CompletesAtLast p (config.fullStateInterval * GatewayConfig.second)
      ((h.run past).history happenings) := by
  have hmemory : ({ config with memorySize := some size } : GatewayConfig).memorySize = some size :=
    rfl
  have hinterval : (h.run past).connection.fullStateInterval =
      config.fullStateInterval * GatewayConfig.second := by
    obtain ⟨h', hstart', -, -, hview⟩ := startAt_eq_ok_and_syncView hmemory key m
    obtain rfl := Except.ok.inj (hstart.symm.trans hstart')
    exact (interval_run h past).trans (congrArg SyncView.interval hview)
  rw [← hinterval]
  exact hdelivers.completesAtLast (awaits_of_afterRequest hmemory hstart hsize hrequest)

/-- A connection for four octets of memory at its start, with so many seconds between downloads. -/
def started (interval : Nat) : Host :=
  let c := created { fullStateInterval := interval, memorySize := some 4 } 4 [] 0
  Host.adopt { connection := c, keys := fun _ => [] } (c.start { now := 0 })

/-- A spa answers the hello. -/
def answerHello : Happening :=
  ⟨.arrive (.hello (Octets.ofChars ['i', 'd', '|', 's', 'p', 'a'])), { now := 0 }⟩

/-- A chunk arrives. -/
def arriveChunk (seq next : UInt8) (data : Octets) : Happening :=
  ⟨.arrive (.authorized none none (.data (Payload.statusChunk seq next data).compose)),
    { now := 0 }⟩

/-- The answer to the hello requests a download. -/
lemma afterRequest_answerHello :
    ∀ interval ∈ [1800, 18446744073709551615],
      AfterRequest ((started interval).history [answerHello]) [] := by
  intro interval hinterval
  refine ⟨[], _, rfl, ⟨.authorized (some []) (some (Octets.ofChars ['i', 'd']))
    (.data (Payload.statusRequest 0 0 4).compose), none, ?_⟩, by simp⟩
  revert interval
  decide +kernel

/-- Two chunks arrive, and a ping in between. -/
theorem download_completes_of_two_chunks :
    let happenings : List Happening :=
      [arriveChunk 0 1 [1, 2], ⟨.arrive (.authorized none none .ping), { now := 0 }⟩,
        arriveChunk 1 2 [3, 4]]
    ∃ h, startAt { memorySize := some 4 } [] { now := 0 } = .ok h ∧
      ∃ earlier last, (h.run [answerHello]).history happenings = earlier ++ [last] ∧
        last.events.count .downloadComplete = 1 ∧
        last.after.connection.image.cells = [1, 2, 3, 4].map some := by
  intro happenings
  let p : Partition [1, 2, 3, 4] := ⟨[[1, 2], [3, 4]], by decide, by decide, rfl⟩
  have hstart : startAt { memorySize := some 4 } [] { now := 0 } = .ok (started 1800) := rfl
  have hdelivers : Delivers p 0 ((started 1800).run [answerHello]) happenings :=
    .next ⟨rfl, none, none, _, rfl, rfl, rfl⟩
      (.beside ⟨rfl, rfl, by decide +kernel, nofun, nofun⟩
        (.last ⟨rfl, none, none, _, rfl, rfl, rfl⟩ rfl))
  obtain ⟨earlier, last, hhistory, -, -, hcompletes⟩ :=
    download_completes_iff {} 4 [] { now := 0 } p rfl hstart
      (afterRequest_answerHello 1800 List.mem_cons_self) hdelivers
  obtain ⟨-, hlast⟩ := List.append_inj' (hhistory.symm.trans (List.append_assoc [_, _] [] [_])) rfl
  have hnow : last.happening.moment.now = 0 := by
    rw [List.singleton_inj.1 hlast]
    rfl
  refine ⟨_, hstart, earlier, last, hhistory, (hcompletes.told_iff.2 ?_).1, hcompletes.cells_eq⟩
  rw [hnow]
  decide

/-- The chunk that completes the image is the last thing such a connection does: the time for the
next download is beyond the clock's end. -/
theorem not_told_of_endless_interval :
    startAt { fullStateInterval := 18446744073709551615, memorySize := some 4 } [] { now := 0 } =
        .ok (started 18446744073709551615) ∧
      AfterRequest ((started 18446744073709551615).history [answerHello]) [] ∧
      let last : Entry :=
        ⟨(started 18446744073709551615).run [answerHello], arriveChunk 0 1 [1, 2, 3, 4]⟩
      last.after.connection.image.cells = [1, 2, 3, 4].map some ∧
        .downloadComplete ∉ last.events := by
  refine ⟨rfl, afterRequest_answerHello _ (List.mem_cons_of_mem _ List.mem_cons_self), ?_, ?_⟩
  · decide +kernel
  · decide +kernel

end Host

end SpaGateway
