import Mathlib.Tactic
import SpaGateway.Proofs.Connection.Completion
import SpaGateway.Proofs.Connection.Invariant
import SpaGateway.Proofs.Session.Deadline
import SpaGateway.Proofs.Session.Timing

/-!
# When the timer fires, and what it leaves

A connection waits for the earliest of its times: those of its session, the one by which a download
counts as stalled, the next full download, and the next command payload.  `Connection.wake?` is that
time, unless one of them is out of the clock's reach.

When the timer fires, each of the three parts of the turn deals with times of its own, and leaves
none of them due: letting time pass in the session (`Session.lt_of_mem_deadlines_poll`), requesting
downloads (`Turn.isUpToDate_renewDownload`), and working off the queue
(`Turn.isFlushed_flushQueue`).  No later part brings back what an earlier one has settled, so in the
end nothing is due (`Connection.lt_of_mem_deadlines_onTimer`), whatever was due together before.

`Host.wakes_in_time_iff` says this of every state in every run.  The one thing that can go amiss is
the clock: there is no time to wake up at exactly if one of the times lies beyond its end.
-/

namespace SpaGateway

/-! ## Times to wait for -/

namespace Connection

variable {c : Connection} {now time : Nat}

/-- When a connection wants its timer to fire, if the clock reaches all the times it waits for. -/
def wake? (c : Connection) (now : Nat) : Option Nat :=
  if c.outlastsClock then none else some (c.nextWake now)

/-- A time that is no later than anything that a connection waits for. -/
structure IsInTime (c : Connection) (wake : Nat) : Prop where
  session_le : ∀ time ∈ c.session.nextDeadline?, wake ≤ time
  download_le : ∀ d ∈ c.download, wake ≤ d.deadline
  fullDownload_le : ∀ time ∈ c.nextFullDownload, wake ≤ time
  send_le : c.queue ≠ [] → wake ≤ c.nextSend

lemma mem_deadlines_iff :
    time ∈ c.deadlines ↔ time ∈ c.session.deadlines ∨ (∃ d ∈ c.download, d.deadline = time) ∨
      time ∈ c.nextFullDownload ∨ c.queue ≠ [] ∧ time = c.nextSend := by
  unfold deadlines
  by_cases hqueue : c.queue = [] <;> simp [hqueue]

lemma outlastsClock_eq_false_iff :
    c.outlastsClock = false ↔ ∀ time ∈ c.deadlines, time < clockEnd := by
  simp [outlastsClock]

lemma nextWake_le (h : time ∈ c.deadlines) : c.nextWake now ≤ time := by
  rw [nextWake]
  cases hmin : c.deadlines.min? with
  | none => exact absurd (List.min?_eq_none_iff.1 hmin) (List.ne_nil_of_mem h)
  | some first => exact (List.min?_eq_some_iff.1 hmin).2 time h

/-- A connection that waits for something does not wake up in between. -/
lemma mem_deadlines_of_wake? {wake : Nat} (h : c.deadlines ≠ []) (hwake : c.wake? now = some wake) :
    wake ∈ c.deadlines := by
  rw [wake?] at hwake
  split at hwake
  · cases hwake
  · obtain rfl := Option.some.inj hwake
    rw [nextWake]
    cases hmin : c.deadlines.min? with
    | none => exact absurd (List.min?_eq_none_iff.1 hmin) h
    | some first => exact (List.min?_eq_some_iff.1 hmin).1

/-- The timer is set for the earliest of all times. -/
lemma isInTime_nextWake (c : Connection) (now : Nat) : c.IsInTime (c.nextWake now) where
  session_le _ htime :=
    nextWake_le (mem_deadlines_iff.2 (.inl (List.min?_eq_some_iff.1 htime).1))
  download_le d hd := nextWake_le (mem_deadlines_iff.2 (.inr (.inl ⟨d, hd, rfl⟩)))
  fullDownload_le _ htime := nextWake_le (mem_deadlines_iff.2 (.inr (.inr (.inl htime))))
  send_le hqueue := nextWake_le (mem_deadlines_iff.2 (.inr (.inr (.inr ⟨hqueue, rfl⟩))))

/-- There is a time to wake up at, in time for everything, if the clock reaches all the times. -/
lemma exists_wake?_iff :
    (∃ wake, c.wake? now = some wake ∧ c.IsInTime wake) ↔
      ∀ time ∈ c.deadlines, time < clockEnd := by
  rw [← outlastsClock_eq_false_iff, wake?]
  cases hlasts : c.outlastsClock with
  | true => simp
  | false => simp [isInTime_nextWake]

end Connection

/-! ## Working off the queue -/

namespace Turn

variable (t : Turn) (m : Moment)

/-- Whatever a payload at the front leads to, there is less work in the queue then. -/
lemma work_flushFront (front : Request) (rest : List Request) :
    work (t.flushFront m front rest).turn.connection.queue < work (front :: rest) := by
  have hrest : work rest < work (front :: rest) := by
    rw [work]
    omega
  rcases hnext : t.connection.translator.nextPayload front.command with
    ⟨payload?, left, translator⟩
  cases payload? with
  | none =>
    have hqueue : (t.flushFront m front rest).turn.connection.queue = rest := by
      rw [flushFront, hnext]
      rfl
    rwa [hqueue]
  | some payload =>
    obtain ⟨-, ⟨hqueue, -⟩ | ⟨-, -, hqueue, -⟩ | ⟨-, -, hqueue, -⟩⟩ := t.flushFront_spec m rest hnext
    · rw [hqueue]
      exact Nat.zero_lt_of_lt hrest
    · rwa [hqueue]
    · have hleft := Translator.remaining_of_nextPayload hnext
      rw [hqueue]
      split
      · exact hrest
      · rw [work, work]
        dsimp only
        omega

/-- A queue that is failed is empty. -/
lemma queue_of_failed {front : Request} {rest : List Request} {t' : Turn}
    (h : t.flushFront m front rest = .failed t') : t'.connection.queue = [] := by
  unfold flushFront at h
  dsimp only at h
  split at h
  · cases h
  · split at h
    · obtain rfl := Flushed.failed.inj h
      rw [connection_failQueue]
    · split at h <;> cases h

/-- What waits in a queue that was worked off waits for its time. -/
def IsFlushed : Prop := t.connection.queue = [] ∨ m.now < t.connection.nextSend

/-- As many rounds as there is work in the queue get it done. -/
lemma isFlushed_flushRounds (rounds : Nat) (h : work t.connection.queue ≤ rounds) :
    (flushRounds m rounds t).IsFlushed m := by
  induction rounds generalizing t with
  | zero =>
    cases hqueue : t.connection.queue with
    | nil => exact .inl hqueue
    | cons front rest => simp [hqueue, work] at h
  | succ rounds ih =>
    rw [flushRounds]
    split
    · split
      · exact .inl (by assumption)
      · rename_i front rest hqueue
        have hless := t.work_flushFront m front rest
        rw [hqueue] at h
        split
        · rename_i t' hmoved
          rw [hmoved] at hless
          exact ih t' (Nat.le_of_lt_succ (hless.trans_le h))
        · rename_i t' hfailed
          exact .inl (t.queue_of_failed m hfailed)
    · rename_i hlater
      exact .inr (not_le.1 hlater)

/-- **Working off the queue leaves no payload that is due.** -/
theorem isFlushed_flushQueue : (t.flushQueue m).IsFlushed m :=
  t.isFlushed_flushRounds m _ le_rfl

end Turn

/-! ## Downloads -/

namespace SyncView

variable {v : SyncView} {now : Nat}

/-- No download is due: none is stalled, and the next one has time. -/
structure IsUpToDate (v : SyncView) (now : Nat) : Prop where
  lt_stall : ∀ d ∈ v.download, now < d.deadline
  lt_full : ∀ time ∈ v.nextFull, now < time

/-- A download that was just requested has time, and the next one is not planned yet. -/
lemma isUpToDate_request (v : SyncView) (now : Nat) : (v.request now).IsUpToDate now where
  lt_stall := by
    rintro d ⟨⟩
    exact Nat.lt_add_of_pos_right (by decide)
  lt_full := nofun

/-- On schedule, either a download is under way or the next one is planned, and not both, so what
does not have to be requested has time. -/
lemma IsScheduled.isUpToDate (h : v.IsScheduled)
    (hdue : ¬ (v.phase = .authorized ∧ v.IsDue now)) : v.IsUpToDate now := by
  by_cases hphase : v.phase = .authorized
  · have hlater : ¬ v.IsDue now := fun hnow => hdue ⟨hphase, hnow⟩
    refine ⟨fun d hd => not_le.1 fun hstalled => hlater (.inl ⟨d, hd, hstalled⟩),
      fun time htime => not_le.1 fun hfull => hlater (.inr ⟨?_, time, htime, hfull⟩)⟩
    have hscheduled := h.authorized hphase
    rw [Option.mem_def.1 htime] at hscheduled
    simpa using hscheduled
  · obtain ⟨hdownload, hnext⟩ := h.idle hphase
    exact ⟨by simp [hdownload], by simp [hnext]⟩

end SyncView

/-- **Requesting downloads leaves none that is due.** -/
theorem Turn.isUpToDate_renewDownload {t : Turn} (h : t.syncView.IsScheduled) (m : Moment) :
    (Connection.renewDownload (Connection.retryDownload t m) m).syncView.IsUpToDate m.now := by
  rcases t.syncView_renewDownload m with ⟨hlater, hview⟩ | ⟨-, hview⟩
  · rw [hview]
    exact h.isUpToDate hlater
  · rw [hview]
    exact t.syncView.isUpToDate_request m.now

/-! ## The timer -/

namespace Connection

variable {c : Connection}

/-- Letting time pass in the session keeps the schedule. -/
lemma isScheduled_poll (h : (c.syncView []).IsScheduled) (m : Moment) :
    (Turn.applySession { connection := c } m
      (c.session.poll m.freshKey m.now)).syncView.IsScheduled := by
  rcases syncStep_poll (c := c) m with hview | ⟨hstep, -⟩
  · rwa [hview]
  · exact hstep.isScheduled h nofun

/-- What else the timer does, it does not concern the session. -/
lemma session_onTimer (c : Connection) (m : Moment) :
    (c.onTimer m).connection.session = (c.session.poll m.freshKey m.now).1 := by
  set polled := Turn.applySession { connection := c } m (c.session.poll m.freshKey m.now)
    with hpolled
  obtain ⟨⟨queue, translator, nextSend, hc⟩, -⟩ :=
    Turn.queueWork_flushQueue (renewDownload (retryDownload polled m) m) m
  rw [onTimer, ← hpolled, hc]
  dsimp only
  rw [(renewDownload_spec polled m).2, hpolled, Turn.session_applySession]

/-- **After the timer has fired, nothing is due.** -/
theorem lt_of_mem_deadlines_onTimer (hscheduled : (c.syncView []).IsScheduled)
    (hsettings : c.session.settings.IsPositive) (m : Moment) {time : Nat}
    (htime : time ∈ (c.onTimer m).connection.deadlines) : m.now < time := by
  have hflushed : (c.onTimer m).IsFlushed m := Turn.isFlushed_flushQueue _ m
  have hdownloads : (c.onTimer m).syncView.IsUpToDate m.now := by
    rw [onTimer, (Turn.queueWork_flushQueue _ m).syncView_eq]
    exact Turn.isUpToDate_renewDownload (isScheduled_poll hscheduled m) m
  rcases mem_deadlines_iff.1 htime with hsilence | ⟨d, hd, rfl⟩ | hfull | ⟨hqueue, rfl⟩
  · rw [session_onTimer] at hsilence
    exact Session.lt_of_mem_deadlines_poll hsettings _ hsilence
  · exact hdownloads.lt_stall d hd
  · exact hdownloads.lt_full time hfull
  · exact hflushed.resolve_left hqueue

/-- So a connection that has seen to its timer wakes up later. -/
lemma lt_of_wake?_onTimer (hscheduled : (c.syncView []).IsScheduled)
    (hwaiting : c.session.IsWaiting) (hsettings : c.session.settings.IsPositive) {m : Moment}
    {now wake : Nat} (hwake : (c.onTimer m).connection.wake? now = some wake) : m.now < wake := by
  have hstill : (c.onTimer m).connection.session.IsWaiting := by
    rw [session_onTimer]
    exact (Session.move_poll m.freshKey).isWaiting nofun hwaiting
  obtain ⟨time, htime⟩ := List.exists_mem_of_ne_nil _ hstill.deadlines_ne_nil
  have hsome : (c.onTimer m).connection.deadlines ≠ [] :=
    List.ne_nil_of_mem (mem_deadlines_iff.2 (.inl htime))
  exact lt_of_mem_deadlines_onTimer hscheduled hsettings m (mem_deadlines_of_wake? hsome hwake)

/-- Unless it is the last one, a reaction calls the session in other ways than to end it. -/
lemma exists_call_react (c : Connection) (m : Moment) {input : Input} (hinput : input ≠ .close) :
    ∃ call, call ≠ .close ∧ (c.react m input).connection.session =
      (c.session.perform m.now call).1 := by
  cases input with
  | package package =>
    rw [react, onPackage]
    split
    · -- what is for others only concerns the image
      refine ⟨.frame .ping, by simp, ?_⟩
      split
      · exact Turn.session_applyPush _ _
      · rfl
    · exact ⟨.handle package, by simp, Turn.session_applySession _ _ _⟩
  | request request =>
    obtain ⟨⟨queue, translator, nextSend, hc⟩, -⟩ :=
      (Turn.queueWork_enqueue { connection := c } request).trans (Turn.queueWork_flushQueue _ m)
    exact ⟨.frame .ping, by simp, by rw [react, onRequest, hc]; rfl⟩
  | timer => exact ⟨.poll m.freshKey, by simp, c.session_onTimer m⟩
  | close => exact absurd rfl hinput

end Connection

/-! ## Runs -/

namespace Host

/-- As long as it runs, a connection waits for its peer, and no wait ends as soon as it begins. -/
lemma isWaiting_run {h : Host} (hwaiting : h.connection.session.IsWaiting)
    (hpositive : h.connection.session.settings.IsPositive) (happenings : List Happening)
    (hrunning : (h.run happenings).isRunning = true) :
    (h.run happenings).connection.session.IsWaiting ∧
      (h.run happenings).connection.session.settings.IsPositive := by
  refine keeps_run (P := fun c => c.session.IsWaiting ∧ c.session.settings.IsPositive)
    (fun _ _ hc => hc) (fun c m input hinput hc => ?_) (fun _ => ⟨hwaiting, hpositive⟩) happenings
    hrunning
  obtain ⟨call, hcall, hsession⟩ := c.exists_call_react m hinput
  have hmove : c.session.Move m.now call _ _ := Session.move_perform call
  rw [hsession]
  exact ⟨hmove.isWaiting hcall hc.1, hmove.settings_eq ▸ hc.2⟩

/-- A run starts with waiting for the answer to the hello, if the clock reaches so far. -/
lemma startAt_eq_ok_and_isWaiting {config : GatewayConfig} {size : UInt16}
    (hsize : config.memorySize = some size) (hudp : 0 < config.udpTimeout)
    (hhandshake : 0 < config.handshakeTimeout) (key : Octets) (m : Moment) :
    ∃ h, startAt config key m = .ok h ∧ h.connection.session.IsWaiting ∧
      h.connection.session.settings.IsPositive ∧
      (h.isRunning = true ↔
        m.now + config.handshakeTimeout * GatewayConfig.second < clockEnd) := by
  set begin := (created config size key m.now).start m with hbegin
  have hdeadlines : begin.connection.deadlines =
      [m.now + config.handshakeTimeout * GatewayConfig.second] := rfl
  obtain ⟨⟨queue, translator, hc⟩, -⟩ := aside_adopt
    { connection := created config size key m.now, keys := fun _ => key } begin
  refine ⟨_, startAt_eq hsize key m, ?_, ?_, ?_⟩
  · rw [← hbegin, hc]
    exact .inl rfl
  · rw [← hbegin, hc]
    exact GatewayConfig.isPositive_sessionSettings hudp hhandshake
  · rw [isRunning_adopt, Bool.true_and, Bool.not_eq_true', Connection.outlastsClock_eq_false_iff,
      ← hbegin, hdeadlines, List.forall_mem_singleton]

/-- **A connection neither misses a time that it waits for nor wakes up in vain.**  Take any
configuration whose two timeouts are not zero, and any state that a running connection gets into.
It wakes up no later than its session, its download, the next full download or the next payload
needs.  When the timer fires, at whatever time and whichever sends fail, everything that is due is
dealt with: the next time to wake up is strictly later.

What a connection waits for is added to the time without a bound, so the clock may not reach it.
After any reaction there is a next time to wake up, and then the right one, exactly if the clock
reaches all the times that are waited for. -/
theorem wakes_in_time_iff (config : GatewayConfig) (size : UInt16) (key : Octets) (m : Moment)
    (hudp : 0 < config.udpTimeout) (hhandshake : 0 < config.handshakeTimeout) :
    ∃ h, startAt { config with memorySize := some size } key m = .ok h ∧
      (h.isRunning = true ↔
        m.now + config.handshakeTimeout * GatewayConfig.second < clockEnd) ∧
      ∀ happenings : List Happening, (h.run happenings).isRunning = true →
        let c := (h.run happenings).connection
        (∀ now, ∃ wake, c.wake? now = some wake ∧ c.IsInTime wake) ∧
        ∀ m' input now,
          let c' := (c.react m' input).connection
          (∃ wake, c'.wake? now = some wake ∧ c'.IsInTime wake ∧
              (input = .timer → m'.now < wake)) ↔
            ∀ time ∈ c'.deadlines, time < clockEnd := by
  have hsize : ({ config with memorySize := some size } : GatewayConfig).memorySize = some size :=
    rfl
  obtain ⟨h, hstart, -, hpublished, hview⟩ := startAt_eq_ok_and_syncView hsize key m
  obtain ⟨h', hstart', hwaiting, hpositive, hbegin⟩ :=
    startAt_eq_ok_and_isWaiting hsize hudp hhandshake key m
  obtain rfl := Except.ok.inj (hstart.symm.trans hstart')
  refine ⟨h, hstart, hbegin, fun happenings hrunning => ⟨fun now => ?_, fun m' input now => ?_⟩⟩
  · have hreachable : (h.run happenings).IsReachable := ⟨_, key, m, h, happenings, hstart, rfl⟩
    exact Connection.exists_wake?_iff.2
      (Connection.outlastsClock_eq_false_iff.1 (hreachable.outlastsClock hrunning))
  · intro c'
    constructor
    · rintro ⟨wake, hwake, hinTime, -⟩
      exact Connection.exists_wake?_iff.1 ⟨wake, hwake, hinTime⟩
    · intro hreach
      obtain ⟨wake, hwake, hinTime⟩ :
          ∃ wake, c'.wake? now = some wake ∧ c'.IsInTime wake :=
        Connection.exists_wake?_iff.2 hreach
      refine ⟨wake, hwake, hinTime, ?_⟩
      rintro rfl
      obtain ⟨hwaiting', hpositive'⟩ := isWaiting_run hwaiting hpositive happenings hrunning
      obtain ⟨hscheduled, -⟩ :=
        isOnSchedule_run (isOnSchedule_of_syncView hpublished hview) happenings hrunning
      exact Connection.lt_of_wake?_onTimer hscheduled hwaiting' hpositive' hwake

/-- A connection that was just welcomed, and no chunk came: three seconds later it pings, and then
wakes up for the download that stalls. -/
theorem wakes_in_time_after_ping :
    let config : GatewayConfig := { memorySize := some 4 }
    0 < config.udpTimeout ∧ 0 < config.handshakeTimeout ∧
      ∃ h, startAt config [] { now := 0 } = .ok h ∧ (h.run [answerHello]).isRunning = true ∧
        let c := ((h.run [answerHello]).connection.react { now := 3000 } .timer).connection
        ∃ wake, c.wake? 3000 = some wake ∧ c.IsInTime wake ∧ 3000 < wake := by
  intro config
  obtain ⟨h, hstart, -, hruns⟩ :=
    wakes_in_time_iff {} 4 [] { now := 0 } (by decide) (by decide)
  have hbegun : startAt config [] { now := 0 } = .ok (started 1800) := rfl
  obtain rfl := Except.ok.inj (hbegun.symm.trans hstart)
  have hrunning : ((started 1800).run [answerHello]).isRunning = true := by decide +kernel
  obtain ⟨-, hreact⟩ := hruns [answerHello] hrunning
  obtain ⟨wake, hwake, hinTime, hlater⟩ :=
    (hreact { now := 3000 } .timer 3000).2 (by decide +kernel)
  exact ⟨by decide, by decide, _, hstart, hrunning, wake, hwake, hinTime, hlater rfl⟩

/-- With an endless timeout of the silence, the welcome is the last thing that happens to a
connection.  It has a ping to send after three seconds, but no time to wake up at. -/
theorem not_woken_of_endless_silence :
    let config : GatewayConfig := { udpTimeout := 18446744073709551615, memorySize := some 4 }
    0 < config.udpTimeout ∧ 0 < config.handshakeTimeout ∧
      ∃ h, startAt config [] { now := 0 } = .ok h ∧ h.isRunning = true ∧
        let c := (h.connection.react answerHello.moment
          (.package (.hello (Octets.ofChars ['i', 'd', '|', 's', 'p', 'a'])))).connection
        c.session.isAuthorized = true ∧ c.session.nextDeadline? = some 3000 ∧
          (∀ now, c.wake? now = none) ∧ (h.run [answerHello]).isRunning = false := by
  refine ⟨by decide, by decide, _, rfl, by decide +kernel, by decide +kernel, by decide +kernel,
    fun now => if_pos ?_, by decide +kernel⟩
  decide +kernel

end Host

end SpaGateway
