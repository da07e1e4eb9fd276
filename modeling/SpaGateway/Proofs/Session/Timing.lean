import Mathlib.Tactic
import SpaGateway.Proofs.Session.Call

/-!
# Timing of sessions

When a session expires and when it pings is decided by its history alone.  Three times count, and
each is the time of the last step of some kind: the last hello that was sent (`helloTime?`), the
last sign of life of the peer (`signTime?`) and the last own ping, or the welcome if none was sent
since (`pingTime?`).  `Session.Timed` says that the timers of a session hold just these times, and
`Session.Move.timed` that every call keeps them.

`Session.IsDecided` says what letting time pass is to come to by these times.  The next ping is the
sum of a time and an interval, which can lie beyond the end of the clock, and then there is no
result where that ping counts.  `Session.poll_decided_iff` says that there is a result, and the one
that the history decides, exactly if the clock reaches the ping.
-/

namespace SpaGateway

/-- Whether an output sends a hello. -/
def SessionOutput.isHello : SessionOutput → Bool
  | transmit (.hello _) => true
  | _ => false

/-- Whether an output sends a ping. -/
def SessionOutput.isPing : SessionOutput → Bool
  | transmit (.authorized _ _ .ping) => true
  | _ => false

namespace Session

/-! ## Times that count -/

/-- A hello is sent. -/
def sendsHello (step : Step Session Event) : Bool :=
  (step.before.outputs step.action).any SessionOutput.isHello

/-- A ping is sent. -/
def sendsPing (step : Step Session Event) : Bool :=
  (step.before.outputs step.action).any SessionOutput.isPing

/-- The peer answers the hello. -/
def isWelcome (step : Step Session Event) : Bool :=
  (step.before.welcome? step.action.call).isSome

/-- An authorized package is accepted. -/
def isAccepted (step : Step Session Event) : Bool :=
  match step.action.call with
  | .handle (.authorized _ destination _) => step.before.accepts destination
  | _ => false

/-- When the last hello was sent. -/
def helloTime? : List (Step Session Event) → Option Nat := lastTime? Event.now sendsHello

/-- When the peer last gave a sign of life: its answer to the hello, or an accepted package. -/
def signTime? : List (Step Session Event) → Option Nat :=
  lastTime? Event.now fun step => isWelcome step || isAccepted step

/-- When the last ping was sent, or the peer answered the hello. -/
def pingTime? : List (Step Session Event) → Option Nat :=
  lastTime? Event.now fun step => isWelcome step || sendsPing step

/-! ## Timers -/

/-- The timers of a session hold the times that count. -/
structure Timed (history : List (Step Session Event)) (s : Session) : Prop where
  since_eq : s.phase = .awaitingHello → helloTime? history = some s.since
  activity_eq : s.phase = .authorized → signTime? history = some s.lastActivity
  ping_eq : s.phase = .authorized → ∃ time, s.lastPing = some time ∧ pingTime? history = some time

variable {s s' : Session} {now : Nat} {call : SessionCall} {outputs : List SessionOutput}
  {history : List (Step Session Event)}

/-- What a session wants that has accepted content is neither a hello nor a ping. -/
lemma any_answer (source : Option Octets) (content : Content) :
    (s.answer source content).any SessionOutput.isHello = false ∧
      (s.answer source content).any SessionOutput.isPing = false := by
  cases content <;> exact ⟨rfl, rfl⟩

/-- A step that sends a hello sets the clock for the answer. -/
lemma timed_introduced {event : Event} (hhello : sendsHello ⟨s, event⟩ = true) (key : Octets) :
    Timed (history ++ [⟨s, event⟩]) (s'.introduced event.now key) where
  since_eq _ := by rw [helloTime?, lastTime?_concat, if_pos hhello]; rfl
  activity_eq := by simp [introduced]
  ping_eq := by simp [introduced]

/-- **Every call keeps the timers at the times that count.** -/
theorem Move.timed (hmove : s.Move now call s' outputs) (houtputs : s.outputs ⟨now, call⟩ = outputs)
    (h : Timed history s) : Timed (history ++ [⟨s, ⟨now, call⟩⟩]) s' := by
  set step : Step Session Event := ⟨s, ⟨now, call⟩⟩ with hstep
  have hhello : sendsHello step = outputs.any SessionOutput.isHello := by rw [sendsHello, houtputs]
  have hping : sendsPing step = outputs.any SessionOutput.isPing := by rw [sendsPing, houtputs]
  obtain ⟨hsince, hactivity, htime⟩ := h
  -- a step that is of no kind leaves the times alone
  have hquiet (hwelcome : isWelcome step = false) (haccepted : isAccepted step = false)
      (hhello : sendsHello step = false) (hping : sendsPing step = false) :
      Timed (history ++ [step]) s := by
    refine ⟨fun hphase => ?_, fun hphase => ?_, fun hphase => ?_⟩
    · rw [helloTime?, lastTime?_concat, hhello]
      exact hsince hphase
    · rw [signTime?, lastTime?_concat, hwelcome, haccepted]
      exact hactivity hphase
    · rw [pingTime?, lastTime?_concat, hwelcome, hping]
      exact htime hphase
  cases hmove with
  | ignore hignores =>
    refine hquiet ?_ ?_ hhello hping
    · rw [isWelcome, hstep, welcome?_eq_none_of_ignores hignores]
      rfl
    · rcases call with _ | (_ | _) | _ | _ | _
      case handle.authorized => exact hignores
      all_goals rfl
  | start => exact timed_introduced hhello _
  | @welcome peer name hphase hpeer =>
    have hwelcome : isWelcome step = true := by
      rw [isWelcome, hstep, welcome?_eq_some_iff.2 ⟨hphase, hpeer, rfl⟩]
      rfl
    refine ⟨by simp [welcomed], fun _ => ?_, fun _ => ⟨now, rfl, ?_⟩⟩
    · rw [signTime?, lastTime?_concat, hwelcome]
      rfl
    · rw [pingTime?, lastTime?_concat, hwelcome]
      rfl
  | reject hphase hpayload =>
    refine hquiet ?_ rfl hhello hping
    rw [isWelcome, hstep, welcome?_hello_eq_none hpayload]
    rfl
  | @accept source _ content haccepts =>
    obtain ⟨-, hnoPing⟩ := s.any_answer source content
    obtain ⟨hphase, -⟩ := accepts_eq_true_iff.1 haccepts
    have haccepted : isAccepted step = true := haccepts
    have hwelcome : isWelcome step = false := rfl
    refine ⟨by simp [hphase], fun _ => ?_, fun _ => ?_⟩
    · rw [signTime?, lastTime?_concat, haccepted, Bool.or_true]
      rfl
    · rw [pingTime?, lastTime?_concat, hping, hnoPing, hwelcome]
      exact htime hphase
  | timeOut =>
    refine timed_introduced (hhello.trans ?_) _
    simp [SessionOutput.isHello]
  | fallSilent => exact timed_introduced hhello _
  | ping hphase =>
    refine ⟨by simp [hphase], fun _ => ?_, fun _ => ⟨now, rfl, ?_⟩⟩
    · have hsign : (isWelcome step || isAccepted step) = false := rfl
      rw [signTime?, lastTime?_concat, hsign]
      exact hactivity hphase
    · rw [pingTime?, lastTime?_concat, hping]
      rfl
  | close => exact ⟨by simp [Session.close], by simp [Session.close], by simp [Session.close]⟩

lemma Move.settings_eq (hmove : s.Move now call s' outputs) : s'.settings = s.settings := by
  cases hmove <;> rfl

lemma settings_run (created : Session) (past : List Event) :
    (past.foldl after created).settings = created.settings :=
  keeps_foldl (P := fun s : Session => s.settings = created.settings)
    (fun _ event hs => (move_perform event.call).settings_eq.trans hs) rfl past

/-- Over every run the timers hold the times that count. -/
theorem timed_run (settings : SessionSettings) (key : Octets) (pinned : Bool) (made : Nat)
    (past : List Event) :
    let created := create settings key pinned made
    Timed (created.history past) (past.foldl after created) := by
  intro created
  induction past using List.reverseRecOn with
  | nil => exact ⟨by simp [created, create], by simp [created, create], by simp [created, create]⟩
  | append_singleton past event ih =>
    rw [history_concat, List.foldl_append]
    exact (move_perform event.call).timed rfl ih

/-! ## What letting time pass comes to -/

/-- A session expires: it tells so, and introduces itself anew. -/
def Expires (s : Session) (result : Session × List SessionOutput) : Prop :=
  .event (.expired s.phase) ∈ result.2 ∧ .transmit (.hello result.1.key) ∈ result.2 ∧
    result.1.phase = .awaitingHello

/-- Whether the peer has been silent for too long. -/
def IsOverdue (s : Session) (now : Nat) : Prop :=
  s.phase = .awaitingHello ∧ s.settings.handshakeTimeout ≤ now - s.since ∨
    s.phase = .authorized ∧ s.settings.udpTimeout ≤ s.idle now

lemma Move.expires_iff {fresh : Octets} (hmove : s.Move now (.poll fresh) s' outputs) :
    s.Expires (s', outputs) ↔ s.IsOverdue now := by
  cases hmove with
  | ignore hignores =>
    have hnot : ¬ s.IsOverdue now := by
      rintro (⟨hphase, hdue⟩ | ⟨hphase, hdue⟩)
      · exact hdue.not_gt (hignores.1 hphase)
      · exact hdue.not_gt (hignores.2 hphase).1
    simp [Expires, hnot]
  | timeOut hphase hdue =>
    have hoverdue : s.IsOverdue now := .inl ⟨hphase, hdue⟩
    simp [Expires, introduced, hphase, hoverdue]
  | fallSilent hphase hdue =>
    have hoverdue : s.IsOverdue now := .inr ⟨hphase, hdue⟩
    simp [Expires, introduced, hphase, hoverdue]
  | ping hphase hidle =>
    have hnot : ¬ s.IsOverdue now := by
      rintro (⟨hphase', -⟩ | ⟨-, hdue⟩)
      · simp [hphase] at hphase'
      · exact hdue.not_gt hidle
    simp [Expires, hnot]

lemma expires_poll_iff (fresh : Octets) : s.Expires (s.poll fresh now) ↔ s.IsOverdue now :=
  (move_poll fresh).expires_iff

/-- A ping is due once the interval has passed since the last one. -/
lemma owesPing_iff {time : Nat} (hlast : s.lastPing = some time) (htime : time ≤ now) :
    s.OwesPing now ↔ ∃ interval ∈ s.settings.pingInterval, interval ≤ now - time := by
  rw [OwesPing, pingDue?, hlast]
  cases s.settings.pingInterval with
  | none => simp
  | some interval =>
    simp
    omega

/-! ## What postpones nothing -/

/-- What never postpones an expiry: wrapping content, own pings, packages for others or before the
authorization, and hellos that repeat an answer or name nobody. -/
def IsNoSign (s : Session) (event : Event) : Prop :=
  match event.call with
  | .frame _ => True
  | .poll fresh => ¬ s.Expires (s.poll fresh event.now)
  | .handle (.hello payload) => s.phase = .authorized ∨ helloDelimiter ∉ payload
  | .handle (.authorized _ destination _) => s.phase ≠ .authorized ∨ ∃ id ∈ destination, id ≠ s.key
  | .start | .close => False

/-- What is no sign of life leaves the session alone, but for the time of its last ping. -/
lemma after_of_isNoSign {event : Event} (h : s.IsNoSign event) :
    ∃ lastPing, s.after event = { s with lastPing } := by
  obtain ⟨now, call⟩ := event
  have hmove : s.Move now call (s.after ⟨now, call⟩) (s.outputs ⟨now, call⟩) := move_perform call
  generalize s.after ⟨now, call⟩ = s', s.outputs ⟨now, call⟩ = outputs at hmove ⊢
  cases hmove with
  | ignore | reject => exact ⟨s.lastPing, rfl⟩
  | ping => exact ⟨some now, rfl⟩
  | start | close => exact h.elim
  | welcome hphase =>
    rcases h with hauthorized | hnone
    · simp [hphase] at hauthorized
    · simp at hnone
  | accept haccepts =>
    obtain ⟨hphase, hkey⟩ := accepts_eq_true_iff.1 haccepts
    rcases h with hother | ⟨id, hid, hne⟩
    · exact absurd hphase hother
    · exact absurd (hkey id hid) hne
  | timeOut hphase hdue => exact absurd ((expires_poll_iff _).2 (.inl ⟨hphase, hdue⟩)) h
  | fallSilent hphase hdue => exact absurd ((expires_poll_iff _).2 (.inr ⟨hphase, hdue⟩)) h

/-- What counts of an accepted package is its arrival, not what is answered. -/
lemma handle_authorized_eq (source destination : Option Octets) (content content' : Content) :
    (s.handle (.authorized source destination content) now).1 =
      (s.handle (.authorized source destination content') now).1 := by
  rw [Session.handle, Session.handle]
  by_cases haccepts : s.accepts destination = true
  · rw [handleAuthorized_of_accepts haccepts, handleAuthorized_of_accepts haccepts]
  · rw [Bool.not_eq_true] at haccepts
    rw [handleAuthorized_of_not_accepts haccepts, handleAuthorized_of_not_accepts haccepts]

/-- So it postpones no expiry. -/
lemma expires_after_iff {event : Event} (h : s.IsNoSign event) (fresh : Octets) (later : Nat) :
    (s.after event).Expires ((s.after event).poll fresh later) ↔
      s.Expires (s.poll fresh later) := by
  obtain ⟨lastPing, hafter⟩ := after_of_isNoSign h
  rw [expires_poll_iff, expires_poll_iff, hafter]
  rfl

/-! ## The end of the clock -/

/-- Whether the clock reaches the next ping, where letting time pass looks at it: while the peer is
not silent for too long. -/
def ReachesPing (s : Session) (now : Nat) : Prop :=
  s.phase = .authorized → s.idle now < s.settings.udpTimeout → ∀ due ∈ s.pingDue?, due < clockEnd

lemma pollInReach?_eq_some_iff {fresh : Octets} {result : Session × List SessionOutput} :
    s.pollInReach? fresh now = some result ↔ s.ReachesPing now ∧ s.poll fresh now = result := by
  rw [pollInReach?, ReachesPing]
  split
  · rename_i hbeyond
    obtain ⟨hphase, hidle, due, hdue, hend⟩ := hbeyond
    exact iff_of_false nofun fun h => (h.1 hphase hidle due hdue).not_ge hend
  · rename_i hreach
    push Not at hreach
    exact ⟨fun h => ⟨hreach, Option.some.inj h⟩, fun h => congrArg some h.2⟩

/-- An expiry does not depend on the next ping. -/
lemma exists_expires_iff (fresh : Octets) :
    (∃ result, s.pollInReach? fresh now = some result ∧ s.Expires result) ↔
      s.Expires (s.poll fresh now) := by
  constructor
  · rintro ⟨result, hresult, hexpires⟩
    rwa [(pollInReach?_eq_some_iff.1 hresult).2]
  · intro hexpires
    refine ⟨_, pollInReach?_eq_some_iff.2 ⟨fun hphase hidle => ?_, rfl⟩, hexpires⟩
    rcases (expires_poll_iff fresh).1 hexpires with ⟨hawaiting, -⟩ | ⟨-, hdue⟩
    · simp [hphase] at hawaiting
    · exact (hdue.not_gt hidle).elim

/-! ## Decisions -/

/-- What letting time pass is to come to by the history.  A session that awaits an answer expires
exactly if the handshake timeout has passed since its last hello.  An authorized session expires
exactly if the peer gave no sign of life for the timeout, and otherwise pings exactly if the
interval has passed since its last ping.  Nothing else comes of it. -/
structure IsDecided (settings : SessionSettings) (history : List (Step Session Event)) (s : Session)
    (now : Nat) (result : Session × List SessionOutput) : Prop where
  awaiting : s.phase = .awaitingHello → ∃ hello, helloTime? history = some hello ∧
    (s.Expires result ↔ settings.handshakeTimeout ≤ now - hello) ∧
    (now - hello < settings.handshakeTimeout → result = (s, []))
  authorized : s.phase = .authorized → ∃ sign ping, signTime? history = some sign ∧
    pingTime? history = some ping ∧
    (s.Expires result ↔ settings.udpTimeout ≤ now - sign) ∧
    (now - sign < settings.udpTimeout → result =
      if ∃ interval ∈ settings.pingInterval, interval ≤ now - ping then
        ({ s with lastPing := some now }, [.transmit (.authorized (some s.key) s.peer .ping)])
      else (s, []))
  other : s.phase ≠ .awaitingHello → s.phase ≠ .authorized → result = (s, [])

/-- **What letting time pass comes to without an end of the clock is decided by the history**, in a
run with times that do not go back. -/
theorem Timed.isDecided_poll {settings : SessionSettings} (h : Timed history s)
    (hsettings : s.settings = settings)
    (hpast : ∀ time ∈ pingTime? history, time ≤ now) (fresh : Octets) :
    IsDecided settings history s now (s.poll fresh now) := by
  obtain ⟨hsince, hactivity, hping⟩ := h
  refine ⟨fun hphase => ?_, fun hphase => ?_, poll_of_other fresh⟩
  · refine ⟨s.since, hsince hphase, ?_, fun hwait => ?_⟩
    · rw [expires_poll_iff]
      simp [IsOverdue, hphase, hsettings]
    · rw [poll_of_awaitingHello fresh hphase, hsettings, if_neg hwait.not_ge]
  · obtain ⟨time, hlast, htime⟩ := hping hphase
    have howes := owesPing_iff hlast (hpast time htime)
    rw [hsettings] at howes
    refine ⟨s.lastActivity, time, hactivity hphase, htime, ?_, fun hidle => ?_⟩
    · rw [expires_poll_iff]
      simp [IsOverdue, hphase, hsettings, idle]
    · rw [← hsettings] at hidle
      split
      · exact poll_of_owesPing fresh hphase hidle (howes.2 ‹_›)
      · exact poll_of_not_owesPing fresh hphase hidle (mt howes.1 ‹_›)

/-- Whether the clock reaches the next ping is decided by the history, too. -/
lemma Timed.reachesPing_iff (h : Timed history s) : s.ReachesPing now ↔
    (s.phase = .authorized → ∀ sign ∈ signTime? history, now - sign < s.settings.udpTimeout →
      ∀ ping ∈ pingTime? history, ∀ interval ∈ s.settings.pingInterval,
        ping + interval < clockEnd) := by
  refine forall_congr' fun hphase => ?_
  obtain ⟨time, hlast, htime⟩ := h.ping_eq hphase
  rw [h.activity_eq hphase, htime, pingDue?, hlast, idle]
  cases s.settings.pingInterval <;> simp

/-- **Letting time pass comes to what the history decides, if the clock reaches the next ping.**  In
a run with times that do not go back, letting time pass comes to a result, and to the one that the
history decides, exactly if the session is not authorized, or the peer was silent for the timeout,
or the last ping and the interval add up to a time of the clock.  Without an end of the clock the
result would always be the one that the history decides.

What is no sign of life does not postpone an expiry, and what is one counts whatever is answered to
it. -/
theorem poll_decided_iff (settings : SessionSettings) (key : Octets) (pinned : Bool)
    (made : Nat) (past : List Event) (now : Nat) (fresh : Octets)
    (htimes : (past.map Event.now ++ [now]).Pairwise (· ≤ ·)) :
    let created := create settings key pinned made
    let history := created.history past
    let s := past.foldl after created
    ((∃ result, s.pollInReach? fresh now = some result ∧
        IsDecided settings history s now result) ↔
      (s.phase = .authorized → ∀ sign ∈ signTime? history, now - sign < settings.udpTimeout →
        ∀ ping ∈ pingTime? history, ∀ interval ∈ settings.pingInterval,
          ping + interval < clockEnd)) ∧
    IsDecided settings history s now (s.poll fresh now) ∧
    (∀ event, s.IsNoSign event → ∀ fresh' later,
      ((∃ result, (s.after event).pollInReach? fresh' later = some result ∧
          (s.after event).Expires result) ↔
        ∃ result, s.pollInReach? fresh' later = some result ∧ s.Expires result)) ∧
    ∀ source destination content content',
      (s.handle (.authorized source destination content) now).1 =
        (s.handle (.authorized source destination content') now).1 := by
  intro created history s
  have hsettings : s.settings = settings := settings_run created past
  have htimed : Timed history s := timed_run settings key pinned made past
  have hpast (time : Nat) (htime : time ∈ pingTime? history) : time ≤ now := by
    obtain ⟨step, hstep, rfl⟩ := exists_of_lastTime?_eq_some htime
    have hmem : step.action.now ∈ past.map Event.now :=
      List.mem_map_of_mem (action_mem_of_mem_steps hstep)
    exact (List.pairwise_append.1 htimes).2.2 _ hmem now (List.mem_singleton_self now)
  have hdecided := htimed.isDecided_poll hsettings hpast fresh
  refine ⟨?_, hdecided, fun event hevent fresh' later => ?_, handle_authorized_eq⟩
  · rw [← hsettings, ← htimed.reachesPing_iff, hsettings]
    constructor
    · rintro ⟨result, hresult, -⟩
      exact (pollInReach?_eq_some_iff.1 hresult).1
    · exact fun hreach => ⟨_, pollInReach?_eq_some_iff.2 ⟨hreach, rfl⟩, hdecided⟩
  · rw [exists_expires_iff, exists_expires_iff, expires_after_iff hevent]

/-- A session pings once its interval has passed since the welcome, although it heard of the peer in
between, and expires when the peer has been silent for the timeout since. -/
theorem poll_after_last_sign_of_life :
    let past : List Event := [⟨0, .start⟩, ⟨5, .handle (.hello [0x61, 0x7c, 0x62])⟩,
      ⟨10, .handle (.authorized none none .pong)⟩]
    let s := past.foldl after (create {} [0x6b] true 0)
    (past.map Event.now ++ [3005]).Pairwise (· ≤ ·) ∧
      (past.map Event.now ++ [300010]).Pairwise (· ≤ ·) ∧
      s.pollInReach? [] 3005 = some ({ s with lastPing := some 3005 },
        [.transmit (.authorized (some [0x6b]) (some [0x61]) .ping)]) ∧
      ∃ result, s.pollInReach? [] 300010 = some result ∧ s.Expires result := by
  intro past s
  have htimes : (past.map Event.now ++ [3005]).Pairwise (· ≤ ·) := by decide
  have htimes' : (past.map Event.now ++ [300010]).Pairwise (· ≤ ·) := by decide
  have hsign : signTime? ((create {} [0x6b] true 0).history past) = some 10 := by decide
  have hping : pingTime? ((create {} [0x6b] true 0).history past) = some 5 := by decide
  have hreach : ∀ ping ∈ pingTime? ((create {} [0x6b] true 0).history past),
      ∀ interval ∈ ({} : SessionSettings).pingInterval, ping + interval < clockEnd := by
    rw [hping]
    rintro _ ⟨⟩ _ ⟨⟩
    decide +kernel
  refine ⟨htimes, htimes', ?_, ?_⟩
  · obtain ⟨hdecided, -⟩ := poll_decided_iff {} [0x6b] true 0 past 3005 [] htimes
    obtain ⟨result, hresult, hdecided⟩ := hdecided.2 fun _ _ _ _ => hreach
    obtain ⟨sign, ping, hsign', hping', -, hpoll⟩ := hdecided.authorized rfl
    obtain rfl : 10 = sign := Option.some.inj (hsign.symm.trans hsign')
    obtain rfl : 5 = ping := Option.some.inj (hping.symm.trans hping')
    rw [hresult, hpoll (by decide), if_pos (by decide)]
    rfl
  · obtain ⟨hdecided, -⟩ := poll_decided_iff {} [0x6b] true 0 past 300010 [] htimes'
    obtain ⟨result, hresult, hdecided⟩ := hdecided.2 fun _ _ _ _ => hreach
    obtain ⟨sign, -, hsign', -, hexpires, -⟩ := hdecided.authorized rfl
    obtain rfl : 10 = sign := Option.some.inj (hsign.symm.trans hsign')
    exact ⟨result, hresult, hexpires.2 (by decide)⟩

/-- With an endless interval of the pings, letting time pass comes to nothing until the peer has
been silent for the timeout, where the history decides that the session stays as it is. -/
theorem not_decided_of_endless_interval :
    let past : List Event := [⟨0, .start⟩, ⟨0, .handle (.hello [0x61, 0x7c, 0x62])⟩]
    let settings : SessionSettings := { pingInterval := some (18446744073709551615 * 1000) }
    let created := create settings [0x6b] false 0
    let history := created.history past
    let s := past.foldl after created
    (past.map Event.now ++ [3000]).Pairwise (· ≤ ·) ∧ s.phase = .authorized ∧
      IsDecided settings history s 3000 (s, []) ∧ s.pollInReach? [0x6c] 3000 = none ∧
      ¬ ∃ result, s.pollInReach? [0x6c] 3000 = some result ∧
        IsDecided settings history s 3000 result := by
  intro past settings created history s
  have htimed : Timed history s := timed_run settings [0x6b] false 0 past
  have hpast : ∀ time ∈ pingTime? history, time ≤ 3000 := by
    rw [show pingTime? history = some 0 by decide]
    rintro _ ⟨⟩
    decide
  have hpoll : s.poll [0x6c] 3000 = (s, []) := by decide +kernel
  have hnone : s.pollInReach? [0x6c] 3000 = none := by decide +kernel
  exact ⟨by decide, rfl, hpoll ▸ htimed.isDecided_poll rfl hpast [0x6c], hnone, by simp [hnone]⟩

end Session

end SpaGateway
